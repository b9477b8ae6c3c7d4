/-
The options that a JSON value gives, field by field: the value that stands for
a field, or the default where there is none.  Filling in a draft entry by entry,
or item by item, computes them.
-/
import SampleLine.Options.Supplied
import SampleLine.Proofs.Hyphen.Reading

namespace SampleLine

namespace Options

inductive Field.Holds : (field : Field) → field.Value → Json.Value → Prop where
  | target (word : Text) : Holds .target word (.text word)
  | formName (form : HyphenForm) : Holds .form form (.text form.name)
  | formEntry (form : HyphenForm) : Holds .form form (.object [(form.name, .null)])
  | verbose (flag : Bool) : Holds .verbose flag (.boolean flag)

def get (options : Options) : (field : Field) → field.Value
  | .target => options.target
  | .form => options.form
  | .verbose => options.verbose

/-- The options that a JSON value gives.  In an object each key names a field and
no key comes twice; a list gives the first fields.  A field that gets no value
has its default. -/
inductive GivenBy (options : Options) : Json.Value → Prop where
  | object {entries : List (Text × Json.Value)} (distinct : (entries.map Prod.fst).Nodup)
      (known : ∀ entry ∈ entries, entry.1 ∈ Field.names)
      (given : ∀ (field : Field) (value : Json.Value), (field.name, value) ∈ entries →
        field.Holds (options.get field) value)
      (left : ∀ field : Field, field.name ∉ entries.map Prod.fst →
        options.get field = default.get field) : GivenBy options (.object entries)
  | list {items : List Json.Value} (short : items.length ≤ Field.all.length)
      (given : ∀ (field : Field) (value : Json.Value), (field, value) ∈ Field.all.zip items →
        field.Holds (options.get field) value)
      (left : ∀ field : Field, field ∉ (Field.all.zip items).map Prod.fst →
        options.get field = default.get field) : GivenBy options (.list items)

theorem ext_get {first second : Options} (same : ∀ field, first.get field = second.get field) :
    first = second := by
  obtain ⟨target, form, verbose⟩ := first
  obtain ⟨target', form', verbose'⟩ := second
  obtain rfl : target = target' := same .target
  obtain rfl : form = form' := same .form
  obtain rfl : verbose = verbose' := same .verbose
  rfl

theorem Field.ofValue?_eq_some_iff (field : Field) (value : field.Value) (json : Json.Value) :
    field.ofValue? json = some value ↔ field.Holds value json := by
  cases field with
  | target =>
      constructor
      · intro found
        cases json with
        | text word =>
            cases found
            exact .target value
        | _ => cases found
      · rintro ⟨⟩
        rfl
  | form =>
      rw [Field.ofValue?, HyphenForm.ofValue?_eq_some_iff]
      constructor
      · intro h
        rcases h with rfl | rfl
        · exact .formName value
        · exact .formEntry value
      · rintro (_ | _)
        · exact .inl rfl
        · exact .inr rfl
  | verbose =>
      constructor
      · intro found
        cases json with
        | boolean flag =>
            cases found
            exact .verbose value
        | _ => cases found
      · rintro ⟨⟩
        rfl

theorem Field.name_inj {first second : Field} : first.name = second.name ↔ first = second := by
  cases first <;> cases second <;> decide

theorem Field.mem_names_iff (key : Text) :
    key ∈ Field.names ↔ ∃ field : Field, key = field.name := by
  constructor
  · intro member
    obtain ⟨field, -, rfl⟩ := List.mem_map.1 member
    exact ⟨field, rfl⟩
  · intro h
    rcases h with ⟨field, rfl⟩
    cases field <;> decide

namespace Draft

def get (draft : Draft) : (field : Field) → Option field.Value
  | .target => draft.target
  | .form => draft.form
  | .verbose => draft.verbose

theorem ext_get {first second : Draft} (same : ∀ field, first.get field = second.get field) :
    first = second := by
  obtain ⟨target, form, verbose⟩ := first
  obtain ⟨target', form', verbose'⟩ := second
  obtain rfl : target = target' := same .target
  obtain rfl : form = form' := same .form
  obtain rfl : verbose = verbose' := same .verbose
  rfl

@[simp] theorem get_empty (field : Field) : empty.get field = none := by
  cases field <;> rfl

@[simp] theorem get_put_self (draft : Draft) (field : Field) (value : field.Value) :
    (draft.put field value).get field = some value := by
  cases field <;> rfl

theorem get_put_of_ne (draft : Draft) {field other : Field} (distinct : other ≠ field)
    (value : field.Value) : (draft.put field value).get other = draft.get other := by
  cases field <;> cases other <;> first | rfl | exact absurd rfl distinct

theorem get_complete (draft : Draft) (field : Field) :
    draft.complete.get field = (draft.get field).getD (default.get field) := by
  cases field <;> rfl

theorem get_complete_of_some {draft : Draft} {field : Field} {held : field.Value}
    (filled : draft.get field = some held) : draft.complete.get field = held := by
  rw [get_complete, filled, Option.getD_some]

theorem get_complete_of_none {draft : Draft} {field : Field}
    (unset : draft.get field = none) : draft.complete.get field = default.get field := by
  rw [get_complete, unset, Option.getD_none]

/-- The draft that agrees with given options in the fields that are `filled`. -/
def ofOptions (options : Options) (filled : Field → Bool) : Draft :=
  { target := if filled .target then some options.target else none
    form := if filled .form then some options.form else none
    verbose := if filled .verbose then some options.verbose else none }

theorem get_ofOptions (options : Options) (filled : Field → Bool) (field : Field) :
    (ofOptions options filled).get field =
      if filled field then some (options.get field) else none := by
  cases field <;> rfl

theorem complete_ofOptions {options : Options} {filled : Field → Bool}
    (left : ∀ field, filled field = false → options.get field = default.get field) :
    (ofOptions options filled).complete = options := by
  apply Options.ext_get
  intro field
  rw [get_complete, get_ofOptions]
  cases hfilled : filled field with
  | true => rfl
  | false => exact (left field hfilled).symm

theorem ofEntries?_cons_eq_some_iff (draft out : Draft) (key : Text) (value : Json.Value)
    (entries : List (Text × Json.Value)) :
    draft.ofEntries? ((key, value) :: entries) = some out ↔
      ∃ (field : Field) (held : field.Value), key = field.name ∧ draft.has field = false ∧
        field.Holds held value ∧ (draft.put field held).ofEntries? entries = some out := by
  simp only [← Field.ofValue?_eq_some_iff, ← Field.ofName?_eq_some_iff, ofEntries?]
  cases Field.ofName? key with
  | none => simp
  | some field =>
      cases hset : draft.has field with
      | true => simp [hset]
      | false =>
          cases hvalue : field.ofValue? value with
          | none => simp [hset, hvalue]
          | some held => simp [hset, hvalue]

theorem ofItems?_cons_eq_some_iff (draft out : Draft) (field : Field) (fields : List Field)
    (value : Json.Value) (items : List Json.Value) :
    draft.ofItems? (field :: fields) (value :: items) = some out ↔
      ∃ held : field.Value, field.Holds held value ∧
        (draft.put field held).ofItems? fields items = some out := by
  simp only [← Field.ofValue?_eq_some_iff, ofItems?]
  cases field.ofValue? value with
  | none => simp
  | some held => simp

/-- What filling in the entries of an object leaves in a draft. -/
def FilledBy (draft out : Draft) (entries : List (Text × Json.Value)) : Prop :=
  (entries.map Prod.fst).Nodup ∧
    (∀ entry ∈ entries, ∃ field : Field, entry.1 = field.name ∧ draft.has field = false) ∧
    ∀ field : Field,
      (∀ value, (field.name, value) ∈ entries →
        ∃ held, out.get field = some held ∧ field.Holds held value) ∧
      (field.name ∉ entries.map Prod.fst → out.get field = draft.get field)

theorem filledBy_nil_iff (draft out : Draft) : draft.FilledBy out [] ↔ draft = out := by
  constructor
  · intro h
    rcases h with ⟨-, -, same⟩
    exact ext_get fun field => ((same field).2 List.not_mem_nil).symm
  · rintro rfl
    exact ⟨List.nodup_nil, by simp, fun field => ⟨by simp, fun _ => rfl⟩⟩

/-- The first of the entries fills in its field, and the others the rest. -/
theorem FilledBy.exists_put {draft out : Draft} {key : Text} {value : Json.Value}
    {entries : List (Text × Json.Value)} (all : draft.FilledBy out ((key, value) :: entries)) :
    ∃ (field : Field) (held : field.Value), key = field.name ∧ draft.has field = false ∧
      field.Holds held value ∧ (draft.put field held).FilledBy out entries := by
  obtain ⟨distinct, known, filled⟩ := all
  rw [List.map_cons, List.nodup_cons] at distinct
  obtain ⟨field, rfl, unset⟩ := known (key, value) List.mem_cons_self
  obtain ⟨held, hheld, holds⟩ := (filled field).1 value List.mem_cons_self
  refine ⟨field, held, rfl, unset, holds, distinct.2, ?_, ?_⟩
  · intro entry member
    obtain ⟨other, same, unset'⟩ := known entry (List.mem_cons_of_mem _ member)
    refine ⟨other, same, ?_⟩
    have differ : field ≠ other := by
      rintro rfl
      exact distinct.1 (List.mem_map.2 ⟨entry, member, same⟩)
    simpa [has_put, unset'] using differ
  · intro other
    refine ⟨fun value' member => (filled other).1 value' (List.mem_cons_of_mem _ member), ?_⟩
    intro absent
    by_cases same : other = field
    · subst same
      rw [hheld, get_put_self]
    · rw [get_put_of_ne draft same]
      refine (filled other).2 ?_
      simpa [same, Field.name_inj] using absent

/-- What is filled in already gets no second entry. -/
theorem FilledBy.name_not_mem {draft out : Draft} {field : Field} {held : field.Value}
    {entries : List (Text × Json.Value)} (later : (draft.put field held).FilledBy out entries) :
    field.name ∉ entries.map Prod.fst := by
  obtain ⟨-, known, -⟩ := later
  intro member
  obtain ⟨entry, hentry, same⟩ := List.mem_map.1 member
  obtain ⟨other, same', unset⟩ := known entry hentry
  rw [same, Field.name_inj] at same'
  subst same'
  simp [has_put] at unset

theorem FilledBy.cons {draft out : Draft} {field : Field} {held : field.Value} {value : Json.Value}
    {entries : List (Text × Json.Value)} (unset : draft.has field = false)
    (holds : field.Holds held value) (later : (draft.put field held).FilledBy out entries) :
    draft.FilledBy out ((field.name, value) :: entries) := by
  have fresh : field.name ∉ entries.map Prod.fst := later.name_not_mem
  obtain ⟨distinct, known, filled⟩ := later
  refine ⟨List.nodup_cons.2 ⟨fresh, distinct⟩, ?_, ?_⟩
  · intro entry member
    rcases List.mem_cons.1 member with rfl | member
    · exact ⟨field, rfl, unset⟩
    · obtain ⟨other, same, unset'⟩ := known entry member
      rw [has_put, Bool.or_eq_false_iff] at unset'
      exact ⟨other, same, unset'.1⟩
  · intro other
    refine ⟨?_, ?_⟩
    · intro value' member
      rcases List.mem_cons.1 member with same | member
      · obtain ⟨sameName, rfl⟩ := Prod.mk.inj same
        rw [Field.name_inj] at sameName
        subst sameName
        exact ⟨held, by rw [(filled other).2 fresh, get_put_self], holds⟩
      · exact (filled other).1 value' member
    · intro absent
      rw [List.map_cons, List.mem_cons, not_or, Field.name_inj] at absent
      rw [(filled other).2 absent.2, get_put_of_ne draft absent.1]

theorem filledBy_cons_iff (draft out : Draft) (key : Text) (value : Json.Value)
    (entries : List (Text × Json.Value)) :
    draft.FilledBy out ((key, value) :: entries) ↔
      ∃ (field : Field) (held : field.Value), key = field.name ∧ draft.has field = false ∧
        field.Holds held value ∧ (draft.put field held).FilledBy out entries := by
  refine ⟨FilledBy.exists_put, ?_⟩
  intro h
  rcases h with ⟨field, held, rfl, unset, holds, later⟩
  exact FilledBy.cons unset holds later

theorem ofEntries?_eq_some_iff (draft out : Draft) (entries : List (Text × Json.Value)) :
    draft.ofEntries? entries = some out ↔ draft.FilledBy out entries := by
  induction entries generalizing draft with
  | nil => simp [ofEntries?, filledBy_nil_iff]
  | cons entry entries ih =>
      obtain ⟨key, value⟩ := entry
      simp only [filledBy_cons_iff, ← ih, ofEntries?_cons_eq_some_iff]

/-- What filling in the items of a list, field by field, leaves in a draft. -/
def FilledInOrder (draft out : Draft) (fields : List Field) (items : List Json.Value) : Prop :=
  items.length ≤ fields.length ∧
    (∀ (field : Field) (value : Json.Value), (field, value) ∈ fields.zip items →
      ∃ held, out.get field = some held ∧ field.Holds held value) ∧
    ∀ field : Field, field ∉ (fields.zip items).map Prod.fst → out.get field = draft.get field

theorem filledInOrder_nil_iff (draft out : Draft) (fields : List Field) :
    draft.FilledInOrder out fields [] ↔ draft = out := by
  constructor
  · intro h
    rcases h with ⟨-, -, same⟩
    exact ext_get fun field => (same field (by simp)).symm
  · rintro rfl
    exact ⟨Nat.zero_le _, by simp, fun _ _ => rfl⟩

theorem filledInOrder_cons_iff (draft out : Draft) {field : Field} {fields : List Field}
    (fresh : field ∉ fields) (value : Json.Value) (items : List Json.Value) :
    draft.FilledInOrder out (field :: fields) (value :: items) ↔
      ∃ held : field.Value, field.Holds held value ∧
        (draft.put field held).FilledInOrder out fields items := by
  have fresh' : field ∉ (fields.zip items).map Prod.fst := by
    intro member
    obtain ⟨⟨_, value'⟩, paired, rfl⟩ := List.mem_map.1 member
    exact fresh (List.of_mem_zip paired).1
  constructor
  · intro h
    rcases h with ⟨short, filled, left⟩
    obtain ⟨held, hheld, holds⟩ := filled field value List.mem_cons_self
    refine ⟨held, holds, Nat.le_of_succ_le_succ short, ?_, ?_⟩
    · exact fun other value' member => filled other value' (List.mem_cons_of_mem _ member)
    · intro other absent
      by_cases same : other = field
      · subst same
        rw [hheld, get_put_self]
      · rw [get_put_of_ne draft same]
        refine left other ?_
        simpa [same] using absent
  · intro h
    rcases h with ⟨held, holds, short, filled, left⟩
    refine ⟨Nat.succ_le_succ short, ?_, ?_⟩
    · intro other value' member
      rcases List.mem_cons.1 member with same | member
      · obtain ⟨rfl, rfl⟩ := Prod.mk.inj same
        exact ⟨held, by rw [left other fresh', get_put_self], holds⟩
      · exact filled other value' member
    · intro other absent
      rw [List.zip_cons_cons, List.map_cons, List.mem_cons, not_or] at absent
      rw [left other absent.2, get_put_of_ne draft absent.1]

theorem ofItems?_eq_some_iff (draft out : Draft) {fields : List Field} (distinct : fields.Nodup)
    (items : List Json.Value) :
    draft.ofItems? fields items = some out ↔ draft.FilledInOrder out fields items := by
  induction items generalizing draft fields with
  | nil => cases fields <;> simp [ofItems?, filledInOrder_nil_iff]
  | cons value items ih =>
      cases fields with
      | nil =>
          refine iff_of_false (by simp [ofItems?]) ?_
          intro h
          rcases h with ⟨short, -, -⟩
          exact absurd short (Nat.not_succ_le_zero _)
      | cons field fields =>
          rw [List.nodup_cons] at distinct
          simp only [filledInOrder_cons_iff draft out distinct.1, ← ih _ distinct.2,
            ofItems?_cons_eq_some_iff]

end Draft

theorem ofEntries?_empty_iff_givenBy (entries : List (Text × Json.Value)) (options : Options) :
    (∃ out, Draft.empty.ofEntries? entries = some out ∧ out.complete = options) ↔
      options.GivenBy (.object entries) := by
  simp only [Draft.ofEntries?_eq_some_iff]
  constructor
  · intro h
    rcases h with ⟨out, ⟨distinct, known, filled⟩, rfl⟩
    refine .object distinct ?_ ?_ ?_
    · intro entry member
      obtain ⟨field, same, -⟩ := known entry member
      exact (Field.mem_names_iff entry.1).2 ⟨field, same⟩
    · intro field value member
      obtain ⟨held, hheld, holds⟩ := (filled field).1 value member
      rwa [Draft.get_complete_of_some hheld]
    · intro field absent
      refine Draft.get_complete_of_none ?_
      rw [(filled field).2 absent, Draft.get_empty]
  · intro gives
    cases gives with
    | object distinct known given left =>
        refine ⟨Draft.ofOptions options fun field => field.name ∈ entries.map Prod.fst,
          ⟨distinct, ?_, ?_⟩, Draft.complete_ofOptions fun field absent => left field ?_⟩
        · intro entry member
          obtain ⟨field, same⟩ := (Field.mem_names_iff entry.1).1 (known entry member)
          exact ⟨field, same, Draft.has_empty field⟩
        · intro field
          rw [Draft.get_ofOptions, Draft.get_empty]
          constructor
          · intro value member
            have present := List.mem_map_of_mem (f := Prod.fst) member
            exact ⟨options.get field, if_pos (decide_eq_true present), given field value member⟩
          · intro absent
            exact if_neg (by simpa using absent)
        · exact of_decide_eq_false absent

theorem ofItems?_empty_iff_givenBy (items : List Json.Value) (options : Options) :
    (∃ out, Draft.empty.ofItems? Field.all items = some out ∧ out.complete = options) ↔
      options.GivenBy (.list items) := by
  have distinct : Field.all.Nodup := by decide
  simp only [Draft.ofItems?_eq_some_iff _ _ distinct]
  constructor
  · intro h
    rcases h with ⟨out, ⟨short, filled, left⟩, rfl⟩
    refine .list short ?_ ?_
    · intro field value member
      obtain ⟨held, hheld, holds⟩ := filled field value member
      rwa [Draft.get_complete_of_some hheld]
    · intro field absent
      refine Draft.get_complete_of_none ?_
      rw [left field absent, Draft.get_empty]
  · intro gives
    cases gives with
    | list short given left =>
        refine ⟨Draft.ofOptions options fun field => field ∈ (Field.all.zip items).map Prod.fst,
          ⟨short, ?_, ?_⟩, Draft.complete_ofOptions fun field absent => left field ?_⟩
        · intro field value member
          have present := List.mem_map_of_mem (f := Prod.fst) member
          rw [Draft.get_ofOptions]
          exact ⟨options.get field, if_pos (decide_eq_true present), given field value member⟩
        · intro field absent
          rw [Draft.get_ofOptions, Draft.get_empty]
          exact if_neg (by simpa using absent)
        · exact of_decide_eq_false absent

/-- The options of a value are those that it gives. -/
theorem ofValue?_eq_some_iff (value : Json.Value) (options : Options) :
    ofValue? value = some options ↔ options.GivenBy value := by
  cases value with
  | object entries =>
      rw [← ofEntries?_empty_iff_givenBy, ofValue?, Option.map_eq_some_iff]
  | list items =>
      rw [← ofItems?_empty_iff_givenBy, ofValue?, Option.map_eq_some_iff]
  | _ => exact iff_of_false (by simp [ofValue?]) nofun

end Options

end SampleLine
