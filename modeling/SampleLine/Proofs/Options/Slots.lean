/-
The slots of written options: where the value of a field stands.  The front of an object
up to the colon of an entry, and the front of a list up to an item, leave the reader with a
draft in which that field is open.  It reads the value as it would alone, and then goes on
in a way that does not depend on the value.
-/
import SampleLine.Proofs.Options.Keys

namespace SampleLine

namespace Options

open Json

namespace Draft

@[simp] theorem put_put_self (draft : Draft) (field : Field) (value value' : field.Value) :
    (draft.put field value).put field value' = draft.put field value' := by
  cases field <;> rfl

theorem put_comm (draft : Draft) {field other : Field} (distinct : field ≠ other)
    (value : field.Value) (value' : other.Value) :
    (draft.put field value).put other value' = (draft.put other value').put field value := by
  cases field <;> cases other <;> first | rfl | exact absurd rfl distinct

/-- Entries fill in the same, whatever a field holds that they leave alone. -/
theorem ofEntries?_put {draft out : Draft} {field : Field} {value : field.Value}
    {entries : List (Text × Value)} (filled : (draft.put field value).ofEntries? entries = some out)
    (value' : field.Value) :
    (draft.put field value').ofEntries? entries = some (out.put field value') := by
  induction entries generalizing draft with
  | nil =>
      cases filled
      rw [put_put_self]
      rfl
  | cons entry entries ih =>
      obtain ⟨key, json⟩ := entry
      obtain ⟨other, held, rfl, unset, holds, filledLater⟩ :=
        (ofEntries?_cons_eq_some_iff _ _ _ _ _).1 filled
      rw [has_put, Bool.or_eq_false_iff, beq_eq_false_iff_ne] at unset
      rw [put_comm draft unset.2] at filledLater
      have unset' : (draft.put field value').has other = false := by
        rw [has_put, unset.1, Bool.false_or, beq_eq_false_iff_ne]
        exact unset.2
      refine (ofEntries?_cons_eq_some_iff _ _ _ _ _).2
        ⟨other, held, rfl, unset', holds, ?_⟩
      rw [put_comm draft unset.2]
      exact ih filledLater

/-- Items fill in the same, whatever a field holds that is not one of theirs. -/
theorem ofItems?_put {draft out : Draft} {field : Field} {value : field.Value}
    {fields : List Field} (absent : field ∉ fields) {items : List Value}
    (filled : (draft.put field value).ofItems? fields items = some out) (value' : field.Value) :
    (draft.put field value').ofItems? fields items = some (out.put field value') := by
  induction items generalizing draft fields with
  | nil =>
      rw [ofItems?] at filled ⊢
      cases filled
      rw [put_put_self]
  | cons json items ih =>
      cases fields with
      | nil => cases filled
      | cons other fields =>
          obtain ⟨distinct, absentLater⟩ := not_or.1 (List.mem_cons.not.1 absent)
          obtain ⟨held, holds, filledLater⟩ := (ofItems?_cons_eq_some_iff _ _ _ _ _ _).1 filled
          rw [put_comm draft distinct] at filledLater
          refine (ofItems?_cons_eq_some_iff _ _ _ _ _ _).2 ⟨held, holds, ?_⟩
          rw [put_comm draft distinct]
          exact ih absentLater filledLater

end Draft

/-- Go on with an object behind the value of an entry. -/
def afterEntry (draft : Draft) (input : Text) : Reading Draft :=
  (nextKey false input).bind fun (next, rest) =>
    match next with
    | .closed => .ok (draft, rest)
    | .another => readEntries draft rest

/-- A reader that goes on behind the value of a field.  It passes blanks, and it keeps
what the field holds: with another value there it does the same. -/
structure GoesOn (field : Field) (next : Draft → Text → Reading Draft) : Prop where
  blank_append : ∀ {blank : Text}, Blank blank → ∀ draft input,
    next draft (blank ++ input) = next draft input
  put : ∀ {draft out : Draft} {value : field.Value} {input rest : Text},
    next (draft.put field value) input = .ok (out, rest) →
      ∀ value', next (draft.put field value') input = .ok (out.put field value', rest)

/-- What the field held is what it holds at the end. -/
theorem GoesOn.get_eq {field : Field} {next : Draft → Text → Reading Draft}
    (goesOn : GoesOn field next) {draft out : Draft} {value : field.Value} {input rest : Text}
    (read : next (draft.put field value) input = .ok (out, rest)) :
    out.get field = some value := by
  have again := goesOn.put read value
  rw [read] at again
  have same : out = out.put field value := congrArg Prod.fst (Except.ok.inj again)
  rw [same, Draft.get_put_self]

theorem readEntries_put {draft out : Draft} {field : Field} {value : field.Value}
    {input rest : Text} (read : readEntries (draft.put field value) input = .ok (out, rest))
    (value' : field.Value) :
    readEntries (draft.put field value') input = .ok (out.put field value', rest) := by
  obtain ⟨entries, body, written, filled, rfl⟩ := exists_entriesForm_of_readEntries read
  obtain ⟨input, atQuote, read'⟩ :=
    exists_readEntries_of_entriesForm written (Draft.ofEntries?_put filled value') rest
  have quote : isSpace '"' = false := by decide
  rw [List.cons_append, skip_cons_of_not_space quote] at atQuote
  obtain ⟨-, rfl⟩ := List.cons.inj atQuote
  exact read'

theorem goesOn_afterEntry (field : Field) : GoesOn field afterEntry := by
  constructor
  · intro blank hblank draft input
    rw [afterEntry, nextKey_blank_append hblank, afterEntry]
  · intro draft out value input rest read value'
    rw [afterEntry] at read ⊢
    cases found : nextKey false input with
    | error failure =>
        rw [found] at read
        cases read
    | ok result =>
        obtain ⟨next, behind⟩ := result
        rw [found] at read
        cases next with
        | closed =>
            cases read
            simp only [Except.bind, Draft.put_put_self]
        | another => exact readEntries_put read value'

theorem goesOn_readItems {field : Field} {fields : List Field} (absent : field ∉ fields) :
    GoesOn field fun draft => readItems false draft fields := by
  constructor
  · intro blank hblank draft input
    cases fields with
    | nil => simp only [readItems, lastItem_blank_append hblank]
    | cons other fields => simp only [readItems, nextItem_blank_append hblank]
  · intro draft out value input rest read value'
    obtain ⟨items, body, after, filled, split⟩ := (readItems_eq_ok_iff _ _ _ _ _ _).1 read
    exact (readItems_eq_ok_iff _ _ _ _ _ _).2
      ⟨items, body, after, Draft.ofItems?_put absent filled value', split⟩

/-- Behind this front of an object the value of a field stands.  The entries in front of
its key and its colon fit, and none of them is for that field. -/
inductive EntrySlot (field : Field) : Text → Prop where
  | mk {entries : List (Text × Value)} {front afterKey blank : Text} (fits : Fits entries)
      (fresh : field.name ∉ entries.map Prod.fst) (written : UpToKey entries field.name front)
      (hafterKey : Blank afterKey) (hblank : Blank blank) :
      EntrySlot field (front ++ (afterKey ++ ':' :: blank))

/-- The texts of the values of some fields in a list, up to where the next item starts. -/
inductive ItemsBefore : Bool → List Field → Text → Prop where
  | nil {first : Bool} {lead blank : Text} (hlead : Lead first lead) (hblank : Blank blank) :
      ItemsBefore first [] (lead ++ blank)
  | cons {first : Bool} {field : Field} {fields : List Field} {held : field.Value} {value : Value}
      {lead blank text rest : Text} (hlead : Lead first lead) (hblank : Blank blank)
      (item : Denotes value text) (holds : field.Holds held value)
      (later : ItemsBefore false fields rest) :
      ItemsBefore first (field :: fields) (lead ++ (blank ++ text ++ rest))

/-- Behind this front of a list the value of a field stands, in front of it those of the
fields before. -/
inductive ItemSlot (field : Field) : Text → Prop where
  | mk {earlier later : List Field} {before items : Text} (hbefore : Blank before)
      (order : Field.all = earlier ++ field :: later) (written : ItemsBefore true earlier items) :
      ItemSlot field (before ++ '[' :: items)

theorem readValue_skip (field : Field) (input : Text) :
    readValue field (skip input) = readValue field input := by
  cases field with
  | target => simp only [readValue, text, skip_skip]
  | form => simp only [readValue, HyphenForm.read, skip_skip]
  | verbose => simp only [readValue, boolean, skip_skip]

theorem readValue_blank_append {blank : Text} (hblank : Blank blank) (field : Field)
    (input : Text) : readValue field (blank ++ input) = readValue field input := by
  rw [← readValue_skip, skip_append_of_blank hblank, readValue_skip]

/-- In an object the value of a field is read as it would be alone. -/
theorem EntrySlot.exists_readDraft_eq {field : Field} {front : Text}
    (slot : EntrySlot field front) :
    ∃ draft : Draft, ∀ input,
      readDraft (front ++ input) =
        (readValue field input).bind fun (value, rest) =>
          afterEntry (draft.put field value) rest := by
  cases slot with
  | @mk entries front afterKey blank fits fresh written hafterKey hblank =>
      obtain ⟨draft, filled⟩ := fits.exists_ofEntries? fun other _ => Draft.has_empty other
      obtain ⟨body, spelled, same⟩ := written.exists_readDraft_eq filled
      have unset : draft.has field = false := by
        rw [Bool.eq_false_iff, Ne, Draft.has_ofEntries?_iff filled, Draft.has_empty]
        exact fun taken => taken.elim Bool.false_ne_true fresh
      refine ⟨draft, fun input => ?_⟩
      have key := (readKey_eq_ok_iff draft (body ++ '"' :: (afterKey ++ ':' :: (blank ++ input)))
        (afterKey ++ ':' :: (blank ++ input)) ⟨field, unset⟩).2 ⟨body, spelled, rfl⟩
      have separated := (colon_eq_ok_iff (afterKey ++ ':' :: (blank ++ input)) _).2
        ((skip_eq_cons_iff _ _ _).2 ⟨by decide, afterKey, hafterKey, rfl⟩)
      rw [List.append_assoc, same, List.append_assoc, List.cons_append, readEntries_eq_bind, key,
        ← readValue_blank_append hblank field input]
      simp only [Except.bind, separated]
      rfl

/-- Behind the items of the fields before it, the item of a field is read. -/
theorem ItemsBefore.exists_readItems_eq {first : Bool} {earlier : List Field} {items : Text}
    (written : ItemsBefore first earlier items) (start : Draft) (field : Field)
    (later : List Field) :
    ∃ draft : Draft, ∀ input, MayStartItem (skip input) →
      readItems first start (earlier ++ field :: later) (items ++ input) =
        (readValue field input).bind fun (value, rest) =>
          readItems false (draft.put field value) later rest := by
  induction written generalizing start with
  | @nil first lead blank hlead hblank =>
      refine ⟨start, fun input starts => ?_⟩
      have another := (nextItem_eq_another_iff first (lead ++ (blank ++ input)) (skip input)).2
        ⟨lead, blank ++ input, hlead, rfl, skip_append_of_blank hblank input, starts⟩
      rw [List.append_assoc, List.nil_append, readItems_cons_eq_bind, another,
        ← readValue_skip field input]
      rfl
  | @cons first other fields held value lead blank text rest hlead hblank item holds _ ih =>
      obtain ⟨draft, same⟩ := ih (start.put other held)
      refine ⟨draft, fun input starts => ?_⟩
      have front : skip (blank ++ text ++ (rest ++ input)) = text ++ (rest ++ input) :=
        (item.skip_eq_iff _ _).2 ⟨blank, hblank, rfl⟩
      have startsItem : MayStartItem (text ++ (rest ++ input)) := by
        obtain ⟨c, inner, rfl, -, noBracket⟩ := item.front
        exact (mayStartItem_cons_iff c _).2 noBracket
      have another := (nextItem_eq_another_iff first (lead ++ (blank ++ text ++ (rest ++ input)))
        (text ++ (rest ++ input))).2 ⟨lead, _, hlead, rfl, front, startsItem⟩
      have given := (readValue_eq_ok_iff other (text ++ (rest ++ input)) (rest ++ input) held).2
        ⟨value, text, item, holds, (item.skip_eq_iff _ _).2 ⟨[], Blank.nil, rfl⟩⟩
      rw [List.append_assoc, List.append_assoc, List.cons_append, readItems_cons_eq_bind, another]
      simp only [Except.bind, given]
      exact same input starts

/-- In a list the value of a field is read as it would be alone, if an item starts there. -/
theorem ItemSlot.exists_readDraft_eq {field : Field} {front : Text} (slot : ItemSlot field front) :
    ∃ (draft : Draft) (later : List Field), field ∉ later ∧
      ∀ input, MayStartItem (skip input) → readDraft (front ++ input) =
        (readValue field input).bind fun (value, rest) =>
          readItems false (draft.put field value) later rest := by
  cases slot with
  | @mk earlier later before items hbefore order written =>
      obtain ⟨draft, same⟩ := written.exists_readItems_eq .empty field later
      have distinct : (earlier ++ field :: later).Nodup := by
        rw [← order]
        decide
      have absent : field ∉ later :=
        (List.nodup_cons.1 (List.nodup_append.1 distinct).2.1).1
      refine ⟨draft, later, absent, fun input starts => ?_⟩
      have atBracket : skip (before ++ '[' :: items ++ input) = '[' :: (items ++ input) :=
        (skip_eq_cons_iff _ _ _).2 ⟨by decide, before, hbefore, by simp⟩
      have bracket : ('[' : Char) ≠ '{' := by decide
      simp only [readDraft, atBracket, if_neg bracket, if_true, order]
      exact same input starts

/-- In front of its slot the options do not bear on how a value is read. -/
theorem exists_goesOn_of_slot {field : Field} {front : Text}
    (slot : EntrySlot field front ∨ ItemSlot field front) :
    ∃ (draft : Draft) (next : Draft → Text → Reading Draft), GoesOn field next ∧
      ∀ input, (ItemSlot field front → MayStartItem (skip input)) →
        readDraft (front ++ input) =
          (readValue field input).bind fun (value, rest) => next (draft.put field value) rest := by
  rcases slot with entry | item
  · obtain ⟨draft, same⟩ := entry.exists_readDraft_eq
    exact ⟨draft, afterEntry, goesOn_afterEntry field, fun input _ => same input⟩
  · obtain ⟨draft, later, absent, same⟩ := item.exists_readDraft_eq
    exact ⟨draft, fun draft => readItems false draft later, goesOn_readItems absent,
      fun input starts => same input (starts item)⟩

/-- What is refused in a slot is refused with the options. -/
theorem readDraft_eq_error_of_slot {field : Field} {front input : Text} {failure : Failure}
    (slot : EntrySlot field front ∨ ItemSlot field front)
    (starts : ItemSlot field front → MayStartItem (skip input))
    (refused : readValue field input = .error failure) :
    readDraft (front ++ input) = .error failure := by
  obtain ⟨draft, next, -, same⟩ := exists_goesOn_of_slot slot
  rw [same input starts, refused]
  rfl

end Options

end SampleLine
