/-
The written forms of lists and objects, taken apart where the readers stop:
behind the quote of a key, and behind an item.
-/
import SampleLine.Proofs.Json.Values

namespace SampleLine

namespace Json

theorem not_isSpace_of_isDigit {c : Char} (digit : c.isDigit = true) :
    isSpace c = false ∧ c ≠ ']' := by
  constructor
  · rw [isSpace, decide_eq_false_iff_not]
    rintro (rfl | rfl | rfl | rfl) <;> exact absurd digit (by decide)
  · rintro rfl
    exact absurd digit (by decide)

theorem NumberForm.front {x : Float} {text : Text} (written : NumberForm x text) :
    ∃ c later, text = c :: later ∧ c.isDigit = true := by
  obtain ⟨⟨⟨nonempty, digits⟩, -⟩, -, -⟩ := written
  obtain ⟨c, whole, rfl⟩ := List.exists_cons_of_ne_nil nonempty
  exact ⟨c, _, rfl, digits c List.mem_cons_self⟩

/-- The text of a value starts with a character that is no blank and closes no list. -/
theorem Denotes.front {value : Value} {text : Text} (denotes : Denotes value text) :
    ∃ c later, text = c :: later ∧ isSpace c = false ∧ c ≠ ']' := by
  cases denotes with
  | nullWord => exact ⟨_, _, rfl, by decide, by decide⟩
  | trueWord => exact ⟨_, _, rfl, by decide, by decide⟩
  | falseWord => exact ⟨_, _, rfl, by decide, by decide⟩
  | number written =>
      obtain ⟨c, later, rfl, digit⟩ := written.front
      exact ⟨c, later, rfl, not_isSpace_of_isDigit digit⟩
  | negative _ => exact ⟨_, _, rfl, by decide, by decide⟩
  | text _ => exact ⟨_, _, rfl, by decide, by decide⟩
  | noItems _ => exact ⟨_, _, rfl, by decide, by decide⟩
  | list _ => exact ⟨_, _, rfl, by decide, by decide⟩
  | noEntries _ => exact ⟨_, _, rfl, by decide, by decide⟩
  | object _ => exact ⟨_, _, rfl, by decide, by decide⟩

/-- The text of a value is what stands behind the blanks before it. -/
theorem Denotes.skip_eq_iff {value : Value} {text : Text} (denotes : Denotes value text)
    (input rest : Text) :
    skip input = text ++ rest ↔ ∃ blank, Blank blank ∧ input = blank ++ text ++ rest := by
  obtain ⟨c, later, rfl, solid, -⟩ := denotes.front
  simp only [List.cons_append, skip_eq_cons_iff, solid, true_and, List.append_assoc]

/-- An entry behind the opening quote of its key, up to what closes the entry. -/
def EntryAt (key : Text) (value : Value) (input rest : Text) : Prop :=
  ∃ body afterKey afterColon text afterValue,
    Spelling key body ∧ input = body ++ '"' :: afterKey ∧ skip afterKey = ':' :: afterColon ∧
      Denotes value text ∧ skip afterColon = text ++ afterValue ∧ skip afterValue = rest

/-- An entry that is closed starts with blanks and the quote of its key. -/
theorem EntryForm.exists_entryAt {key text : Text} {value : Value}
    (written : EntryForm (key, value) text) {closer : Char} (solid : isSpace closer = false)
    (rest : Text) :
    ∃ input, skip (text ++ closer :: rest) = '"' :: input ∧
      EntryAt key value input (closer :: rest) := by
  cases written with
  | @mk _ body _ before afterKey beforeValue inner behind hbefore spelled hafterKey hbeforeValue
      item hbehind =>
      have atCloser : skip (behind ++ closer :: rest) = closer :: rest :=
        (skip_eq_cons_iff _ _ _).2 ⟨solid, behind, hbehind, rfl⟩
      have atValue := (item.skip_eq_iff (beforeValue ++ inner ++ (behind ++ closer :: rest)) _).2
        ⟨beforeValue, hbeforeValue, rfl⟩
      have atColon : skip (afterKey ++ ':' ::
          (beforeValue ++ inner ++ (behind ++ closer :: rest))) = ':' :: _ :=
        (skip_eq_cons_iff _ _ _).2 ⟨by decide, afterKey, hafterKey, rfl⟩
      have atQuote : skip (before ++ '"' :: body ++ '"' :: afterKey ++ ':' :: beforeValue ++
          inner ++ behind ++ closer :: rest) = '"' :: (body ++ '"' :: (afterKey ++ ':' ::
            (beforeValue ++ inner ++ (behind ++ closer :: rest)))) :=
        (skip_eq_cons_iff _ _ _).2 ⟨by decide, before, hbefore, by simp⟩
      exact ⟨_, atQuote, body, _, _, inner, _, spelled, rfl, atColon, item, atValue, atCloser⟩

theorem EntryAt.exists_entryForm {key input rest : Text} {value : Value} {closer : Char}
    (read : EntryAt key value input (closer :: rest)) :
    ∃ entry, EntryForm (key, value) ('"' :: entry) ∧ input = entry ++ closer :: rest := by
  obtain ⟨body, _, _, inner, _, spelled, rfl, atColon, item, atValue, atCloser⟩ := read
  obtain ⟨-, afterKey, hafterKey, rfl⟩ := (skip_eq_cons_iff _ _ _).1 atColon
  obtain ⟨beforeValue, hbeforeValue, rfl⟩ := (item.skip_eq_iff _ _).1 atValue
  obtain ⟨-, behind, hbehind, rfl⟩ := (skip_eq_cons_iff _ _ _).1 atCloser
  exact ⟨_, .mk Blank.nil spelled hafterKey hbeforeValue item hbehind, by simp⟩

/-- Blanks may stand before the entries of an object. -/
theorem EntriesForm.blank_append {entries : List (Text × Value)} {text : Text}
    (written : EntriesForm entries text) {blank : Text} (hblank : Blank blank) :
    EntriesForm entries (blank ++ text) := by
  have entry : ∀ {entry : Text × Value} {text : Text}, EntryForm entry text →
      EntryForm entry (blank ++ text) := by
    rintro _ _ ⟨hbefore, spelled, hafterKey, hbeforeValue, item, hbehind⟩
    have read := EntryForm.mk (hblank.append hbefore) spelled hafterKey hbeforeValue item hbehind
    simpa only [List.append_assoc] using read
  cases written with
  | last item => exact .last (entry item)
  | more item later =>
      rw [← List.append_assoc]
      exact .more (entry item) later

/-- What stands before an item of a list: nothing before the first one, and a
comma before a later one. -/
def Lead (first : Bool) (lead : Text) : Prop :=
  if first then lead = [] else ∃ blank, Blank blank ∧ lead = blank ++ [',']

/-- What follows the items of a list that are read already, up to its bracket. -/
def ItemsAfter (first : Bool) (items : List Value) (text : Text) : Prop :=
  (items = [] ∧ Blank text) ∨
    ∃ lead later, Lead first lead ∧ text = lead ++ later ∧ ItemsForm items later

theorem nextItem_eq_another_iff (first : Bool) (input rest : Text) :
    nextItem first input = .ok (.another, rest) ↔
      ∃ lead behind, Lead first lead ∧ input = lead ++ behind ∧ skip behind = rest ∧
        MayStartItem rest := by
  cases first with
  | true =>
      rw [nextItem_first_eq_another_iff]
      constructor
      · intro h
        rcases h with ⟨front, starts⟩
        exact ⟨[], input, rfl, rfl, front, starts⟩
      · intro h
        rcases h with ⟨_, behind, rfl, rfl, front, starts⟩
        exact ⟨front, starts⟩
  | false =>
      rw [nextItem_later_eq_another_iff]
      constructor
      · intro h
        rcases h with ⟨behind, atComma, front, starts⟩
        obtain ⟨-, blank, hblank, rfl⟩ := (skip_eq_cons_iff _ _ _).1 atComma
        exact ⟨blank ++ [','], behind, ⟨blank, hblank, rfl⟩, by simp, front, starts⟩
      · intro h
        rcases h with ⟨_, behind, ⟨blank, hblank, rfl⟩, rfl, front, starts⟩
        exact ⟨behind, (skip_eq_cons_iff _ _ _).2 ⟨by decide, blank, hblank, by simp⟩, front,
          starts⟩

theorem itemsAfter_nil_iff (first : Bool) (text : Text) :
    ItemsAfter first [] text ↔ Blank text := by
  constructor
  · intro h
    rcases h with ⟨-, hblank⟩ | ⟨_, _, _, _, written⟩
    · exact hblank
    · cases written
  · exact fun hblank => .inl ⟨rfl, hblank⟩

theorem itemsForm_cons_iff (value : Value) (items : List Value) (text : Text) :
    ItemsForm (value :: items) text ↔
      ∃ before inner later, Blank before ∧ Denotes value inner ∧ ItemsAfter false items later ∧
        text = before ++ inner ++ later := by
  constructor
  · intro written
    cases written with
    | @last _ before inner behind hbefore item hbehind =>
        exact ⟨before, inner, behind, hbefore, item, .inl ⟨rfl, hbehind⟩, rfl⟩
    | @more _ _ before inner behind rest hbefore item hbehind later =>
        exact ⟨before, inner, behind ++ ',' :: rest, hbefore, item,
          .inr ⟨behind ++ [','], rest, ⟨behind, hbehind, rfl⟩, by simp, later⟩, by simp⟩
  · intro h
    rcases h with ⟨before, inner, _, hbefore, item, ⟨rfl, hbehind⟩ |
      ⟨_, rest, ⟨behind, hbehind, rfl⟩, rfl, later⟩, rfl⟩
    · exact .last hbefore item hbehind
    · have written := ItemsForm.more hbefore item hbehind later
      simpa using written

theorem itemsAfter_cons_iff (first : Bool) (value : Value) (items : List Value) (text : Text) :
    ItemsAfter first (value :: items) text ↔
      ∃ lead before inner later, Lead first lead ∧ Blank before ∧ Denotes value inner ∧
        ItemsAfter false items later ∧ text = lead ++ (before ++ inner ++ later) := by
  constructor
  · intro h
    rcases h with ⟨absurd, -⟩ | ⟨lead, _, hlead, rfl, written⟩
    · cases absurd
    · obtain ⟨before, inner, later, hbefore, item, after, rfl⟩ :=
        (itemsForm_cons_iff value items _).1 written
      exact ⟨lead, before, inner, later, hlead, hbefore, item, after, rfl⟩
  · intro h
    rcases h with ⟨lead, before, inner, later, hlead, hbefore, item, after, rfl⟩
    have written := (itemsForm_cons_iff value items _).2
      ⟨before, inner, later, hbefore, item, after, rfl⟩
    exact .inr ⟨lead, _, hlead, rfl, written⟩

theorem denotes_list_iff (items : List Value) (text : Text) :
    Denotes (.list items) text ↔
      ∃ body, ItemsAfter true items body ∧ text = '[' :: body ++ [']'] := by
  constructor
  · intro denotes
    cases denotes with
    | @noItems blank hblank => exact ⟨blank, .inl ⟨rfl, hblank⟩, rfl⟩
    | @list _ body written => exact ⟨body, .inr ⟨[], body, rfl, rfl, written⟩, rfl⟩
  · intro h
    rcases h with ⟨body, ⟨rfl, hblank⟩ | ⟨_, _, rfl, rfl, written⟩, rfl⟩
    · exact .noItems hblank
    · exact .list written

end Json

end SampleLine
