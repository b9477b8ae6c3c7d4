/-
Written options.  They are read exactly from the texts of the values that give
them, whatever the order of the fields, the blanks and the spelling of strings.
-/
import SampleLine.Options.Reader
import SampleLine.Proofs.Options.Meaning

namespace SampleLine

namespace Options

open Json

/-- The value of a field is read exactly from the texts of the values that hold it. -/
theorem readValue_eq_ok_iff (field : Field) (input rest : Text) (value : field.Value) :
    readValue field input = .ok (value, rest) ↔
      ∃ json text, Denotes json text ∧ field.Holds value json ∧ skip input = text ++ rest := by
  cases field with
  | target =>
      rw [readValue, text_eq_ok_iff]
      constructor
      · intro h
        rcases h with ⟨body, spelled, front⟩
        exact ⟨_, _, .text spelled, .target value, by simp [front]⟩
      · intro h
        rcases h with ⟨json, text, item, ⟨⟩, front⟩
        cases item with
        | @text _ body spelled => exact ⟨body, spelled, by simp [front]⟩
  | form =>
      simp only [readValue, HyphenForm.read_eq_ok_iff, ← Field.ofValue?_eq_some_iff,
        Field.ofValue?]
  | verbose =>
      rw [readValue, boolean_eq_ok_iff]
      constructor
      · intro front
        refine ⟨.boolean value, flagWord value, ?_, .verbose value, front⟩
        cases value with
        | true => exact .trueWord
        | false => exact .falseWord
      · intro h
        rcases h with ⟨json, text, item, ⟨⟩, front⟩
        cases item <;> exact front

/-- A key is read exactly from the spellings of an open field's name. -/
theorem readKey_eq_ok_iff (draft : Draft) (input rest : Text)
    (field : { field : Field // draft.has field = false }) :
    readKey draft input = .ok (field, rest) ↔
      ∃ body, Spelling field.1.name body ∧ input = body ++ '"' :: rest := by
  rw [← stringBody_eq_ok_iff, readKey]
  obtain ⟨field, unset⟩ := field
  cases stringBody input with
  | error failure => simp
  | ok result =>
      obtain ⟨key, behind⟩ := result
      simp only [Except.ok.injEq, Prod.mk.injEq, ← Field.ofName?_eq_some_iff]
      cases Field.ofName? key with
      | none => simp
      | some found =>
          by_cases isOpen : draft.has found = false
          · simp [isOpen]
          · simp only [dif_neg isOpen]
            refine iff_of_false (by simp) ?_
            intro h
            rcases h with ⟨same, -⟩
            cases same
            exact isOpen unset

/-- The name of a field is one of its spellings. -/
theorem Field.spelling_name (field : Field) : Spelling field.name field.name :=
  spelling_self (by cases field <;> simp [Field.name])

/-- Behind an entry for an open field, reading goes on with what follows it. -/
theorem exists_readEntries_eq_of_entryAt {draft : Draft} {field : Field} {value : field.Value}
    {json : Value} {input rest : Text} (unset : draft.has field = false)
    (holds : field.Holds value json) (entry : EntryAt field.name json input rest) :
    ∃ afterValue, skip afterValue = rest ∧
      ∀ next behind, nextKey false afterValue = .ok (next, behind) →
        readEntries draft input =
          match next with
          | .closed => .ok (draft.put field value, behind)
          | .another => readEntries (draft.put field value) behind := by
  obtain ⟨body, afterKey, afterColon, text, afterValue, spelled, split, atColon, item, front,
    closer⟩ := entry
  have key := (readKey_eq_ok_iff draft _ _ ⟨field, unset⟩).2 ⟨body, spelled, split⟩
  have separated := (colon_eq_ok_iff _ _).2 atColon
  have given := (readValue_eq_ok_iff _ _ _ _).2 ⟨json, text, item, holds, front⟩
  refine ⟨afterValue, closer, ?_⟩
  intro next behind found
  rw [readEntries, key]
  cases next with
  | closed => simp only [separated, given, found]
  | another => simp only [separated, given, found]

/-- Reading entries is reading one entry, and the later ones behind a comma. -/
theorem readEntries_eq_ok_iff_step (draft out : Draft) (input rest : Text) :
    readEntries draft input = .ok (out, rest) ↔
      ∃ (field : Field) (value : field.Value) (json : Value),
        draft.has field = false ∧ field.Holds value json ∧
          ((EntryAt field.name json input ('}' :: rest) ∧ out = draft.put field value) ∨
            ∃ behind later, EntryAt field.name json input (',' :: behind) ∧
              skip behind = '"' :: later ∧
                readEntries (draft.put field value) later = .ok (out, rest)) := by
  constructor
  · intro h
    rw [readEntries] at h
    split at h
    · cases h
    · rename_i field unset afterKey atKey
      split at h
      · cases h
      · rename_i afterColon atColon
        split at h
        · cases h
        · rename_i value afterValue atValue
          obtain ⟨body, spelled, split⟩ := (readKey_eq_ok_iff _ _ _ _).1 atKey
          obtain ⟨json, text, item, holds, front⟩ := (readValue_eq_ok_iff _ _ _ _).1 atValue
          rw [colon_eq_ok_iff] at atColon
          refine ⟨field, value, json, unset, holds, ?_⟩
          split at h
          · cases h
          · rename_i behind closed
            obtain ⟨rfl, rfl⟩ := Prod.mk.inj (Except.ok.inj h)
            exact .inl ⟨⟨body, afterKey, afterColon, text, afterValue, spelled, split, atColon,
              item, front, (nextKey_eq_closed_iff _ _ _).1 closed⟩, rfl⟩
          · rename_i later another
            obtain ⟨behind, atComma, atQuote⟩ := (nextKey_later_eq_another_iff _ _).1 another
            exact .inr ⟨behind, later, ⟨body, afterKey, afterColon, text, afterValue, spelled,
              split, atColon, item, front, atComma⟩, atQuote, h⟩
  · intro h
    rcases h with ⟨field, value, json, unset, holds, ⟨last, rfl⟩ |
      ⟨behind, later, more, atQuote, read⟩⟩
    · obtain ⟨afterValue, atCloser, goesOn⟩ := exists_readEntries_eq_of_entryAt unset holds last
      exact goesOn .closed rest ((nextKey_eq_closed_iff false _ _).2 atCloser)
    · obtain ⟨afterValue, atComma, goesOn⟩ := exists_readEntries_eq_of_entryAt unset holds more
      have another := (nextKey_later_eq_another_iff _ _).2 ⟨behind, atComma, atQuote⟩
      exact (goesOn .another later another).trans read

theorem exists_entriesForm_of_readEntries {draft out : Draft} {input rest : Text}
    (read : readEntries draft input = .ok (out, rest)) :
    ∃ entries body, EntriesForm entries ('"' :: body) ∧ draft.ofEntries? entries = some out ∧
      input = body ++ '}' :: rest := by
  induction hopen : draft.openCount using Nat.strongRecOn generalizing draft input with
  | ind n ih =>
      rcases (readEntries_eq_ok_iff_step _ _ _ _).1 read with
        ⟨field, value, json, unset, holds, ⟨last, rfl⟩ | ⟨behind, later, more, atQuote, read'⟩⟩
      · obtain ⟨entry, written, rfl⟩ := last.exists_entryForm
        refine ⟨[(field.name, json)], entry, .last written, ?_, rfl⟩
        exact (Draft.ofEntries?_cons_eq_some_iff _ _ _ _ _).2 ⟨field, value, rfl, unset, holds, rfl⟩
      · obtain ⟨entry, written, rfl⟩ := more.exists_entryForm
        have fewer : (draft.put field value).openCount < n := by
          rw [← hopen]
          exact Draft.openCount_put unset value
        obtain ⟨entries, body, writtenLater, filled, rfl⟩ := ih _ fewer read' rfl
        obtain ⟨-, blank, hblank, rfl⟩ := (skip_eq_cons_iff _ _ _).1 atQuote
        refine ⟨(field.name, json) :: entries, entry ++ ',' :: (blank ++ '"' :: body), ?_, ?_,
          by simp⟩
        · exact EntriesForm.more written (writtenLater.blank_append hblank)
        · exact (Draft.ofEntries?_cons_eq_some_iff _ _ _ _ _).2
            ⟨field, value, rfl, unset, holds, filled⟩

theorem exists_readEntries_of_entriesForm {draft out : Draft} {entries : List (Text × Value)}
    {text : Text} (written : EntriesForm entries text)
    (filled : draft.ofEntries? entries = some out) (rest : Text) :
    ∃ input, skip (text ++ '}' :: rest) = '"' :: input ∧
      readEntries draft input = .ok (out, rest) := by
  induction entries generalizing draft text with
  | nil => cases written
  | cons entry entries ih =>
      obtain ⟨key, json⟩ := entry
      obtain ⟨field, value, rfl, unset, holds, filled'⟩ :=
        (Draft.ofEntries?_cons_eq_some_iff _ _ _ _ _).1 filled
      have brace : isSpace '}' = false := by decide
      have comma : isSpace ',' = false := by decide
      cases written with
      | last item =>
          cases filled'
          obtain ⟨input, atEntry, read⟩ := item.exists_entryAt brace rest
          refine ⟨input, atEntry, ?_⟩
          exact (readEntries_eq_ok_iff_step _ _ _ _).2
            ⟨field, value, json, unset, holds, .inl ⟨read, rfl⟩⟩
      | @more _ _ text later item writtenLater =>
          obtain ⟨inputLater, atQuote, readLater⟩ := ih writtenLater filled'
          obtain ⟨input, atEntry, read⟩ := item.exists_entryAt comma (later ++ '}' :: rest)
          rw [List.append_assoc, List.cons_append]
          refine ⟨input, atEntry, ?_⟩
          exact (readEntries_eq_ok_iff_step _ _ _ _).2 ⟨field, value, json, unset, holds,
            .inr ⟨_, inputLater, read, atQuote, readLater⟩⟩

/-- An object is read exactly from its texts, and fills in what its entries say. -/
theorem readObject_eq_ok_iff (input rest : Text) (out : Draft) :
    readObject input = .ok (out, rest) ↔
      ∃ entries text, Denotes (.object entries) text ∧
        Draft.empty.ofEntries? entries = some out ∧ '{' :: input = text ++ rest := by
  constructor
  · intro h
    rw [readObject] at h
    split at h
    · cases h
    · rename_i behind closed
      obtain ⟨rfl, rfl⟩ := Prod.mk.inj (Except.ok.inj h)
      obtain ⟨-, blank, hblank, rfl⟩ :=
        (skip_eq_cons_iff _ _ _).1 ((nextKey_eq_closed_iff _ _ _).1 closed)
      exact ⟨[], _, .noEntries hblank, rfl, by simp⟩
    · rename_i behind another
      obtain ⟨-, blank, hblank, rfl⟩ :=
        (skip_eq_cons_iff _ _ _).1 ((nextKey_first_eq_another_iff _ _).1 another)
      obtain ⟨entries, body, written, filled, rfl⟩ := exists_entriesForm_of_readEntries h
      exact ⟨entries, _, .object (written.blank_append hblank), filled, by simp⟩
  · intro h
    rcases h with ⟨entries, text, denotes, filled, split⟩
    cases denotes with
    | @noEntries blank hblank =>
        cases filled
        have front : skip input = '}' :: rest :=
          (skip_eq_cons_iff _ _ _).2 ⟨by decide, blank, hblank, by simpa using split⟩
        rw [readObject, (nextKey_eq_closed_iff true input rest).2 front]
    | @object _ body written =>
        obtain ⟨behind, atQuote, read⟩ := exists_readEntries_of_entriesForm written filled rest
        have same : input = body ++ '}' :: rest := by simpa using split
        rw [← same] at atQuote
        rw [readObject, (nextKey_first_eq_another_iff input behind).2 atQuote]
        exact read

/-- Reading items is closing the list, or reading one item and the later ones. -/
theorem readItems_cons_eq_ok_iff (first : Bool) (draft out : Draft) (field : Field)
    (fields : List Field) (input rest : Text) :
    readItems first draft (field :: fields) input = .ok (out, rest) ↔
      (skip input = ']' :: rest ∧ out = draft) ∨
        ∃ (value : field.Value) (json : Value) (lead behind text after : Text),
          Lead first lead ∧ input = lead ++ behind ∧ Denotes json text ∧ field.Holds value json ∧
            skip behind = text ++ after ∧
              readItems false (draft.put field value) fields after = .ok (out, rest) := by
  constructor
  · intro h
    rw [readItems] at h
    split at h
    · cases h
    · rename_i behind closed
      obtain ⟨rfl, rfl⟩ := Prod.mk.inj (Except.ok.inj h)
      exact .inl ⟨(nextItem_eq_closed_iff _ _ _).1 closed, rfl⟩
    · rename_i front another
      obtain ⟨lead, behind, hlead, rfl, rfl, -⟩ := (nextItem_eq_another_iff _ _ _).1 another
      split at h
      · cases h
      · rename_i value after given
        obtain ⟨json, text, item, holds, atItem⟩ := (readValue_eq_ok_iff _ _ _ _).1 given
        rw [skip_skip] at atItem
        exact .inr ⟨value, json, lead, behind, text, after, hlead, rfl, item, holds, atItem, h⟩
  · intro h
    rcases h with ⟨closed, rfl⟩ | ⟨value, json, lead, behind, text, after, hlead, rfl, item, holds,
      atItem, read⟩
    · rw [readItems, (nextItem_eq_closed_iff first input rest).2 closed]
    · obtain ⟨c, inner, rfl, solid, noBracket⟩ := item.front
      have starts : MayStartItem (skip behind) := by
        rw [atItem]
        exact (mayStartItem_cons_iff c _).2 noBracket
      have another := (nextItem_eq_another_iff first (lead ++ behind) (skip behind)).2
        ⟨lead, behind, hlead, rfl, rfl, starts⟩
      have given := (readValue_eq_ok_iff field (skip behind) after value).2
        ⟨json, c :: inner, item, holds, by rw [skip_skip, atItem]⟩
      rw [readItems, another]
      simp only [given, read]

/-- Nothing but the bracket of a list follows. -/
theorem skip_eq_bracket_iff (first : Bool) (input rest : Text) :
    skip input = ']' :: rest ↔ ∃ body, ItemsAfter first [] body ∧ input = body ++ ']' :: rest := by
  have solid : isSpace ']' = false := by decide
  simp only [skip_eq_cons_iff, itemsAfter_nil_iff, solid, true_and]

theorem readItems_nil_eq_ok_iff (first : Bool) (draft out : Draft) (input rest : Text) :
    readItems first draft [] input = .ok (out, rest) ↔ skip input = ']' :: rest ∧ draft = out := by
  rw [readItems, ← lastItem_eq_ok_iff]
  cases lastItem input with
  | error failure => simp
  | ok behind => simp [and_comm]

/-- The rest of a list is read exactly from its texts, and fills in its items. -/
theorem readItems_eq_ok_iff (first : Bool) (draft out : Draft) (fields : List Field)
    (input rest : Text) :
    readItems first draft fields input = .ok (out, rest) ↔
      ∃ items body, ItemsAfter first items body ∧ draft.ofItems? fields items = some out ∧
        input = body ++ ']' :: rest := by
  induction fields generalizing first draft input with
  | nil =>
      rw [readItems_nil_eq_ok_iff, skip_eq_bracket_iff first]
      constructor
      · intro h
        rcases h with ⟨⟨body, after, split⟩, rfl⟩
        exact ⟨[], body, after, rfl, split⟩
      · intro h
        rcases h with ⟨items, body, after, filled, split⟩
        cases items with
        | nil =>
            cases filled
            exact ⟨⟨body, after, split⟩, rfl⟩
        | cons json items => cases filled
  | cons field fields ih =>
      rw [readItems_cons_eq_ok_iff, skip_eq_bracket_iff first]
      constructor
      · intro h
        rcases h with ⟨⟨body, after, split⟩, rfl⟩ | ⟨value, json, lead, behind, text, after, hlead,
          rfl, item, holds, atItem, read⟩
        · exact ⟨[], body, after, rfl, split⟩
        · obtain ⟨items, later, hlater, filled, rfl⟩ := (ih _ _ _).1 read
          obtain ⟨blank, hblank, rfl⟩ := (item.skip_eq_iff _ _).1 atItem
          refine ⟨json :: items, lead ++ (blank ++ text ++ later), ?_, ?_, by simp⟩
          · exact (itemsAfter_cons_iff _ _ _ _).2
              ⟨lead, blank, text, later, hlead, hblank, item, hlater, rfl⟩
          · exact (Draft.ofItems?_cons_eq_some_iff _ _ _ _ _ _).2 ⟨value, holds, filled⟩
      · intro h
        rcases h with ⟨items, body, after, filled, rfl⟩
        cases items with
        | nil =>
            cases filled
            exact .inl ⟨⟨body, after, rfl⟩, rfl⟩
        | cons json items =>
            obtain ⟨lead, blank, text, later, hlead, hblank, item, hlater, rfl⟩ :=
              (itemsAfter_cons_iff _ _ _ _).1 after
            obtain ⟨value, holds, filled'⟩ :=
              (Draft.ofItems?_cons_eq_some_iff _ _ _ _ _ _).1 filled
            have read := (ih false (draft.put field value) (later ++ ']' :: rest)).2
              ⟨items, later, hlater, filled', rfl⟩
            exact .inr ⟨value, json, lead, blank ++ text ++ (later ++ ']' :: rest), text, _, hlead,
              by simp, item, holds, (item.skip_eq_iff _ _).2 ⟨blank, hblank, rfl⟩, read⟩

/-- The options that a JSON value gives, before open fields take their defaults. -/
def draftOf? : Value → Option Draft
  | .object entries => Draft.empty.ofEntries? entries
  | .list items => Draft.empty.ofItems? Field.all items
  | _ => none

theorem ofValue?_eq_map_draftOf? (value : Value) :
    ofValue? value = (draftOf? value).map Draft.complete := by
  cases value <;> rfl

theorem readDraft_eq_ok_iff (input rest : Text) (out : Draft) :
    readDraft input = .ok (out, rest) ↔
      ∃ value text, Denotes value text ∧ draftOf? value = some out ∧ skip input = text ++ rest := by
  constructor
  · intro h
    rw [readDraft] at h
    split at h
    · cases h
    · rename_i c behind front
      rw [front]
      split at h
      · rename_i brace
        subst c
        obtain ⟨entries, text, denotes, filled, split⟩ := (readObject_eq_ok_iff _ _ _).1 h
        exact ⟨.object entries, text, denotes, filled, split⟩
      · split at h
        · rename_i bracket
          subst c
          obtain ⟨items, body, after, filled, rfl⟩ := (readItems_eq_ok_iff _ _ _ _ _ _).1 h
          exact ⟨.list items, _, (denotes_list_iff _ _).2 ⟨body, after, rfl⟩, filled, by simp⟩
        · cases h
  · intro h
    rcases h with ⟨value, text, denotes, filled, front⟩
    cases value with
    | object entries =>
        obtain ⟨inner, rfl⟩ : ∃ inner, text = '{' :: inner := by
          cases denotes <;> exact ⟨_, rfl⟩
        have read := (readObject_eq_ok_iff (inner ++ rest) rest out).2
          ⟨entries, '{' :: inner, denotes, filled, rfl⟩
        simpa [readDraft, front] using read
    | list items =>
        obtain ⟨body, after, rfl⟩ := (denotes_list_iff _ _).1 denotes
        have read := (readItems_eq_ok_iff true .empty out Field.all (body ++ ']' :: rest) rest).2
          ⟨items, body, after, filled, rfl⟩
        simpa [readDraft, front] using read
    | _ => cases filled

/-- Options are accepted exactly where a draft is read with nothing but blanks behind it. -/
theorem ofJson_eq_ok_iff_readDraft (input : Text) (options : Options) :
    ofJson input = .ok options ↔
      ∃ draft rest,
        readDraft input = .ok (draft, rest) ∧ Blank rest ∧ draft.complete = options := by
  have complete : ofJson input = .ok options ↔
      ∃ draft, whole readDraft input = .ok draft ∧ draft.complete = options := by
    rw [ofJson]
    cases whole readDraft input <;> simp
  simp only [complete, whole_eq_ok_iff, ← exists_and_right, and_assoc]

/-- Options are read exactly from the texts of the values that have them. -/
theorem ofJson_eq_ok_iff (input : Text) (options : Options) :
    ofJson input = .ok options ↔ ∃ value, IsTextOf value input ∧ ofValue? value = some options := by
  simp only [ofJson_eq_ok_iff_readDraft, readDraft_eq_ok_iff, ofValue?_eq_map_draftOf?,
    Option.map_eq_some_iff]
  constructor
  · intro h
    rcases h with ⟨draft, rest, ⟨value, text, denotes, filled, front⟩, hrest, same⟩
    obtain ⟨blank, hblank, rfl⟩ := (denotes.skip_eq_iff _ _).1 front
    exact ⟨value, ⟨blank, text, rest, hblank, denotes, hrest, rfl⟩, draft, filled, same⟩
  · intro h
    rcases h with ⟨value, ⟨blank, text, rest, hblank, denotes, hrest, rfl⟩, draft, filled, same⟩
    have front := (denotes.skip_eq_iff _ rest).2 ⟨blank, hblank, rfl⟩
    exact ⟨draft, rest, ⟨value, text, denotes, filled, front⟩, hrest, same⟩

/-- Written options are accepted exactly if they are a text of an object or a list
that gives options, and then they are those options. -/
theorem ofJson_eq_ok_iff_exists_givenBy (input : Text) (options : Options) :
    ofJson input = .ok options ↔ ∃ value, IsTextOf value input ∧ options.GivenBy value := by
  simp only [ofJson_eq_ok_iff, ofValue?_eq_some_iff]

end Options

end SampleLine
