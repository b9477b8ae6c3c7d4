/-
A hyphen form is read exactly from the texts of the values that stand for it.
-/
import SampleLine.Hyphen.Reader
import SampleLine.Options.Supplied
import SampleLine.Proofs.Json.Forms

namespace SampleLine

namespace HyphenForm

open Json

/-- The values that stand for a form: its name, or an object whose one key is
the name and whose value is null. -/
theorem ofValue?_eq_some_iff (value : Value) (form : HyphenForm) :
    ofValue? value = some form ↔
      value = .text form.name ∨ value = .object [(form.name, .null)] := by
  constructor
  · intro found
    unfold ofValue? at found
    split at found
    · rw [(ofName?_eq_some_iff _ form).1 found]
      exact .inl rfl
    · rw [(ofName?_eq_some_iff _ form).1 found]
      exact .inr rfl
    · cases found
  · rintro (rfl | rfl) <;> exact (ofName?_eq_some_iff form.name form).2 rfl

theorem readName_eq_ok_iff (input rest : Text) (form : HyphenForm) :
    readName input = .ok (form, rest) ↔
      ∃ body, Spelling form.name body ∧ input = body ++ '"' :: rest := by
  rw [← stringBody_eq_ok_iff, readName]
  cases stringBody input with
  | error failure => simp
  | ok result =>
      obtain ⟨name, behind⟩ := result
      simp only [Except.ok.injEq, Prod.mk.injEq, ← ofName?_eq_some_iff]
      cases ofName? name with
      | none => simp
      | some found => simp

theorem readClose_eq_ok_iff (input rest : Text) :
    readClose input = .ok rest ↔ skip input = '}' :: rest := by
  rw [readClose]
  cases skip input with
  | nil => simp
  | cons c behind => by_cases same : c = '}' <;> simp [same]

theorem readEntry_eq_ok_iff (input rest : Text) (form : HyphenForm) :
    readEntry input = .ok (form, rest) ↔ EntryAt form.name .null input ('}' :: rest) := by
  constructor
  · intro h
    rw [readEntry] at h
    split at h
    · cases h
    · rename_i found afterKey atName
      split at h
      · cases h
      · rename_i afterColon atColon
        split at h
        · cases h
        · rename_i afterValue atNull
          split at h
          · cases h
          · rename_i behind atClose
            obtain ⟨rfl, rfl⟩ := Prod.mk.inj (Except.ok.inj h)
            obtain ⟨body, spelled, split⟩ := (readName_eq_ok_iff _ _ _).1 atName
            exact ⟨body, afterKey, afterColon, _, afterValue, spelled, split,
              (colon_eq_ok_iff _ _).1 atColon, .nullWord, (null_eq_ok_iff _ _).1 atNull,
              (readClose_eq_ok_iff _ _).1 atClose⟩
  · intro h
    rcases h with ⟨body, afterKey, afterColon, text, afterValue, spelled, split, atColon, item,
      atNull, atClose⟩
    cases item
    rw [readEntry, (readName_eq_ok_iff _ _ _).2 ⟨body, spelled, split⟩]
    simp only [(colon_eq_ok_iff _ _).2 atColon, (null_eq_ok_iff _ _).2 atNull,
      (readClose_eq_ok_iff _ _).2 atClose]

theorem readObject_eq_ok_iff (input rest : Text) (form : HyphenForm) :
    readObject input = .ok (form, rest) ↔
      ∃ body, EntriesForm [(form.name, .null)] body ∧ input = body ++ '}' :: rest := by
  have quoted : readObject input = .ok (form, rest) ↔
      ∃ entry, skip input = '"' :: entry ∧ readEntry entry = .ok (form, rest) := by
    rw [readObject]
    cases skip input with
    | nil => simp
    | cons c behind =>
        by_cases quote : c = '"'
        · simp [quote]
        · by_cases closed : c = '}' <;> simp [quote, closed]
  rw [quoted]
  constructor
  · intro h
    rcases h with ⟨entry, atQuote, read⟩
    obtain ⟨-, blank, hblank, rfl⟩ := (skip_eq_cons_iff _ _ _).1 atQuote
    obtain ⟨written, form_written, rfl⟩ :=
      ((readEntry_eq_ok_iff _ _ _).1 read).exists_entryForm
    exact ⟨_, (EntriesForm.last form_written).blank_append hblank, by simp⟩
  · intro h
    rcases h with ⟨body, written, rfl⟩
    cases written with
    | last item =>
        have solid : isSpace '}' = false := by decide
        obtain ⟨entry, atQuote, read⟩ := item.exists_entryAt solid rest
        exact ⟨entry, atQuote, (readEntry_eq_ok_iff _ _ _).2 read⟩
    | more _ later => cases later

/-- A form is read exactly from the texts of the values that stand for it. -/
theorem read_eq_ok_iff (input rest : Text) (form : HyphenForm) :
    read input = .ok (form, rest) ↔
      ∃ value text, Denotes value text ∧ ofValue? value = some form ∧
        skip input = text ++ rest := by
  simp only [ofValue?_eq_some_iff]
  constructor
  · intro h
    rw [read] at h
    split at h
    · cases h
    · rename_i c behind front
      split at h
      · rename_i quote
        subst c
        obtain ⟨body, spelled, rfl⟩ := (readName_eq_ok_iff _ _ _).1 h
        exact ⟨_, _, .text spelled, .inl rfl, by simp [front]⟩
      · split at h
        · rename_i brace
          subst c
          obtain ⟨body, written, rfl⟩ := (readObject_eq_ok_iff _ _ _).1 h
          exact ⟨_, _, .object written, .inr rfl, by simp [front]⟩
        · cases h
  · intro h
    rcases h with ⟨value, text, item, rfl | rfl, front⟩
    · cases item with
      | @text _ body spelled =>
          have name := (readName_eq_ok_iff (body ++ '"' :: rest) rest form).2 ⟨body, spelled, rfl⟩
          simpa [read, front] using name
    · cases item with
      | @object _ body written =>
          have object := (readObject_eq_ok_iff (body ++ '}' :: rest) rest form).2
            ⟨body, written, rfl⟩
          simpa [read, front] using object

end HyphenForm

end SampleLine
