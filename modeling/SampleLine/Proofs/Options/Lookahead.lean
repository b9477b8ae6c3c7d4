/-
How far the readers of options look, and what that makes of a refusal: it is
settled one byte behind its place.
-/
import SampleLine.Proofs.Hyphen.Lookahead
import SampleLine.Proofs.Options.Continuation

namespace SampleLine

namespace Options

open Json

theorem nearsighted_readValue (field : Field) (input : Text) :
    Nearsighted (readValue field) input := by
  cases field with
  | target => exact nearsighted_text input
  | form => exact HyphenForm.nearsighted_read input
  | verbose => exact nearsighted_boolean input

/-- The place of a refused key lies behind a closing brace, or before the character
that was none. -/
theorem nearsighted_behindKey {α : Type} (fault : Fault) (input : Text) :
    Nearsighted (fun rest => (.error (.here fault (behindKey rest)) : Reading α)) input := by
  refine Nearsighted.of_skip_then (fun rest => .error (.here fault rest)) rfl
    (fun {left right c rest d rest'} fronts => ?_) input
  simp only [apply_ite (Failure.here fault), apply_ite Except.error]
  exact Settled.ite_eq (by decide) fronts
    (fun agree => (nearsighted_here fault rest).settled_cons agree c)
    (settled_here fault fronts.agree)

theorem nearsighted_readKey (draft : Draft) (input : Text) :
    Nearsighted (readKey draft) input := by
  simp only [funext (readKey_eq_bind draft)]
  refine (nearsighted_stringBody input).bind fun key rest _ => ?_
  cases known : Field.ofName? key with
  | none =>
      simp only [known]
      exact nearsighted_behindKey (.unknownField key Field.names) rest
  | some field =>
      by_cases unset : draft.has field = false
      · simp only [known, unset, dif_pos]
        exact nearsighted_found _ rest
      · simp only [known, unset]
        exact nearsighted_behindKey (.duplicateField key) rest

theorem nearsighted_readEntries (draft : Draft) (input : Text) :
    Nearsighted (readEntries draft) input := by
  induction hopen : draft.openCount using Nat.strongRecOn generalizing draft input with
  | ind n ih =>
      simp only [funext (readEntries_eq_bind draft)]
      refine (nearsighted_readKey draft input).bind ?_
      rintro ⟨field, unset⟩ afterKey -
      refine (nearsighted_colon afterKey).bindUnvalued fun afterColon _ => ?_
      refine (nearsighted_readValue field afterColon).bind fun value afterValue _ => ?_
      refine (nearsighted_nextKey false afterValue).bind fun next rest _ => ?_
      cases next with
      | closed => exact nearsighted_found (draft.put field value) rest
      | another =>
          have fewer : (draft.put field value).openCount < n :=
            hopen ▸ Draft.openCount_put unset value
          exact ih _ fewer (draft.put field value) rest rfl

theorem nearsighted_readObject (input : Text) : Nearsighted readObject input := by
  simp only [funext readObject_eq_bind]
  refine (nearsighted_nextKey true input).bind fun next rest _ => ?_
  cases next with
  | closed => exact nearsighted_found Draft.empty rest
  | another => exact nearsighted_readEntries .empty rest

theorem nearsighted_readItems (first : Bool) (draft : Draft) (fields : List Field)
    (input : Text) : Nearsighted (readItems first draft fields) input := by
  induction fields generalizing first draft input with
  | nil =>
      simp only [funext (readItems_nil_eq_bind first draft)]
      refine (nearsighted_lastItem input).bindUnvalued fun rest _ => ?_
      exact nearsighted_found draft rest
  | cons field fields ih =>
      simp only [funext (readItems_cons_eq_bind first draft field fields)]
      refine (nearsighted_nextItem first input).bind fun next rest _ => ?_
      cases next with
      | closed => exact nearsighted_found draft rest
      | another =>
          refine (nearsighted_readValue field rest).bind fun value afterValue _ => ?_
          exact ih false (draft.put field value) afterValue

theorem nearsighted_readDraft (input : Text) : Nearsighted readDraft input := by
  refine Nearsighted.of_skip rfl (fun {left right c rest d rest'} fronts => ?_) input
  refine Settled.ite_eq (by decide) fronts
    (fun agree => (nearsighted_readObject rest).settled_cons agree c) ?_
  exact Settled.ite_eq (by decide) fronts
    (fun agree => (nearsighted_readItems true .empty Field.all rest).settled_cons agree c)
    (settled_mismatch reportedName fronts)

theorem ofJson_eq_error_iff (text : Text) (diagnosis : Diagnosis) :
    ofJson text = .error diagnosis ↔ whole readDraft text = .error diagnosis := by
  rw [ofJson]
  cases whole readDraft text <;> simp

/-- A refusal has one place in the text, behind some of its bytes.  If a byte follows
there, then every text that has the same bytes up to that one is refused alike,
whatever comes behind it. -/
theorem ofJson_refused_near {text : Text} {diagnosis : Diagnosis}
    (refused : ofJson text = .error diagnosis) :
    ∃ offset ≤ Text.byteSize text,
      diagnosis.place = Place.behind ((Text.utf8 text).take offset) ∧
        (∀ other ≤ Text.byteSize text,
          diagnosis.place = Place.behind ((Text.utf8 text).take other) → other = offset) ∧
        (offset < Text.byteSize text → ∀ text',
          (Text.utf8 text').take (offset + 1) = (Text.utf8 text).take (offset + 1) →
            ofJson text' = .error diagnosis) := by
  have read := (ofJson_eq_error_iff _ _).1 refused
  obtain ⟨offset, within, place, near⟩ := (nearsighted_readDraft text).whole_eq_error read
  refine ⟨offset, within, place, ?_, ?_⟩
  · intro other within' place'
    rw [← Text.utf8_length] at within within'
    exact behind_take_inj within' within (place'.symm.trans place)
  · intro short text' same
    exact (ofJson_eq_error_iff _ _).2 (near short text' same)

/-- An object with an unknown first key is refused behind that key, at byte four, and so
is one that breaks off after the colon. -/
theorem ofJson_unknown_key_refused_near :
    ofJson ['{', '"', 'a', '"', ':', '1', '}'] =
        .error ⟨.unknownField ['a'] Field.names, ⟨1, 4⟩⟩ ∧
      ofJson ['{', '"', 'a', '"', ':'] = .error ⟨.unknownField ['a'] Field.names, ⟨1, 4⟩⟩ := by
  have body : stringBody ['a', '"', ':', '1', '}'] = .ok (['a'], [':', '1', '}']) := by cbv
  have entries : readEntries .empty ['a', '"', ':', '1', '}'] =
      .error (.here (.unknownField ['a'] Field.names) [':', '1', '}']) := by
    rw [readEntries, readKey, body]
    rfl
  have read : readDraft ['{', '"', 'a', '"', ':', '1', '}'] =
      .error (.here (.unknownField ['a'] Field.names) [':', '1', '}']) := entries
  have refused : ofJson ['{', '"', 'a', '"', ':', '1', '}'] =
      .error ⟨.unknownField ['a'] Field.names, ⟨1, 4⟩⟩ := by
    rw [ofJson, whole, read]
    rfl
  obtain ⟨offset, -, -, unique, near⟩ := ofJson_refused_near refused
  have four : 4 = offset := unique 4 (by decide) (by decide)
  rw [← four] at near
  exact ⟨refused, near (by decide) ['{', '"', 'a', '"', ':'] (by decide)⟩

end Options

end SampleLine
