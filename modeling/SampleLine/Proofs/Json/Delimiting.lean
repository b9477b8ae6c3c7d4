/-
Values whose texts show where they end.  Behind the text of a number a digit may follow,
and then it is the text of another number.  Words, strings, and objects of such values have
texts of which none stands at the front of a text of another value.
-/
import SampleLine.Proofs.Json.Forms

namespace SampleLine

namespace Json

/-- Whether the text of a value may start with a character. -/
def Value.openedBy : Value → Char → Bool
  | .null, c => c = 'n'
  | .boolean flag, c => c = if flag then 't' else 'f'
  | .number _, c => c = '-' ∨ c.isDigit
  | .text _, c => c = '"'
  | .list _, c => c = '['
  | .object _, c => c = '{'

theorem Denotes.exists_opener {value : Value} {text : Text} (denotes : Denotes value text) :
    ∃ c later, text = c :: later ∧ value.openedBy c = true := by
  cases denotes with
  | nullWord => exact ⟨_, _, rfl, rfl⟩
  | trueWord => exact ⟨_, _, rfl, rfl⟩
  | falseWord => exact ⟨_, _, rfl, rfl⟩
  | number written =>
      obtain ⟨c, later, rfl, digit⟩ := written.front
      exact ⟨c, later, rfl, decide_eq_true (.inr digit)⟩
  | negative _ => exact ⟨_, _, rfl, rfl⟩
  | text _ => exact ⟨_, _, rfl, rfl⟩
  | noItems _ => exact ⟨_, _, rfl, rfl⟩
  | list _ => exact ⟨_, _, rfl, rfl⟩
  | noEntries _ => exact ⟨_, _, rfl, rfl⟩
  | object _ => exact ⟨_, _, rfl, rfl⟩

theorem Denotes.openedBy {value : Value} {text rest later : Text} {c : Char}
    (denotes : Denotes value text) (same : text ++ rest = c :: later) :
    value.openedBy c = true := by
  obtain ⟨d, inner, rfl, opened⟩ := denotes.exists_opener
  rw [← (List.cons.inj same).1]
  exact opened

/-- No text of the value, with whatever behind it, starts with a text of another value. -/
def SelfDelimited (value : Value) : Prop :=
  ∀ ⦃other : Value⦄ ⦃text text' rest rest' : Text⦄, Denotes value text → Denotes other text' →
    text' ++ rest' = text ++ rest → other = value ∧ rest' = rest

/-- A word whose first letter starts nothing else is the whole text of its value. -/
theorem selfDelimited_of_word {value : Value} {c : Char} {letters : Text}
    (word : Denotes value (c :: letters))
    (only : ∀ other text, other.openedBy c = true → Denotes other text →
      other = value ∧ text = c :: letters) : SelfDelimited value := by
  intro other text text' rest rest' denotes denotes' same
  have opened : value.openedBy c = true := word.openedBy (List.append_nil _)
  obtain ⟨-, rfl⟩ := only value text opened denotes
  obtain ⟨rfl, rfl⟩ := only other text' (denotes'.openedBy same) denotes'
  exact ⟨rfl, List.append_cancel_left same⟩

theorem selfDelimited_null : SelfDelimited .null := by
  refine selfDelimited_of_word .nullWord ?_
  intro other text opened denotes
  cases denotes <;> first | exact ⟨rfl, rfl⟩ | cases opened

theorem selfDelimited_boolean (flag : Bool) : SelfDelimited (.boolean flag) := by
  cases flag with
  | true =>
      refine selfDelimited_of_word .trueWord ?_
      intro other text opened denotes
      cases denotes <;> first | exact ⟨rfl, rfl⟩ | cases opened
  | false =>
      refine selfDelimited_of_word .falseWord ?_
      intro other text opened denotes
      cases denotes <;> first | exact ⟨rfl, rfl⟩ | cases opened

/-- A string ends at its quote. -/
theorem Spelling.unique {value other body body' rest rest' : Text} (spelled : Spelling value body)
    (spelled' : Spelling other body') (same : body' ++ '"' :: rest' = body ++ '"' :: rest) :
    other = value ∧ rest' = rest := by
  have read := (stringBody_eq_ok_iff _ rest value).2 ⟨body, spelled, rfl⟩
  have read' := (stringBody_eq_ok_iff _ rest' other).2 ⟨body', spelled', rfl⟩
  rw [same, read] at read'
  exact Prod.mk.inj (Except.ok.inj read').symm

theorem selfDelimited_text (word : Text) : SelfDelimited (.text word) := by
  intro other text text' rest rest' denotes denotes' same
  cases denotes with
  | text spelled =>
      have opened := denotes'.openedBy same
      cases other with
      | text other =>
          cases denotes' with
          | text spelled' =>
              obtain ⟨rfl, behind⟩ := spelled.unique spelled' (by simpa using same)
              exact ⟨rfl, behind⟩
      | boolean flag => cases flag <;> cases opened
      | _ => cases opened

/-- An entry is told by its text, up to what closes it. -/
theorem EntryAt.unique {key other input rest rest' : Text} {value otherValue : Value}
    (delimited : SelfDelimited value) (entry : EntryAt key value input rest)
    (entry' : EntryAt other otherValue input rest') :
    other = key ∧ otherValue = value ∧ rest' = rest := by
  obtain ⟨body, afterKey, afterColon, text, afterValue, spelled, split, atColon, item, atValue,
    atCloser⟩ := entry
  obtain ⟨body', afterKey', afterColon', text', afterValue', spelled', split', atColon', item',
    atValue', atCloser'⟩ := entry'
  obtain ⟨rfl, rfl⟩ := spelled.unique spelled' (split'.symm.trans split)
  obtain ⟨-, rfl⟩ := List.cons.inj (atColon'.symm.trans atColon)
  obtain ⟨rfl, rfl⟩ := delimited item item' (atValue'.symm.trans atValue)
  exact ⟨rfl, rfl, atCloser'.symm.trans atCloser⟩

/-- An entry with its closer is told by its text. -/
theorem EntryForm.unique {entry other : Text × Value} {text text' rest rest' : Text}
    {closer closer' : Char} (delimited : SelfDelimited entry.2) (solid : isSpace closer = false)
    (solid' : isSpace closer' = false) (written : EntryForm entry text)
    (written' : EntryForm other text') (same : text' ++ closer' :: rest' = text ++ closer :: rest) :
    other = entry ∧ closer' = closer ∧ rest' = rest := by
  obtain ⟨input, front, read⟩ := written.exists_entryAt solid rest
  obtain ⟨input', front', read'⟩ := written'.exists_entryAt solid' rest'
  rw [same, front] at front'
  obtain ⟨-, rfl⟩ := List.cons.inj front'
  obtain ⟨sameKey, sameValue, behind⟩ := read.unique delimited read'
  exact ⟨Prod.ext sameKey sameValue, List.cons.inj behind⟩

/-- The entries of an object are told by their text, up to the brace. -/
theorem EntriesForm.unique {entries others : List (Text × Value)} {text text' rest rest' : Text}
    (delimited : ∀ entry ∈ entries, SelfDelimited entry.2) (written : EntriesForm entries text)
    (written' : EntriesForm others text') (same : text' ++ '}' :: rest' = text ++ '}' :: rest) :
    others = entries ∧ rest' = rest := by
  have brace : isSpace '}' = false := by decide
  have comma : isSpace ',' = false := by decide
  induction entries generalizing others text text' with
  | nil => cases written
  | cons entry entries ih =>
      have first := delimited entry List.mem_cons_self
      cases written with
      | last item =>
          cases written' with
          | last item' =>
              obtain ⟨rfl, -, behind⟩ := item.unique first brace brace item' same
              exact ⟨rfl, behind⟩
          | more item' later' =>
              rw [List.append_assoc] at same
              obtain ⟨-, closer, -⟩ := item.unique first brace comma item' same
              cases closer
      | more item later =>
          rw [List.append_assoc _ _ ('}' :: rest)] at same
          cases written' with
          | last item' =>
              obtain ⟨-, closer, -⟩ := item.unique first comma brace item' same
              cases closer
          | more item' later' =>
              rw [List.append_assoc] at same
              obtain ⟨rfl, -, behind⟩ := item.unique first comma comma item' same
              obtain ⟨rfl, final⟩ := ih
                (fun later member => delimited later (List.mem_cons_of_mem _ member)) later later'
                behind
              exact ⟨rfl, final⟩

theorem skip_blank_append_brace {blank : Text} (hblank : Blank blank) (rest : Text) :
    skip (blank ++ '}' :: rest) = '}' :: rest :=
  (skip_eq_cons_iff _ _ _).2 ⟨by decide, blank, hblank, rfl⟩

/-- Entries start with a quote, so there are none where only blanks stand before the brace. -/
theorem EntriesForm.append_ne_blank {entries : List (Text × Value)} {text blank : Text}
    (written : EntriesForm entries text) (hblank : Blank blank) (rest rest' : Text) :
    text ++ '}' :: rest ≠ blank ++ '}' :: rest' := by
  have brace : isSpace '}' = false := by decide
  have comma : isSpace ',' = false := by decide
  have quoted : ∃ input, skip (text ++ '}' :: rest) = '"' :: input := by
    cases written with
    | last item =>
        obtain ⟨input, front, -⟩ := item.exists_entryAt brace rest
        exact ⟨input, front⟩
    | @more _ _ text later item _ =>
        obtain ⟨input, front, -⟩ := item.exists_entryAt comma (later ++ '}' :: rest)
        rw [List.append_assoc]
        exact ⟨input, front⟩
  intro same
  obtain ⟨input, front⟩ := quoted
  rw [same, skip_blank_append_brace hblank] at front
  cases front

theorem selfDelimited_object {entries : List (Text × Value)}
    (delimited : ∀ entry ∈ entries, SelfDelimited entry.2) : SelfDelimited (.object entries) := by
  intro other text text' rest rest' denotes denotes' same
  have opened : other.openedBy '{' = true := by
    cases denotes <;> exact denotes'.openedBy same
  cases other with
  | object others =>
      cases denotes with
      | @noEntries blank hblank =>
          cases denotes' with
          | @noEntries blank' hblank' =>
              have behind : blank' ++ '}' :: rest' = blank ++ '}' :: rest := by simpa using same
              have front := skip_blank_append_brace hblank rest
              rw [← behind, skip_blank_append_brace hblank' rest'] at front
              exact ⟨rfl, (List.cons.inj front).2⟩
          | object written' =>
              exact absurd (by simpa using same) (written'.append_ne_blank hblank rest' rest)
      | object written =>
          cases denotes' with
          | noEntries hblank' =>
              exact absurd (by simpa using same.symm) (written.append_ne_blank hblank' rest rest')
          | object written' =>
              obtain ⟨rfl, behind⟩ := written.unique delimited written' (by simpa using same)
              exact ⟨rfl, behind⟩
  | boolean flag => cases flag <;> cases opened
  | _ => cases opened

/-- Behind the blanks of a whole text stands what opens its value. -/
theorem IsTextOf.exists_opener {value : Value} {text : Text} (written : IsTextOf value text) :
    ∃ c later, skip text = c :: later ∧ value.openedBy c = true := by
  obtain ⟨before, inner, behind, hbefore, denotes, -, split⟩ := written
  have front := (denotes.skip_eq_iff text behind).2 ⟨before, hbefore, split⟩
  obtain ⟨c, later, rfl, opened⟩ := denotes.exists_opener
  exact ⟨c, later ++ behind, front, opened⟩

/-- Two values with one text are the same, if one of them shows where its text ends. -/
theorem SelfDelimited.eq_of_isTextOf {value other : Value} {text : Text}
    (delimited : SelfDelimited value) (written : IsTextOf value text)
    (written' : IsTextOf other text) : other = value := by
  obtain ⟨before, inner, behind, hbefore, denotes, -, split⟩ := written
  obtain ⟨before', inner', behind', hbefore', denotes', -, split'⟩ := written'
  have front := (denotes.skip_eq_iff text behind).2 ⟨before, hbefore, split⟩
  have front' := (denotes'.skip_eq_iff text behind').2 ⟨before', hbefore', split'⟩
  exact (delimited denotes denotes' (front'.symm.trans front)).1

end Json

end SampleLine
