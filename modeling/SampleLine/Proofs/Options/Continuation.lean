/-
Written options that are cut off or followed by more.  Options that are accepted
end at their closing bracket: before it the text counts as unfinished, and behind
it nothing but blanks may stand.
-/
import SampleLine.Proofs.Hyphen.Continuation
import SampleLine.Proofs.Options.Reading

namespace SampleLine

namespace Options

open Json

theorem readKey_eq_bind (draft : Draft) (input : Text) :
    readKey draft input =
      (stringBody input).bind fun (key, rest) =>
        match Field.ofName? key with
        | none => .error (.here (.unknownField key Field.names) (behindKey rest))
        | some field =>
            if unset : draft.has field = false then .ok (⟨field, unset⟩, rest)
            else .error (.here (.duplicateField key) (behindKey rest)) := by
  rw [readKey]
  repeat' split
  all_goals simp only [*, Except.bind]
  all_goals rfl

theorem readEntries_eq_bind (draft : Draft) (input : Text) :
    readEntries draft input =
      (readKey draft input).bind fun (field, rest) =>
        (colon rest).bind fun rest =>
          (readValue field.1 rest).bind fun (value, rest) =>
            (nextKey false rest).bind fun (next, rest) =>
              match next with
              | .closed => .ok (draft.put field.1 value, rest)
              | .another => readEntries (draft.put field.1 value) rest := by
  rw [readEntries]
  repeat' split
  all_goals simp only [*, Except.bind]

theorem readItems_cons_eq_bind (first : Bool) (draft : Draft) (field : Field)
    (fields : List Field) (input : Text) :
    readItems first draft (field :: fields) input =
      (nextItem first input).bind fun (next, rest) =>
        match next with
        | .closed => .ok (draft, rest)
        | .another =>
            (readValue field rest).bind fun (value, rest) =>
              readItems false (draft.put field value) fields rest := by
  rw [readItems]
  repeat' split
  all_goals simp only [*, Except.bind]

theorem readItems_nil_eq_bind (first : Bool) (draft : Draft) (input : Text) :
    readItems first draft [] input = (lastItem input).bind fun rest => .ok (draft, rest) := by
  rw [readItems]
  split
  all_goals simp only [*, Except.bind]

theorem readObject_eq_bind (input : Text) :
    readObject input =
      (nextKey true input).bind fun (next, rest) =>
        match next with
        | .closed => .ok (.empty, rest)
        | .another => readEntries .empty rest := by
  rw [readObject]
  split
  all_goals simp only [*, Except.bind]

theorem continues_readValue (field : Field) (input more : Text) :
    Continues (behind more) (readValue field input) (readValue field (input ++ more)) := by
  cases field with
  | target => exact continues_text input more
  | form => exact HyphenForm.continues_read input more
  | verbose => exact continues_boolean input more

theorem continues_readKey (draft : Draft) (input more : Text) :
    Continues (behind more) (readKey draft input) (readKey draft (input ++ more)) := by
  rw [readKey_eq_bind, readKey_eq_bind]
  refine (continues_stringBody input more).bind ?_
  rintro ⟨key, rest⟩ -
  cases known : Field.ofName? key with
  | none =>
      simp only [behind, known]
      exact .refused _ _
  | some field =>
      by_cases unset : draft.has field = false
      · simp only [behind, known, unset, dif_pos]
        exact .found _ rest more
      · simp only [behind, known, unset]
        exact .refused _ _

theorem continues_readEntries (draft : Draft) (input more : Text) :
    Continues (behind more) (readEntries draft input) (readEntries draft (input ++ more)) := by
  induction hopen : draft.openCount using Nat.strongRecOn generalizing draft input with
  | ind n ih =>
      rw [readEntries_eq_bind, readEntries_eq_bind]
      refine (continues_readKey draft input more).bind ?_
      rintro ⟨⟨field, unset⟩, afterKey⟩ -
      refine (continues_colon afterKey more).bind fun afterColon _ => ?_
      refine (continues_readValue field afterColon more).bind ?_
      rintro ⟨value, afterValue⟩ -
      refine (continues_nextKey false afterValue more).bind ?_
      rintro ⟨next, rest⟩ -
      cases next with
      | closed => exact .found (draft.put field value) rest more
      | another =>
          have fewer : (draft.put field value).openCount < n :=
            hopen ▸ Draft.openCount_put unset value
          exact ih _ fewer (draft.put field value) rest rfl

theorem continues_readObject (input more : Text) :
    Continues (behind more) (readObject input) (readObject (input ++ more)) := by
  rw [readObject_eq_bind, readObject_eq_bind]
  refine (continues_nextKey true input more).bind ?_
  rintro ⟨next, rest⟩ -
  cases next with
  | closed => exact .found Draft.empty rest more
  | another => exact continues_readEntries .empty rest more

theorem continues_readItems (first : Bool) (draft : Draft) (fields : List Field)
    (input more : Text) :
    Continues (behind more) (readItems first draft fields input)
      (readItems first draft fields (input ++ more)) := by
  induction fields generalizing first draft input with
  | nil =>
      rw [readItems_nil_eq_bind, readItems_nil_eq_bind]
      refine (continues_lastItem input more).bind fun rest _ => ?_
      exact .found draft rest more
  | cons field fields ih =>
      rw [readItems_cons_eq_bind, readItems_cons_eq_bind]
      refine (continues_nextItem first input more).bind ?_
      rintro ⟨next, rest⟩ -
      cases next with
      | closed => exact .found draft rest more
      | another =>
          refine (continues_readValue field rest more).bind ?_
          rintro ⟨value, afterValue⟩ -
          exact ih false (draft.put field value) afterValue

theorem continues_readDraft (input more : Text) :
    Continues (behind more) (readDraft input) (readDraft (input ++ more)) := by
  rcases skip_append_cases input more with blank | ⟨c, rest, front, front'⟩
  · rw [readDraft, blank]
    exact .ended .value _
  · simp only [readDraft, front, front']
    split
    · exact continues_readObject rest more
    · split
      · exact continues_readItems true .empty Field.all rest more
      · exact .refused _ _

/-- Options that are given by a value are written in brackets. -/
theorem exists_closer_of_denotes {value : Value} {text : Text} {out : Draft}
    (denotes : Denotes value text) (filled : draftOf? value = some out) :
    ∃ front closer, text = front ++ [closer] ∧ (closer = '}' ∨ closer = ']') := by
  cases denotes with
  | @noItems blank _ => exact ⟨'[' :: blank, ']', rfl, .inr rfl⟩
  | @list _ body _ => exact ⟨'[' :: body, ']', rfl, .inr rfl⟩
  | @noEntries blank _ => exact ⟨'{' :: blank, '}', rfl, .inl rfl⟩
  | @object _ body _ => exact ⟨'{' :: body, '}', rfl, .inl rfl⟩
  | _ => cases filled

/-- Behind the bracket that closes them nothing but blanks stands. -/
theorem exists_closer_of_ofJson {text : Text} {options : Options}
    (accepted : ofJson text = .ok options) :
    ∃ front closer after, text = front ++ closer :: after ∧ (closer = '}' ∨ closer = ']') ∧
      Blank after := by
  obtain ⟨value, ⟨before, inner, after, hbefore, denotes, hafter, rfl⟩, given⟩ :=
    (ofJson_eq_ok_iff _ _).1 accepted
  rw [ofValue?_eq_map_draftOf?, Option.map_eq_some_iff] at given
  obtain ⟨out, filled, -⟩ := given
  obtain ⟨front, closer, rfl, closes⟩ := exists_closer_of_denotes denotes filled
  exact ⟨before ++ front, closer, after, by simp, closes, hafter⟩

theorem exists_readDraft_of_ofJson {text : Text} {options : Options}
    (accepted : ofJson text = .ok options) :
    ∃ out rest, readDraft text = .ok (out, rest) ∧ Blank rest := by
  obtain ⟨out, rest, read, hrest, -⟩ := (ofJson_eq_ok_iff_readDraft _ _).1 accepted
  exact ⟨out, rest, read, hrest⟩

/-- Written options are refused for a cause, at the end of the given bytes. -/
def RefusedBehind (text cause : Text) (bytes : List UInt8) : Prop :=
  ∃ diagnosis, ofJson text = .error diagnosis ∧ diagnosis.place = Place.behind bytes ∧
    refusal diagnosis =
      "invalid panel options: ".toList ++ cause ++ " at line ".toList ++
        Decimal.natural diagnosis.place.line ++ " column ".toList ++
        Decimal.natural diagnosis.place.column

theorem refusal_eq (diagnosis : Diagnosis) :
    refusal diagnosis =
      "invalid panel options: ".toList ++ diagnosis.fault.message ++ " at line ".toList ++
        Decimal.natural diagnosis.place.line ++ " column ".toList ++
        Decimal.natural diagnosis.place.column := by
  have regroup (first cause atLine line atColumn column : Text) :
      first ++ (cause ++ atLine ++ line ++ atColumn ++ column) =
        first ++ cause ++ atLine ++ line ++ atColumn ++ column := by
    simp only [List.append_assoc]
  unfold refusal Diagnosis.message
  exact regroup _ _ _ _ _ _

theorem refusedBehind_of_whole (text : Text) (failure : Failure)
    (refused : whole readDraft text = .error (failure.diagnose text)) :
    RefusedBehind text failure.fault.message
      ((Text.utf8 text).take (Text.byteSize text - failure.beyond)) := by
  exact ⟨failure.diagnose text, by rw [ofJson, refused], rfl, refusal_eq _⟩

/-- What is refused here is refused behind all that stands in front. -/
theorem refusedBehind_of_readDraft {front rest : Text} {fault : Fault}
    (refused : readDraft (front ++ rest) = .error (.here fault rest)) :
    RefusedBehind (front ++ rest) fault.message (Text.utf8 front) := by
  have behind := refusedBehind_of_whole (front ++ rest) (.here fault rest) (by rw [whole, refused])
  have size : Text.byteSize (front ++ rest) - Text.byteSize rest = (Text.utf8 front).length := by
    rw [Text.utf8_length, Text.byteSize_append, Nat.add_sub_cancel]
  rwa [Failure.here, size, Text.utf8_append, List.take_left] at behind

/-- Options that break off before their closing bracket are unfinished. -/
theorem refusedBehind_of_cut {text cut more : Text} {options : Options}
    (accepted : ofJson text = .ok options) (split : text = cut ++ more) (left : ¬ Blank more) :
    ∃ part : Part,
      RefusedBehind cut ("EOF while parsing ".toList ++ part.name) (Text.utf8 cut) := by
  obtain ⟨out, rest, read, hrest⟩ := exists_readDraft_of_ofJson accepted
  rw [split] at read
  rcases (continues_readDraft cut more).of_eq_ok read with ⟨part, ended⟩ | ⟨first, -, grown⟩
  · have refused := refusedBehind_of_whole cut (.ended part) (by rw [whole, ended])
    have all : (Text.utf8 cut).take (Text.byteSize cut - 0) = Text.utf8 cut := by
      rw [Nat.sub_zero, ← Text.utf8_length, List.take_length]
    exact ⟨part, all ▸ refused⟩
  · have same : first.2 ++ more = rest := congrArg Prod.snd grown
    exact absurd (fun c member => hrest c (same ▸ List.mem_append_right first.2 member)) left

/-- Blanks around options do not count. -/
theorem ofJson_blank_append {text : Text} {options : Options}
    (accepted : ofJson text = .ok options) {before after : Text} (hbefore : Blank before)
    (hafter : Blank after) : ofJson (before ++ text ++ after) = .ok options := by
  obtain ⟨value, ⟨front, inner, behind, hfront, denotes, hbehind, rfl⟩, given⟩ :=
    (ofJson_eq_ok_iff _ _).1 accepted
  refine (ofJson_eq_ok_iff _ _).2 ⟨value, ⟨before ++ front, inner, behind ++ after,
    hbefore.append hfront, denotes, hbehind.append hafter, ?_⟩, given⟩
  simp only [List.append_assoc]

/-- What follows options is refused at its first character that is no blank. -/
theorem refusedBehind_of_append {text blank later : Text} {c : Char} {options : Options}
    (accepted : ofJson text = .ok options) (hblank : Blank blank) (solid : isSpace c = false) :
    RefusedBehind (text ++ (blank ++ c :: later)) "trailing characters".toList
      ((Text.utf8 (text ++ (blank ++ c :: later))).take (Text.byteSize (text ++ blank) + 1)) := by
  obtain ⟨out, rest, read, hrest⟩ := exists_readDraft_of_ofJson accepted
  have grown : readDraft (text ++ (blank ++ c :: later)) =
      .ok (out, rest ++ (blank ++ c :: later)) :=
    (continues_readDraft text (blank ++ c :: later)).eq_ok read
  have front : skip (rest ++ (blank ++ c :: later)) = c :: later :=
    (skip_eq_cons_iff _ _ _).2 ⟨solid, rest ++ blank, hrest.append hblank, by simp⟩
  have refused := refusedBehind_of_whole (text ++ (blank ++ c :: later))
    (.past .trailingText (c :: later)) (by simp only [whole, grown, front])
  have bytes : Text.byteSize (text ++ (blank ++ c :: later)) -
      (Text.byteSize (c :: later) - 1) = Text.byteSize (text ++ blank) + 1 := by
    have wide := Char.utf8Size_pos c
    simp only [Text.byteSize_append, Text.byteSize_cons]
    omega
  rw [← bytes]
  exact refused

/-- Accepted options end at their closing bracket.  Every text that breaks off before
it is refused as unfinished, at its end; blanks around the options do not count; and
what follows them is refused one byte into its first character that is no blank. -/
theorem ofJson_ends_at_closer {text : Text} {options : Options}
    (accepted : ofJson text = .ok options) :
    (∃ front closer after, text = front ++ closer :: after ∧ (closer = '}' ∨ closer = ']') ∧
        Blank after ∧ ∀ cut, cut <+: front → ∃ part : Part,
          RefusedBehind cut ("EOF while parsing ".toList ++ part.name) (Text.utf8 cut)) ∧
      (∀ before after, Blank before → Blank after →
        ofJson (before ++ text ++ after) = .ok options) ∧
      ∀ more, ¬ Blank more → ∃ blank c later, more = blank ++ c :: later ∧ Blank blank ∧
        isSpace c = false ∧ RefusedBehind (text ++ more) "trailing characters".toList
          ((Text.utf8 (text ++ more)).take (Text.byteSize (text ++ blank) + 1)) := by
  refine ⟨?_, ?_, ?_⟩
  · obtain ⟨front, closer, after, rfl, closes, hafter⟩ := exists_closer_of_ofJson accepted
    refine ⟨front, closer, after, rfl, closes, hafter, ?_⟩
    intro cut hcut
    obtain ⟨left, rfl⟩ := hcut
    have solid : isSpace closer = false := by rcases closes with rfl | rfl <;> decide
    refine refusedBehind_of_cut accepted (List.append_assoc cut left _) ?_
    intro blank
    have spaced := blank closer (by simp)
    rw [solid] at spaced
    cases spaced
  · intro before after hbefore hafter
    exact ofJson_blank_append accepted hbefore hafter
  · intro more left
    rw [← skip_eq_nil_iff] at left
    obtain ⟨c, later, front⟩ := List.exists_cons_of_ne_nil left
    obtain ⟨solid, blank, hblank, rfl⟩ := (skip_eq_cons_iff _ _ _).1 front
    exact ⟨blank, c, later, rfl, hblank, solid, refusedBehind_of_append accepted hblank solid⟩

/-- The list `["a"]` is accepted, and refused when it is cut inside its string or
when the letter `x` follows it. -/
theorem ofJson_list_ends_at_closer :
    ofJson ['[', '"', 'a', '"', ']'] = .ok { default with target := ['a'] } ∧
      (∃ part : Part, RefusedBehind ['[', '"', 'a'] ("EOF while parsing ".toList ++ part.name)
        (Text.utf8 ['[', '"', 'a'])) ∧
      ofJson ([' '] ++ ['[', '"', 'a', '"', ']'] ++ ['\n']) =
        .ok { default with target := ['a'] } ∧
      RefusedBehind (['[', '"', 'a', '"', ']'] ++ ['\t', 'x']) "trailing characters".toList
        ((Text.utf8 (['[', '"', 'a', '"', ']'] ++ ['\t', 'x'])).take 7) := by
  have accepted : ofJson ['[', '"', 'a', '"', ']'] = .ok { default with target := ['a'] } := by
    cbv
  obtain ⟨⟨front, closer, after, split, closes, -, cuts⟩, blanks, followed⟩ :=
    ofJson_ends_at_closer accepted
  have whole : front = ['[', '"', 'a', '"'] := by
    rcases closes with rfl | rfl
    · simp [List.cons_eq_append_iff] at split
    · exact (by simpa [List.cons_eq_append_iff] using split : _ ∧ after = []).1
  obtain ⟨blank, c, later, more, -, solid, refused⟩ := followed ['\t', 'x'] (by decide)
  have skipped : blank = ['\t'] := by
    rcases List.cons_eq_append_iff.1 more with ⟨-, same⟩ | ⟨blank', rfl, more'⟩
    · cases same
      cases solid
    · rcases List.cons_eq_append_iff.1 more' with ⟨rfl, -⟩ | ⟨blank'', rfl, more''⟩
      · rfl
      · simp at more''
  rw [skipped] at refused
  exact ⟨accepted, cuts _ ⟨['"'], by rw [whole]; rfl⟩, blanks _ _ (by decide) (by decide), refused⟩

end Options

end SampleLine
