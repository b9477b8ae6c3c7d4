/-
A hyphen form in options and a hyphen form alone.  Where options expect a form, each text
is read that would be read as a form by itself, and gives that form.  What would be refused
by itself for one of its own characters is refused in options for the same cause, as far
behind the front of the options as it would be behind nothing.
-/
import SampleLine.Proofs.Options.Lookahead
import SampleLine.Proofs.Options.Slots

namespace SampleLine

namespace Options

open Json

/-- A text that is a form by itself may start an item of a list. -/
theorem mayStartItem_of_ofJson {text : Text} {form : HyphenForm}
    (alone : HyphenForm.ofJson text = .ok form) (more : Text) :
    MayStartItem (skip (text ++ more)) := by
  obtain ⟨rest, read, -⟩ := (whole_eq_ok_iff _ _ _).1 alone
  have grown := (HyphenForm.continues_read text more).eq_ok read
  obtain ⟨value, inner, item, -, front⟩ := (HyphenForm.read_eq_ok_iff _ _ _).1 grown
  obtain ⟨c, later, rfl, -, noBracket⟩ := item.front
  rw [front]
  exact (mayStartItem_cons_iff c _).2 noBracket

/-- In the slot of the form the texts of a form are read alike, but for the form. -/
theorem exists_readDraft_eq_of_form {front : Text}
    (slot : EntrySlot .form front ∨ ItemSlot .form front) (more : Text) :
    ∃ (draft : Draft) (next : Draft → Text → Reading Draft), GoesOn .form next ∧
      ∀ text form, HyphenForm.ofJson text = .ok form →
        readDraft (front ++ text ++ more) = next (draft.put .form form) more := by
  obtain ⟨draft, next, goesOn, same⟩ := exists_goesOn_of_slot slot
  refine ⟨draft, next, goesOn, ?_⟩
  intro text form alone
  obtain ⟨rest, read, hrest⟩ := (whole_eq_ok_iff _ _ _).1 alone
  have given : readValue .form (text ++ more) = .ok (form, rest ++ more) :=
    (HyphenForm.continues_read text more).eq_ok read
  rw [List.append_assoc, same _ fun _ => mayStartItem_of_ofJson alone more, given]
  exact goesOn.blank_append hrest _ more

/-- Options stay options when another text of a form takes the place of theirs. -/
theorem ofJson_replace_form {front text other more : Text} {form otherForm : HyphenForm}
    {options : Options} (slot : EntrySlot .form front ∨ ItemSlot .form front)
    (alone : HyphenForm.ofJson text = .ok form) (there : HyphenForm.ofJson other = .ok otherForm)
    (accepted : ofJson (front ++ other ++ more) = .ok options) :
    options.form = otherForm ∧
      ofJson (front ++ text ++ more) = .ok { options with form := form } := by
  obtain ⟨draft, next, goesOn, same⟩ := exists_readDraft_eq_of_form slot more
  obtain ⟨out, rest, read, hrest, rfl⟩ := (ofJson_eq_ok_iff_readDraft _ _).1 accepted
  rw [same other otherForm there] at read
  constructor
  · exact Draft.get_complete_of_some (goesOn.get_eq read)
  · refine (ofJson_eq_ok_iff_readDraft _ _).2 ⟨out.put .form form, rest, ?_, hrest, rfl⟩
    rw [same text form alone]
    exact goesOn.put read form

/-- What is refused by itself before its end is refused in options likewise. -/
theorem refusedBehind_of_form {front text : Text} {diagnosis : Diagnosis} {offset : Nat}
    (slot : EntrySlot .form front ∨ ItemSlot .form front)
    (starts : ItemSlot .form front → (skip text).head? ≠ some ']')
    (refused : HyphenForm.ofJson text = .error diagnosis) (cause : diagnosis.fault ≠ .trailingText)
    (inside : offset < Text.byteSize text)
    (place : diagnosis.place = Place.behind ((Text.utf8 text).take offset)) (more : Text) :
    RefusedBehind (front ++ text ++ more) diagnosis.fault.message
      ((Text.utf8 (front ++ text ++ more)).take (Text.byteSize front + offset)) := by
  obtain ⟨failure, failed, rfl⟩ := exists_failure_of_whole refused cause
  have near := HyphenForm.nearsighted_read text
  have beyond : failure.beyond + offset = Text.byteSize text := by
    have within := near.within
    rw [failed] at within
    have within : failure.beyond ≤ Text.byteSize text := within
    have same := behind_take_inj (by rw [Text.utf8_length]; omega)
      (by rw [Text.utf8_length]; exact Nat.le_of_lt inside) place
    omega
  have given : readValue .form (text ++ more) =
      .error ⟨failure.fault, failure.beyond + Text.byteSize more⟩ :=
    near.append_eq_error failed (by omega) more
  have startsItem : ItemSlot .form front → MayStartItem (skip (text ++ more)) := by
    intro item
    rcases skip_append_cases text more with blank | ⟨c, rest, first, first'⟩
    · rw [HyphenForm.read, blank] at failed
      cases failed
      have atEnd : 0 + offset = Text.byteSize text := beyond
      omega
    · rw [first', mayStartItem_cons_iff]
      rintro rfl
      exact starts item (by rw [first]; rfl)
  have read : readDraft (front ++ text ++ more) =
      .error ⟨failure.fault, failure.beyond + Text.byteSize more⟩ := by
    rw [List.append_assoc]
    exact readDraft_eq_error_of_slot slot startsItem given
  have behind := refusedBehind_of_whole (front ++ text ++ more) _ (by rw [whole, read])
  have offset_eq : Text.byteSize (front ++ text ++ more) -
      (failure.beyond + Text.byteSize more) = Text.byteSize front + offset := by
    rw [Text.byteSize_append, Text.byteSize_append]
    omega
  rwa [offset_eq] at behind

/-- Where options expect a form, a text is read as it is by itself.  If it is a form, then
whatever makes it a text of options together with the front gives options with that form,
and it can take the place of every other form.  If it is refused by itself, before its end
and not for what follows a form, then the options are refused for the same cause, as many
bytes behind their front, whatever follows. -/
theorem form_read_as_alone {front text : Text}
    (slot : EntrySlot .form front ∨ ItemSlot .form front)
    (starts : ItemSlot .form front → (skip text).head? ≠ some ']') :
    (∀ form, HyphenForm.ofJson text = .ok form →
      (∀ more options value, IsTextOf value (front ++ text ++ more) → options.GivenBy value →
        ofJson (front ++ text ++ more) = .ok options ∧ options.form = form) ∧
      ∀ more options other otherForm, HyphenForm.ofJson other = .ok otherForm →
        ofJson (front ++ other ++ more) = .ok options →
          ofJson (front ++ text ++ more) = .ok { options with form := form }) ∧
      ∀ diagnosis offset, HyphenForm.ofJson text = .error diagnosis →
        diagnosis.fault ≠ .trailingText → offset < Text.byteSize text →
          diagnosis.place = Place.behind ((Text.utf8 text).take offset) → ∀ more,
            RefusedBehind (front ++ text ++ more) diagnosis.fault.message
              ((Text.utf8 (front ++ text ++ more)).take (Text.byteSize front + offset)) := by
  refine ⟨?_, ?_⟩
  · intro form alone
    constructor
    · intro more options value written given
      have accepted := (ofJson_eq_ok_iff (front ++ text ++ more) options).2
        ⟨value, written, (ofValue?_eq_some_iff value options).2 given⟩
      exact ⟨accepted, (ofJson_replace_form slot alone alone accepted).1⟩
    · intro more options other otherForm there accepted
      exact (ofJson_replace_form slot alone there accepted).2
  · intro diagnosis offset refused cause inside place more
    exact refusedBehind_of_form slot starts refused cause inside place more

/-- Behind the colon of its entry `"character"` can take the place of `"entity"`, and behind
the comma of a list `[1` is refused at its second byte, as it is alone. -/
theorem form_read_as_alone_in_object_and_list :
    EntrySlot .form "\x7b\"verbose\":true,\"glyph\":".toList ∧
      HyphenForm.ofJson "\"character\"".toList = .ok .character ∧
      ofJson ("\x7b\"verbose\":true,\"glyph\":".toList ++ "\"character\"".toList ++ ['\x7d']) =
        .ok { default with form := .character, verbose := true } ∧
      ItemSlot .form "[\"a\",".toList ∧
      HyphenForm.ofJson ['[', '1'] = .error ⟨.missingValue, ⟨1, 1⟩⟩ ∧
      RefusedBehind ("[\"a\",".toList ++ ['[', '1'] ++ [']']) "expected value".toList
        ((Text.utf8 ("[\"a\",".toList ++ ['[', '1'] ++ [']'])).take 6) := by
  have fits : Fits [(Field.verbose.name, .boolean true)] :=
    ⟨by decide, List.forall_mem_singleton.2 ⟨.verbose, true, rfl, .verbose true⟩⟩
  have word : Spelling ['a'] ['a'] := spelling_self (by simp)
  have members := MembersForm.cons
    (.mk Blank.nil (Field.spelling_name .verbose) Blank.nil Blank.nil .trueWord Blank.nil) .nil
  have entry : EntrySlot .form "\x7b\"verbose\":true,\"glyph\":".toList :=
    .mk fits (by decide) (.mk Blank.nil members Blank.nil (Field.spelling_name .form)) Blank.nil
      Blank.nil
  have comma : Lead false [','] := ⟨[], Blank.nil, rfl⟩
  have opened : Lead true [] := rfl
  have items : ItemsBefore true [.target] "\"a\",".toList :=
    .cons opened Blank.nil (.text word) (.target ['a']) (.nil comma Blank.nil)
  have item : ItemSlot .form "[\"a\",".toList := .mk Blank.nil rfl items
  have entity : HyphenForm.ofJson "\"entity\"".toList = .ok .entity := by cbv
  have character : HyphenForm.ofJson "\"character\"".toList = .ok .character := by cbv
  have accepted : ofJson ("\x7b\"verbose\":true,\"glyph\":".toList ++ "\"entity\"".toList ++
      ['\x7d']) = .ok { default with verbose := true } := by cbv
  have refused : HyphenForm.ofJson ['[', '1'] = .error ⟨.missingValue, ⟨1, 1⟩⟩ := by rfl
  have quote : (skip "\"character\"".toList).head? ≠ some ']' := by decide
  have bracket : (skip ['[', '1']).head? ≠ some ']' := by decide
  obtain ⟨replaced, -⟩ := form_read_as_alone (.inl entry) fun _ => quote
  obtain ⟨-, likewise⟩ := form_read_as_alone (.inr item) fun _ => bracket
  exact ⟨entry, character, (replaced .character character).2 _ _ _ .entity entity accepted, item,
    refused, likewise _ 1 refused (by decide) (by decide) (by decide) [']']⟩

end Options

end SampleLine
