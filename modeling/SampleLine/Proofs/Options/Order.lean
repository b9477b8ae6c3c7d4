/-
Options in an object, supplied as a value or written as a text.  The order of the entries
does not count, and every text of the object reads as the object itself.
-/
import SampleLine.Proofs.Json.Delimiting
import SampleLine.Proofs.Options.Reading

namespace SampleLine

namespace Json

/-- Two values that differ in the order of entries only, at any depth. -/
inductive SameButOrder : Value → Value → Prop where
  | refl (value : Value) : SameButOrder value value
  | trans {first second third : Value} (front : SameButOrder first second)
      (back : SameButOrder second third) : SameButOrder first third
  | reorder {entries others : List (Text × Value)} (perm : entries.Perm others) :
      SameButOrder (.object entries) (.object others)
  | entry {value other : Value} (before : List (Text × Value)) (key : Text)
      (inner : SameButOrder value other) (after : List (Text × Value)) :
      SameButOrder (.object (before ++ (key, value) :: after))
        (.object (before ++ (key, other) :: after))
  | item {value other : Value} (before : List Value) (inner : SameButOrder value other)
      (after : List Value) :
      SameButOrder (.list (before ++ value :: after)) (.list (before ++ other :: after))

theorem SameButOrder.eq_null_iff {value other : Value} (same : SameButOrder value other) :
    value = .null ↔ other = .null := by
  induction same with
  | refl => exact Iff.rfl
  | trans _ _ front back => exact front.trans back
  | _ => exact iff_of_false nofun nofun

end Json

namespace Options

open Json

/-- The one entry of a form has no other order. -/
theorem Field.ofValue?_eq_of_sameButOrder {value other : Json.Value}
    (same : SameButOrder value other) (field : Field) :
    field.ofValue? value = field.ofValue? other := by
  induction same with
  | refl => rfl
  | trans _ _ front back => exact front.trans back
  | @reorder entries others perm =>
      cases field with
      | form =>
          ext form
          simp only [Field.ofValue?, HyphenForm.ofValue?_eq_some_iff, reduceCtorEq, false_or,
            Value.object.injEq]
          constructor
          · rintro rfl
            exact (List.singleton_perm.1 perm).symm
          · rintro rfl
            exact List.perm_singleton.1 perm
      | _ => rfl
  | @entry value other before key inner after _ =>
      cases field with
      | form =>
          ext form
          simp only [Field.ofValue?, HyphenForm.ofValue?_eq_some_iff, reduceCtorEq, false_or,
            Value.object.injEq, List.append_eq_singleton_iff, List.cons.injEq, Prod.mk.injEq,
            inner.eq_null_iff, and_false, or_false]
      | _ => rfl
  | item before inner after => cases field <;> rfl

theorem Draft.ofEntries?_eq_of_sameButOrder {value other : Value}
    (same : SameButOrder value other) (draft : Draft) (before : List (Text × Value)) (key : Text)
    (after : List (Text × Value)) :
    draft.ofEntries? (before ++ (key, value) :: after) =
      draft.ofEntries? (before ++ (key, other) :: after) := by
  induction before generalizing draft with
  | nil => simp only [List.nil_append, ofEntries?, Field.ofValue?_eq_of_sameButOrder same]
  | cons entry before ih => simp only [List.cons_append, ofEntries?, ih]

theorem Draft.ofItems?_eq_of_sameButOrder {value other : Value}
    (same : SameButOrder value other) (draft : Draft) (fields : List Field) (before : List Value)
    (after : List Value) :
    draft.ofItems? fields (before ++ value :: after) =
      draft.ofItems? fields (before ++ other :: after) := by
  induction before generalizing draft fields with
  | nil =>
      cases fields with
      | nil => rfl
      | cons field fields =>
          simp only [List.nil_append, ofItems?, Field.ofValue?_eq_of_sameButOrder same]
  | cons item before ih =>
      cases fields with
      | nil => rfl
      | cons field fields => simp only [List.cons_append, ofItems?, ih]

theorem GivenBy.perm {options : Options} {entries others : List (Text × Value)}
    (gives : options.GivenBy (.object entries)) (perm : entries.Perm others) :
    options.GivenBy (.object others) := by
  have keys : (entries.map Prod.fst).Perm (others.map Prod.fst) := perm.map _
  cases gives with
  | object distinct known given left =>
      refine .object (keys.nodup_iff.1 distinct) ?_ ?_ ?_
      · intro entry member
        exact known entry (perm.mem_iff.2 member)
      · intro field value member
        exact given field value (perm.mem_iff.2 member)
      · intro field absent
        exact left field fun present => absent (keys.mem_iff.1 present)

/-- The order of entries does not count, at any depth. -/
theorem ofValue?_eq_of_sameButOrder {value other : Value} (same : SameButOrder value other) :
    ofValue? value = ofValue? other := by
  induction same with
  | refl => rfl
  | trans _ _ front back => exact front.trans back
  | reorder perm =>
      ext options
      rw [ofValue?_eq_some_iff, ofValue?_eq_some_iff]
      exact ⟨fun gives => gives.perm perm, fun gives => gives.perm perm.symm⟩
  | entry before key inner after _ =>
      rw [ofValue?, ofValue?, Draft.ofEntries?_eq_of_sameButOrder inner]
  | item before inner after _ =>
      rw [ofValue?, ofValue?, Draft.ofItems?_eq_of_sameButOrder inner]

theorem Field.Holds.selfDelimited {field : Field} {held : field.Value} {value : Json.Value}
    (holds : field.Holds held value) : SelfDelimited value := by
  cases holds with
  | target word => exact selfDelimited_text word
  | formName form => exact selfDelimited_text form.name
  | formEntry form =>
      apply selfDelimited_object
      intro entry member
      rw [List.mem_singleton.1 member]
      exact selfDelimited_null
  | verbose flag => exact selfDelimited_boolean flag

/-- No number stands in an object that gives options. -/
theorem GivenBy.selfDelimited {options : Options} {entries : List (Text × Value)}
    (gives : options.GivenBy (.object entries)) : SelfDelimited (.object entries) := by
  cases gives with
  | object distinct known given left =>
      apply selfDelimited_object
      intro entry member
      obtain ⟨key, value⟩ := entry
      obtain ⟨field, rfl⟩ := (Field.mem_names_iff key).1 (known (key, value) member)
      exact (given field value member).selfDelimited

/-- The text of an object is read as the options that the object gives, and as no others. -/
theorem ofJson_eq_ok_iff_of_isTextOf {entries : List (Text × Value)} {text : Text}
    (written : IsTextOf (.object entries) text) (options : Options) :
    ofJson text = .ok options ↔ ofValue? (.object entries) = some options := by
  rw [ofJson_eq_ok_iff_exists_givenBy, ofValue?_eq_some_iff]
  constructor
  · intro h
    rcases h with ⟨value, written', gives⟩
    cases value with
    | object others =>
        have same := gives.selfDelimited.eq_of_isTextOf written' written
        rwa [same]
    | list items =>
        obtain ⟨c, later, front, brace⟩ := written.exists_opener
        obtain ⟨c', later', front', bracket⟩ := written'.exists_opener
        rw [← (List.cons.inj (front.symm.trans front')).1] at bracket
        rw [of_decide_eq_true brace] at bracket
        cases bracket
    | _ => cases gives
  · intro gives
    exact ⟨_, written, gives⟩

/-- However the entries of an object are ordered, spaced and spelled, its text is read as the
options that the object gives. -/
theorem ofJson_eq_ok_iff_of_sameButOrder {entries written : List (Text × Value)} {text : Text}
    (same : SameButOrder (.object entries) (.object written))
    (denotes : IsTextOf (.object written) text) (options : Options) :
    ofJson text = .ok options ↔ ofValue? (.object entries) = some options := by
  rw [ofValue?_eq_of_sameButOrder same, ofJson_eq_ok_iff_of_isTextOf denotes]

end Options

end SampleLine
