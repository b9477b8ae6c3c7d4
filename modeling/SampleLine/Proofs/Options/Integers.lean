/-
Integers where options expect something else.  A report calls a literal an integer exactly
if it fits 64 bits; any other is refused as a real or for its size, in the same place.
-/
import SampleLine.Proofs.Json.Integers
import SampleLine.Proofs.Options.Slots

namespace SampleLine

namespace Options

open Json

/-- Behind this front options expect something that is no number, and this is how a report
calls it. -/
inductive Expects : Text → Text → Prop where
  | options {blank : Text} (hblank : Blank blank) : Expects blank reportedName
  | target {front : Text} (slot : EntrySlot .target front ∨ ItemSlot .target front) :
      Expects front "a string".toList
  | verbose {front : Text} (slot : EntrySlot .verbose front ∨ ItemSlot .verbose front) :
      Expects front "a boolean".toList

section Number

variable {front expected : Text} {c : Char}

theorem ne_of_startsNumber (starts : c = '-' ∨ c.isDigit = true) {d : Char}
    (other : d ≠ '-' ∧ d.isDigit = false) : c ≠ d := by
  rintro rfl
  rcases starts with minus | digit
  · exact other.1 minus
  · rw [other.2] at digit
    cases digit

theorem skip_of_startsNumber (starts : c = '-' ∨ c.isDigit = true) (rest : Text) :
    skip (c :: rest) = c :: rest := by
  have solid : isSpace c = false := by
    rcases starts with rfl | digit
    · decide
    · exact (not_isSpace_of_isDigit digit).1
  exact skip_cons_of_not_space solid rest

/-- A number is refused for its kind, or for what is wrong with it. -/
theorem Expects.readDraft_eq (expects : Expects front expected)
    (starts : c = '-' ∨ c.isDigit = true) (rest : Text) :
    readDraft (front ++ c :: rest) = .error (mismatch expected (c :: rest)) := by
  have atNumber := skip_of_startsNumber starts rest
  have item : MayStartItem (skip (c :: rest)) := by
    rw [atNumber, mayStartItem_cons_iff]
    exact ne_of_startsNumber starts (by decide)
  cases expects with
  | options hblank =>
      have brace : c ≠ '{' := ne_of_startsNumber starts (by decide)
      have bracket : c ≠ '[' := ne_of_startsNumber starts (by decide)
      simp only [readDraft, skip_append_of_blank hblank, atNumber, if_neg brace, if_neg bracket]
  | target slot =>
      have quote : c ≠ '"' := ne_of_startsNumber starts (by decide)
      refine readDraft_eq_error_of_slot slot (fun _ => item) ?_
      simp only [readValue, text, atNumber, if_neg quote]
  | verbose slot =>
      have yes : c ≠ 't' := ne_of_startsNumber starts (by decide)
      have no : c ≠ 'f' := ne_of_startsNumber starts (by decide)
      refine readDraft_eq_error_of_slot slot (fun _ => item) ?_
      simp only [readValue, boolean, atNumber, if_neg yes, if_neg no]

/-- What is wrong with a literal is reported at its end. -/
theorem Expects.refusedBehind (expects : Expects front expected) {negative : Bool} {n : Nat}
    {rest : Text} {fault : Fault}
    (refused : mismatch expected (literal negative n ++ rest) = .here fault rest) :
    RefusedBehind (front ++ literal negative n ++ rest) fault.message
      (Text.utf8 (front ++ literal negative n)) := by
  obtain ⟨c, later, written, starts⟩ := exists_literal_eq_cons negative n
  apply refusedBehind_of_readDraft
  rw [List.append_assoc, ← refused, written, List.cons_append]
  exact expects.readDraft_eq starts (later ++ rest)

end Number

/-- Options are refused for one cause only. -/
theorem RefusedBehind.cause_unique {text cause other : Text} {bytes bytes' : List UInt8}
    (refused : RefusedBehind text cause bytes) (refused' : RefusedBehind text other bytes') :
    other = cause := by
  obtain ⟨diagnosis, failed, -, said⟩ := refused
  obtain ⟨diagnosis', failed', -, said'⟩ := refused'
  cases failed.symm.trans failed'
  have same := said'.symm.trans said
  simp only [List.append_assoc, List.append_cancel_left_eq] at same
  exact List.append_cancel_right same

/-- A literal is reported as an integer exactly if it fits. -/
theorem Expects.refusedBehind_integer_iff {front expected : Text} (expects : Expects front expected)
    (negative : Bool) (n : Nat) {rest : Text} (ends : EndsNumber rest) :
    RefusedBehind (front ++ literal negative n ++ rest)
        ("invalid type: integer `".toList ++ literal negative n ++ "`, expected ".toList ++
          expected)
        (Text.utf8 (front ++ literal negative n)) ↔ FitsWord negative n := by
  constructor
  · intro refused
    by_contra large
    obtain ⟨fault, failed, unnamed⟩ := mismatch_of_not_fits large expected ends
    rw [refused.cause_unique (expects.refusedBehind failed)] at unnamed
    have named : "invalid type: integer".toList <+: "invalid type: integer `".toList := by decide
    apply unnamed
    simp only [List.append_assoc]
    exact named.trans (List.prefix_append _ _)
  · intro fits
    obtain ⟨fault, failed, said⟩ := mismatch_of_fits fits expected ends
    rw [← said]
    exact expects.refusedBehind failed

/-- Where options expect something else, the digits of a natural number are reported as an
integer, behind the last of them, exactly up to the largest of 64 bits; behind a minus,
exactly from one to the size of the least signed one.  Every other literal is refused in the
same place and not reported as an integer.  However many digits there are, the number that
is counted in 64 bits never wraps around. -/
theorem integer_reported_iff {front expected rest : Text} (expects : Expects front expected)
    (ends : EndsNumber rest) (n : Nat) :
    (RefusedBehind (front ++ literal false n ++ rest)
        ("invalid type: integer `".toList ++ literal false n ++ "`, expected ".toList ++ expected)
        (Text.utf8 (front ++ literal false n)) ↔ n ≤ Nat.pow 2 64 - 1) ∧
      (RefusedBehind (front ++ literal true n ++ rest)
        ("invalid type: integer `".toList ++ literal true n ++ "`, expected ".toList ++ expected)
        (Text.utf8 (front ++ literal true n)) ↔ 1 ≤ n ∧ n ≤ Nat.pow 2 63) ∧
      (∀ negative, ¬ FitsWord negative n →
        ∃ cause, RefusedBehind (front ++ literal negative n ++ rest) cause
          (Text.utf8 (front ++ literal negative n)) ∧
            ¬ "invalid type: integer".toList <+: cause) ∧
      ∀ digits, ∃ taken left, digits = taken ++ left ∧
        gather (Nat.pow 2 64 - 1) 0 digits = ((wordValue taken).toNat, left) ∧
          ∀ part, part <+: taken → (wordValue part).toNat = digitsValue part := by
  refine ⟨?_, ?_, ?_, exists_gather_eq_wordValue⟩
  · exact expects.refusedBehind_integer_iff false n ends
  · exact expects.refusedBehind_integer_iff true n ends
  · intro negative large
    obtain ⟨fault, failed, unnamed⟩ := mismatch_of_not_fits large expected ends
    exact ⟨fault.message, expects.refusedBehind failed, unnamed⟩

/-- The largest number of 64 bits is reported as an integer.  One below the least signed number
is not. -/
theorem integer_reported_iff_at_limits :
    let front : Text := "\x7b\"verbose\":".toList
    let most : Text := "18446744073709551615".toList
    let below : Text := "-9223372036854775809".toList
    Expects front "a boolean".toList ∧ EndsNumber ['\x7d'] ∧
      RefusedBehind (front ++ most ++ ['\x7d'])
        ("invalid type: integer `".toList ++ most ++ "`, expected ".toList ++ "a boolean".toList)
        (Text.utf8 (front ++ most)) ∧
      ¬ FitsWord true 9223372036854775809 ∧
      ∃ cause, RefusedBehind (front ++ below ++ ['\x7d']) cause (Text.utf8 (front ++ below)) ∧
        ¬ "invalid type: integer".toList <+: cause := by
  intro front most below
  have nothing : Fits [] := ⟨List.nodup_nil, List.forall_mem_nil _⟩
  have slot : EntrySlot .verbose front :=
    .mk nothing (by decide) (.mk Blank.nil .nil Blank.nil (Field.spelling_name .verbose))
      Blank.nil Blank.nil
  have expects : Expects front "a boolean".toList := .verbose (.inl slot)
  have ends : EndsNumber ['\x7d'] := by
    rintro _ _ ⟨⟩
    decide
  have large : ¬ FitsWord true 9223372036854775809 := by
    rw [FitsWord]
    decide
  have plain : literal false 18446744073709551615 = most := by decide
  have signed : literal true 9223372036854775809 = below := by decide
  obtain ⟨told, -, -, -⟩ := integer_reported_iff expects ends 18446744073709551615
  obtain ⟨-, -, untold, -⟩ := integer_reported_iff expects ends 9223372036854775809
  have told := told.2 (by decide)
  have untold := untold true large
  rw [plain] at told
  rw [signed] at untold
  exact ⟨expects, ends, told, large, untold⟩

end Options

end SampleLine
