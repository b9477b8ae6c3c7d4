/-
Numbers of decimal digits only.  Digits are taken while the number stays within 64 bits, so
one without point and exponent is an integer exactly if it fits, however long it is.
-/
import SampleLine.Json.Grammar
import SampleLine.Json.Reader
import SampleLine.Proofs.Json.Numerals

namespace SampleLine

namespace Json

theorem le_ofDigitChars (text : Text) (n : Nat) : n ≤ Nat.ofDigitChars 10 text n := by
  induction text generalizing n with
  | nil => exact Nat.le_refl n
  | cons c text ih =>
      rw [Nat.ofDigitChars_cons]
      have later := ih (10 * n + (c.toNat - '0'.toNat))
      omega

theorem ofDigitChars_le_append (front more : Text) (n : Nat) :
    Nat.ofDigitChars 10 front n ≤ Nat.ofDigitChars 10 (front ++ more) n := by
  rw [Nat.ofDigitChars_append]
  exact le_ofDigitChars more _

/-- The digits that are taken are the longest front whose number is within the limit. -/
theorem exists_gather_eq {limit n : Nat} (inside : n ≤ limit) (text : Text) :
    ∃ taken left, text = taken ++ left ∧
      gather limit n text = (Nat.ofDigitChars 10 taken n, left) ∧
        Nat.ofDigitChars 10 taken n ≤ limit ∧
          ∀ c later, left = c :: later → limit < Nat.ofDigitChars 10 (taken ++ [c]) n := by
  induction text generalizing n with
  | nil => exact ⟨[], [], rfl, rfl, inside, nofun⟩
  | cons c text ih =>
      rw [gather]
      by_cases fits : 10 * n + digitValue c ≤ limit
      · obtain ⟨taken, left, rfl, read, within, beyond⟩ := ih fits
        rw [if_pos fits, read]
        exact ⟨c :: taken, left, rfl, rfl, within, beyond⟩
      · rw [if_neg fits]
        refine ⟨[], c :: text, rfl, rfl, inside, ?_⟩
        rintro _ _ ⟨⟩
        exact Nat.lt_of_not_le fits

theorem gather_of_le {limit : Nat} {text : Text} (fits : digitsValue text ≤ limit) :
    gather limit 0 text = (digitsValue text, []) := by
  obtain ⟨taken, left, rfl, read, -, beyond⟩ := exists_gather_eq (Nat.zero_le limit) text
  cases left with
  | nil =>
      rw [read, List.append_nil]
      rfl
  | cons c later =>
      have spilled := beyond c later rfl
      have front := ofDigitChars_le_append (taken ++ [c]) later 0
      rw [List.append_assoc, List.singleton_append] at front
      exact absurd (Nat.le_trans front fits) (Nat.not_le_of_lt spilled)

theorem gather_snd_ne_nil {limit : Nat} {text : Text} (large : limit < digitsValue text) :
    (gather limit 0 text).2 ≠ [] := by
  obtain ⟨taken, left, rfl, read, within, -⟩ := exists_gather_eq (Nat.zero_le limit) text
  rw [read]
  rintro rfl
  rw [List.append_nil] at large
  exact absurd within (Nat.not_le_of_lt large)

/-- The number of some digits as 64 bits count it: what does not fit wraps around. -/
def wordValue (text : Text) : UInt64 :=
  text.foldl (fun n c => 10 * n + UInt64.ofNat (digitValue c)) 0

theorem toNat_wordValue (text : Text) :
    (wordValue text).toNat = digitsValue text % Nat.pow 2 64 := by
  have size : Nat.pow 2 64 = 18446744073709551616 := rfl
  have ten : (10 : UInt64).toNat = 10 := rfl
  induction text using List.reverseRecOn with
  | nil => rfl
  | append_singleton text c ih =>
      have step : wordValue (text ++ [c]) =
          10 * wordValue text + UInt64.ofNat (digitValue c) := by
        rw [wordValue, List.foldl_append]
        rfl
      have exact : digitsValue (text ++ [c]) = 10 * digitsValue text + digitValue c := by
        rw [digitsValue, List.foldl_append]
        rfl
      rw [step, exact, UInt64.toNat_add, UInt64.toNat_mul, UInt64.toNat_ofNat', ih, ten, size]
      omega

/-- While digits are taken, counting in 64 bits never wraps around. -/
theorem exists_gather_eq_wordValue (text : Text) :
    ∃ taken left, text = taken ++ left ∧
      gather (Nat.pow 2 64 - 1) 0 text = ((wordValue taken).toNat, left) ∧
        ∀ part, part <+: taken → (wordValue part).toNat = digitsValue part := by
  obtain ⟨taken, left, split, read, within, -⟩ :=
    exists_gather_eq (Nat.zero_le (Nat.pow 2 64 - 1)) text
  have counted : ∀ part, part <+: taken → (wordValue part).toNat = digitsValue part := by
    rintro part ⟨more, rfl⟩
    have fits : digitsValue part ≤ Nat.pow 2 64 - 1 :=
      Nat.le_trans (ofDigitChars_le_append part more 0) within
    rw [toNat_wordValue]
    exact Nat.mod_eq_of_lt (Nat.lt_of_le_of_lt fits (by decide))
  refine ⟨taken, left, split, ?_, counted⟩
  rw [read, counted taken List.prefix_rfl]
  rfl

theorem digitsValue_natural (n : Nat) : digitsValue (Decimal.natural n) = n :=
  Nat.ofDigitChars_ten_toDigits

theorem isDigit_of_mem_natural {n : Nat} {c : Char} (member : c ∈ Decimal.natural n) :
    c.isDigit = true :=
  Nat.isDigit_of_mem_toDigits (by decide) (by decide) member

/-- Only zero starts with a zero. -/
theorem natural_eq_of_head?_eq {n : Nat} (zero : (Decimal.natural n).head? = some '0') :
    n = 0 := by
  have single : ∀ digit < 10, Nat.digitChar digit = '0' → digit = 0 := by decide
  induction n using Nat.strongRecOn with
  | ind n ih =>
      rw [Decimal.natural, Nat.toDigits_eq_if (by decide)] at zero
      split at zero
      · rename_i below
        exact single n below (Option.some.inj zero)
      · rw [List.head?_append_of_ne_nil _ Nat.toDigits_ne_nil] at zero
        have front := ih (n / 10) (by omega) zero
        omega

theorem exists_natural_eq_cons (n : Nat) :
    ∃ c later, Decimal.natural n = c :: later ∧ c.isDigit = true := by
  obtain ⟨c, later, front⟩ := List.exists_cons_of_ne_nil (Nat.toDigits_ne_nil (b := 10) (n := n))
  have member : c ∈ Decimal.natural n := by
    rw [Decimal.natural, front]
    exact List.mem_cons_self
  exact ⟨c, later, front, isDigit_of_mem_natural member⟩

theorem wholeDigits_natural (n : Nat) : WholeDigits (Decimal.natural n) := by
  refine ⟨⟨Nat.toDigits_ne_nil, fun c => isDigit_of_mem_natural⟩, ?_⟩
  intro zero
  rw [natural_eq_of_head?_eq zero]
  rfl

/-- A text with which a number cannot go on. -/
def EndsNumber (rest : Text) : Prop :=
  ∀ c later, rest = c :: later → c.isDigit = false ∧ c ≠ '.' ∧ c ≠ 'e' ∧ c ≠ 'E'

/-- The digits of a natural number, behind a minus if the number is negative. -/
def literal (negative : Bool) (n : Nat) : Text :=
  (if negative then ['-'] else []) ++ Decimal.natural n

/-- Whether a literal fits 64 bits as an integer.  Zero has no sign. -/
def FitsWord (negative : Bool) (n : Nat) : Prop :=
  if negative then 1 ≤ n ∧ n ≤ Nat.pow 2 63 else n ≤ Nat.pow 2 64 - 1

theorem EndsNumber.digits_eq {rest : Text} (ends : EndsNumber rest) : digits rest = ([], rest) := by
  cases rest with
  | nil => rfl
  | cons c later =>
      have stops := (ends c later rfl).1
      exact digits_cons_of_not (by rw [stops]; exact Bool.false_ne_true) later

theorem wholePart_append {front rest : Text} (written : WholeDigits front)
    (ends : EndsNumber rest) : wholePart (front ++ rest) = .ok (front, rest) := by
  obtain ⟨⟨nonempty, all⟩, alone⟩ := written
  obtain ⟨c, front, rfl⟩ := List.exists_cons_of_ne_nil nonempty
  rw [List.cons_append, wholePart]
  by_cases zero : c = '0'
  · subst zero
    obtain ⟨-, rfl⟩ := List.cons.inj (alone rfl)
    rw [if_pos rfl, List.nil_append, ends.digits_eq, if_pos rfl]
  · have digit : c.isDigit = true := all c List.mem_cons_self
    rw [if_neg zero, if_pos digit, ← List.cons_append, digits_append all, ends.digits_eq,
      List.append_nil]

theorem fractionPart_of_endsNumber {rest : Text} (ends : EndsNumber rest) :
    fractionPart rest = .ok ([], rest) := by
  cases rest with
  | nil => rfl
  | cons c later => rw [fractionPart, if_neg (ends c later rfl).2.1]

theorem exponentPart_of_endsNumber {rest : Text} (ends : EndsNumber rest) :
    exponentPart rest = .ok (none, rest) := by
  cases rest with
  | nil => rfl
  | cons c later =>
      obtain ⟨-, -, small, capital⟩ := ends c later rfl
      rw [exponentPart, if_neg (not_or.2 ⟨small, capital⟩)]

theorem numeral_natural_append (n : Nat) {rest : Text} (ends : EndsNumber rest) :
    numeral (Decimal.natural n ++ rest) = .ok (⟨Decimal.natural n, [], none⟩, rest) := by
  simp only [numeral, wholePart_append (wholeDigits_natural n) ends,
    fractionPart_of_endsNumber ends, exponentPart_of_endsNumber ends]

/-- Digits that fit 64 bits make an integer. -/
theorem found_natural_of_fits {negative : Bool} {n : Nat} (fits : FitsWord negative n) :
    Numeral.found ⟨Decimal.natural n, [], none⟩ negative =
      .ok (.integer (if negative then -(n : Int) else n)) := by
  have inside : n ≤ Nat.pow 2 64 - 1 := by
    cases negative with
    | true => exact Nat.le_trans fits.2 (by decide)
    | false => exact fits
  have read : gather (Nat.pow 2 64 - 1) 0 (Decimal.natural n) = (n, []) := by
    rw [gather_of_le (by rwa [digitsValue_natural]), digitsValue_natural]
  have signed : negative = true → 1 ≤ n ∧ n ≤ Nat.pow 2 63 := by
    rintro rfl
    exact fits
  simp only [Numeral.found, read, true_and, if_pos signed]

/-- Digits that do not fit make a real, or none if that is too large. -/
theorem found_natural_of_not_fits {negative : Bool} {n : Nat} (large : ¬ FitsWord negative n) :
    (∃ x, Numeral.found ⟨Decimal.natural n, [], none⟩ negative = .ok (.real x)) ∨
      Numeral.found ⟨Decimal.natural n, [], none⟩ negative = .error 0 := by
  have spilled : ¬ ((gather (Nat.pow 2 64 - 1) 0 (Decimal.natural n)).2 = [] ∧
      (negative = true → 1 ≤ (gather (Nat.pow 2 64 - 1) 0 (Decimal.natural n)).1 ∧
        (gather (Nat.pow 2 64 - 1) 0 (Decimal.natural n)).1 ≤ Nat.pow 2 63)) := by
    intro h
    rcases h with ⟨all, signed⟩
    have inside : digitsValue (Decimal.natural n) ≤ Nat.pow 2 64 - 1 :=
      Nat.le_of_not_lt fun above => gather_snd_ne_nil above all
    rw [gather_of_le inside, digitsValue_natural] at signed
    rw [digitsValue_natural] at inside
    apply large
    rw [FitsWord]
    split
    · rename_i minus
      exact signed minus
    · exact inside
  simp only [Numeral.found, true_and]
  rw [if_neg spilled]
  generalize scaled? _ _ = product
  cases product with
  | none => exact .inr rfl
  | some x => exact .inl ⟨_, rfl⟩

section Literal

variable {negative : Bool} {n : Nat} {rest : Text}

theorem number_natural_append (negative : Bool) (n : Nat) (ends : EndsNumber rest) :
    number negative (Decimal.natural n ++ rest) =
      weigh negative ⟨Decimal.natural n, [], none⟩ rest := by
  rw [number, numeral_natural_append n ends]
  rfl

/-- What starts a literal starts no word, string, list or object. -/
theorem exists_literal_eq_cons (negative : Bool) (n : Nat) :
    ∃ c later, literal negative n = c :: later ∧ (c = '-' ∨ c.isDigit = true) := by
  cases negative with
  | true => exact ⟨'-', Decimal.natural n, rfl, .inl rfl⟩
  | false =>
      obtain ⟨c, later, front, digit⟩ := exists_natural_eq_cons n
      exact ⟨c, later, front, .inr digit⟩

theorem anything_literal_append (negative : Bool) (n : Nat) (ends : EndsNumber rest) :
    anything (literal negative n ++ rest) =
      weigh negative ⟨Decimal.natural n, [], none⟩ rest := by
  rw [← number_natural_append negative n ends]
  cases negative with
  | true => rfl
  | false =>
      obtain ⟨c, later, front, digit⟩ := exists_natural_eq_cons n
      have other (d : Char) (wordy : d.isDigit = false) : c ≠ d := by
        rintro rfl
        exact Bool.false_ne_true (wordy.symm.trans digit)
      have plain : literal false n = Decimal.natural n := rfl
      rw [plain, front, List.cons_append, anything, if_neg (other 'n' rfl),
        if_neg (other 't' rfl), if_neg (other 'f' rfl), if_neg (other '-' rfl), if_pos digit]

theorem decimal_integer_eq (fits : FitsWord negative n) :
    Decimal.integer (if negative then -(n : Int) else n) = literal negative n := by
  cases negative with
  | false => rfl
  | true =>
      have below : -(n : Int) < 0 := by
        have positive := fits.1
        omega
      simp only [Decimal.integer, if_true, if_pos below, Int.natAbs_neg, Int.natAbs_natCast,
        literal]

theorem message_wrongType (found : Found) (expected : Text) :
    (Fault.wrongType found expected).message =
      "invalid type: ".toList ++ found.describe ++ ", expected ".toList ++ expected :=
  rfl

theorem describe_integer (value : Int) :
    (Found.integer value).describe = "integer ".toList ++ ticked (Decimal.integer value) :=
  rfl

/-- A literal that fits is reported with its digits, at its end. -/
theorem mismatch_of_fits (fits : FitsWord negative n) (expected : Text) (ends : EndsNumber rest) :
    ∃ fault : Fault, mismatch expected (literal negative n ++ rest) = .here fault rest ∧
      fault.message = "invalid type: integer `".toList ++ literal negative n ++
        "`, expected ".toList ++ expected := by
  refine ⟨.wrongType (.integer (if negative then -(n : Int) else n)) expected, ?_, ?_⟩
  · rw [mismatch, anything_literal_append negative n ends, weigh, found_natural_of_fits fits]
  · have opened : "invalid type: integer `".toList =
        "invalid type: ".toList ++ ("integer ".toList ++ ['`']) := by decide
    have closed : "`, expected ".toList = ['`'] ++ ", expected ".toList := by decide
    rw [message_wrongType, describe_integer, decimal_integer_eq fits, opened, closed]
    simp only [ticked, List.append_assoc]

/-- Any other literal is refused at its end too, and not as an integer. -/
theorem mismatch_of_not_fits (large : ¬ FitsWord negative n) (expected : Text)
    (ends : EndsNumber rest) :
    ∃ fault : Fault, mismatch expected (literal negative n ++ rest) = .here fault rest ∧
      ¬ "invalid type: integer".toList <+: fault.message := by
  rw [mismatch, anything_literal_append negative n ends, weigh]
  rcases found_natural_of_not_fits large with ⟨x, found⟩ | found
  · refine ⟨.wrongType (.real x) expected, by rw [found], ?_⟩
    have named : "invalid type: integer".toList = "invalid type: ".toList ++ "integer".toList := by
      decide
    rw [message_wrongType, named, List.append_assoc, List.append_assoc,
      List.prefix_append_right_inj]
    intro same
    exact absurd (List.cons_prefix_cons.1 same).1 (by decide)
  · exact ⟨.numberTooLarge, by rw [found]; rfl, by decide⟩

end Literal

end Json

end SampleLine
