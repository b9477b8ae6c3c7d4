/-
Strings of a JSON text.  Reading accepts exactly the spellings of a string, and
gives the string that is spelled.
-/
import SampleLine.Json.Grammar

namespace SampleLine

namespace Json

theorem hexValue?_lt {c : Char} {n : Nat} (h : hexValue? c = some n) : n < 16 := by
  simp only [hexValue?, Char.le_def, UInt32.le_iff_toNat_le, Char.toNat_val] at h
  have digits : '0'.toNat = 48 ∧ '9'.toNat = 57 := by decide
  have lower : 'a'.toNat = 97 ∧ 'f'.toNat = 102 := by decide
  have upper : 'A'.toNat = 65 ∧ 'F'.toNat = 70 := by decide
  split at h
  · cases h
    omega
  · split at h
    · cases h
      omega
    · split at h
      · cases h
        omega
      · cases h

theorem HexDigits.lt {unit : Nat} {hex : Text} (digits : HexDigits unit hex) :
    unit < 0x10000 := by
  obtain ⟨ha, hb, hc, hd, rfl⟩ := digits
  have ha_lt := hexValue?_lt ha
  have hb_lt := hexValue?_lt hb
  have hc_lt := hexValue?_lt hc
  have hd_lt := hexValue?_lt hd
  omega

theorem hexUnit?_eq_some_iff (a b c d : Char) (unit : Nat) :
    hexUnit? a b c d = some unit ↔ HexDigits unit [a, b, c, d] := by
  constructor
  · intro h
    rw [hexUnit?] at h
    split at h
    · rename_i ha hb hc hd
      cases h
      exact .mk ha hb hc hd (by omega)
    · cases h
  · intro h
    rcases h with ⟨ha, hb, hc, hd, rfl⟩
    simp only [hexUnit?, ha, hb, hc, hd, Option.some.injEq]
    omega

theorem hexUnit_eq_ok_iff (input rest : Text) (unit : Nat) :
    hexUnit input = .ok (unit, rest) ↔ ∃ hex, HexDigits unit hex ∧ input = hex ++ rest := by
  constructor
  · intro h
    unfold hexUnit at h
    split at h
    · rename_i a b c d behind
      split at h
      · rename_i read
        cases h
        exact ⟨[a, b, c, d], (hexUnit?_eq_some_iff a b c d unit).1 read, rfl⟩
      · cases h
    · cases h
  · intro h
    rcases h with ⟨hex, digits, rfl⟩
    obtain ⟨ha, hb, hc, hd, value⟩ := digits
    have read := (hexUnit?_eq_some_iff _ _ _ _ unit).2 (.mk ha hb hc hd value)
    simp only [hexUnit, List.cons_append, List.nil_append, read]

/-- A character that a code unit stands for alone is no half of a pair. -/
theorem toNat_not_half (c : Char) :
    isTrailing c.toNat = false ∧ isLeading c.toNat = false := by
  have valid : c.toNat.isValidChar := c.valid
  simp only [isTrailing, isLeading, decide_eq_false_iff_not]
  omega

/-- A code point that is no half of a pair is that of a character. -/
theorem toNat_ofNat_of_not_half {point : Nat} (point_lt : point < 0x110000)
    (noTrail : isTrailing point = false) (noLead : isLeading point = false) :
    (Char.ofNat point).toNat = point := by
  simp only [isTrailing, isLeading, decide_eq_false_iff_not] at noTrail noLead
  have valid : point.isValidChar := by omega
  rw [Char.ofNat, dif_pos valid]
  rfl

/-- The two halves of a pair make a character beyond the range of one unit. -/
theorem toNat_pairChar {high low : Nat} (high_lt : high < 0x400) (low_lt : low < 0x400) :
    (pairChar (0xd800 + high) (0xdc00 + low)).toNat = 0x10000 + high * 0x400 + low := by
  have sum : 0x10000 + 0x400 * (0xd800 + high - 0xd800) + (0xdc00 + low - 0xdc00) =
      0x10000 + high * 0x400 + low := by omega
  have noTrail : isTrailing (0x10000 + high * 0x400 + low) = false :=
    decide_eq_false (by omega)
  have noLead : isLeading (0x10000 + high * 0x400 + low) = false :=
    decide_eq_false (by omega)
  rw [pairChar, sum]
  exact toNat_ofNat_of_not_half (by omega) noTrail noLead

theorem pairChar_eq_iff {high low : Nat} (high_lt : high < 0x400) (low_lt : low < 0x400)
    (c : Char) :
    pairChar (0xd800 + high) (0xdc00 + low) = c ↔ c.toNat = 0x10000 + high * 0x400 + low := by
  rw [← toNat_pairChar high_lt low_lt, ← Char.toNat_inj, eq_comm]

theorem isLeading_iff (unit : Nat) :
    isLeading unit = true ↔ ∃ high < 0x400, unit = 0xd800 + high := by
  simp only [isLeading, decide_eq_true_eq]
  constructor
  · intro h
    exact ⟨unit - 0xd800, by omega, by omega⟩
  · intro h
    rcases h with ⟨high, high_lt, rfl⟩
    omega

theorem isTrailing_iff (unit : Nat) :
    isTrailing unit = true ↔ ∃ low < 0x400, unit = 0xdc00 + low := by
  simp only [isTrailing, decide_eq_true_eq]
  constructor
  · intro h
    exact ⟨unit - 0xdc00, by omega, by omega⟩
  · intro h
    rcases h with ⟨low, low_lt, rfl⟩
    omega

theorem trailingUnit_eq_ok_iff {high : Nat} (high_lt : high < 0x400) (input rest : Text)
    (c : Char) :
    trailingUnit (0xd800 + high) input = .ok (c, rest) ↔
      ∃ low < 0x400, ∃ hex, HexDigits (0xdc00 + low) hex ∧
        c.toNat = 0x10000 + high * 0x400 + low ∧ input = 'u' :: hex ++ rest := by
  constructor
  · intro h
    unfold trailingUnit at h
    split at h
    · cases h
    · split at h
      · subst_vars
        split at h
        · cases h
        · rename_i trailing behind read
          split at h
          · rename_i trails
            obtain ⟨low, low_lt, rfl⟩ := (isTrailing_iff trailing).1 trails
            obtain ⟨hex, digits, rfl⟩ := (hexUnit_eq_ok_iff _ _ _).1 read
            obtain ⟨rfl, rfl⟩ := Prod.mk.inj (Except.ok.inj h)
            exact ⟨low, low_lt, hex, digits, toNat_pairChar high_lt low_lt, rfl⟩
          · cases h
      · cases h
  · intro h
    rcases h with ⟨low, low_lt, hex, digits, value, rfl⟩
    have read := (hexUnit_eq_ok_iff (hex ++ rest) rest _).2 ⟨hex, digits, rfl⟩
    have trails := (isTrailing_iff (0xdc00 + low)).2 ⟨low, low_lt, rfl⟩
    have pair := (pairChar_eq_iff high_lt low_lt c).2 value
    simp [trailingUnit, read, trails, pair]

theorem trailingHalf_eq_ok_iff {high : Nat} (high_lt : high < 0x400) (input rest : Text)
    (c : Char) :
    trailingHalf (0xd800 + high) input = .ok (c, rest) ↔
      ∃ low < 0x400, ∃ hex, HexDigits (0xdc00 + low) hex ∧
        c.toNat = 0x10000 + high * 0x400 + low ∧ input = '\\' :: 'u' :: hex ++ rest := by
  cases input with
  | nil => simp [trailingHalf]
  | cons first behind =>
      by_cases escaped : first = '\\'
      · rw [trailingHalf, if_pos escaped, trailingUnit_eq_ok_iff high_lt]
        simp only [escaped, List.cons_append, List.cons.injEq, true_and]
      · rw [trailingHalf, if_neg escaped]
        simp [escaped]

theorem codeUnits_unit {c : Char} {hex : Text} (digits : HexDigits c.toNat hex) (rest : Text) :
    codeUnits (hex ++ rest) = .ok (c, rest) := by
  have read := (hexUnit_eq_ok_iff (hex ++ rest) rest c.toNat).2 ⟨hex, digits, rfl⟩
  simp [codeUnits, read, toNat_not_half]

theorem codeUnits_pair {c : Char} {high low : Nat} {first second : Text}
    (leading : HexDigits (0xd800 + high) first) (trailing : HexDigits (0xdc00 + low) second)
    (high_lt : high < 0x400) (low_lt : low < 0x400)
    (same : c.toNat = 0x10000 + high * 0x400 + low) (rest : Text) :
    codeUnits (first ++ '\\' :: 'u' :: second ++ rest) = .ok (c, rest) := by
  have read := (hexUnit_eq_ok_iff (first ++ ('\\' :: 'u' :: second ++ rest)) _ _).2
    ⟨first, leading, rfl⟩
  have leads := (isLeading_iff (0xd800 + high)).2 ⟨high, high_lt, rfl⟩
  have noTrail : isTrailing (0xd800 + high) = false := decide_eq_false (by omega)
  have half := (trailingHalf_eq_ok_iff high_lt ('\\' :: 'u' :: second ++ rest) rest c).2
    ⟨low, low_lt, second, trailing, same, rfl⟩
  rw [List.append_assoc]
  simp only [codeUnits, read, noTrail, leads, half, if_true, Bool.false_eq_true, if_false]

theorem codeUnits_eq_ok_iff (input rest : Text) (c : Char) :
    codeUnits input = .ok (c, rest) ↔
      ∃ units, CharSpelling c ('\\' :: 'u' :: units) ∧ input = units ++ rest := by
  constructor
  · intro h
    rw [codeUnits] at h
    split at h
    · cases h
    · rename_i unit behind read
      obtain ⟨first, digits, rfl⟩ := (hexUnit_eq_ok_iff _ _ _).1 read
      split at h
      · cases h
      · rename_i noTrail
        split at h
        · rename_i leads
          obtain ⟨high, high_lt, rfl⟩ := (isLeading_iff unit).1 leads
          obtain ⟨low, low_lt, second, trailing, value, rfl⟩ :=
            (trailingHalf_eq_ok_iff high_lt _ _ _).1 h
          refine ⟨first ++ '\\' :: 'u' :: second, ?_, by simp⟩
          exact .pair digits trailing high_lt low_lt value
        · rename_i noLead
          cases h
          have value := toNat_ofNat_of_not_half (Nat.lt_trans digits.lt (by decide))
            (by simpa using noTrail) (by simpa using noLead)
          exact ⟨first, .unit (value.symm ▸ digits), rfl⟩
  · intro h
    rcases h with ⟨units, spelled, rfl⟩
    cases spelled with
    | short named => exact absurd named (by simp [shortEscapes])
    | unit digits => exact codeUnits_unit digits rest
    | pair leading trailing high_lt low_lt same =>
        exact codeUnits_pair leading trailing high_lt low_lt same rest

theorem shortEscape?_eq_some_iff (letter c : Char) :
    shortEscape? letter = some c ↔ (letter, c) ∈ shortEscapes := by
  constructor
  · intro h
    obtain ⟨before, behind, split, -⟩ := List.lookup_eq_some_iff.1 h
    rw [split]
    exact List.mem_append_right before List.mem_cons_self
  · intro named
    have inverse : ∀ pair ∈ shortEscapes, shortEscape? pair.1 = some pair.2 := by decide
    exact inverse (letter, c) named

theorem escape_eq_ok_iff (input rest : Text) (c : Char) :
    escape input = .ok (c, rest) ↔
      ∃ text, CharSpelling c ('\\' :: text) ∧ input = text ++ rest := by
  constructor
  · intro h
    unfold escape at h
    split at h
    · cases h
    · split at h
      · subst_vars
        obtain ⟨units, spelled, rfl⟩ := (codeUnits_eq_ok_iff _ _ _).1 h
        exact ⟨'u' :: units, spelled, rfl⟩
      · split at h
        · rename_i named
          cases h
          exact ⟨[_], .short ((shortEscape?_eq_some_iff _ c).1 named), rfl⟩
        · cases h
  · intro h
    rcases h with ⟨text, spelled, rfl⟩
    cases spelled with
    | plain _ _ unescaped => exact absurd rfl unescaped
    | @short letter _ named =>
        have noUnit : letter ≠ 'u' := by
          rintro rfl
          exact absurd named (by simp [shortEscapes])
        simp [escape, noUnit, (shortEscape?_eq_some_iff letter c).2 named]
    | unit digits =>
        have read := codeUnits_unit digits rest
        simpa [escape] using read
    | pair leading trailing high_lt low_lt same =>
        have read := codeUnits_pair leading trailing high_lt low_lt same rest
        simpa [escape] using read

/-- One character of a string is read exactly from its spellings. -/
theorem character_eq_ok_iff {c : Char} (unquoted : c ≠ '"') (input rest : Text) (meant : Char) :
    character c input = .ok (meant, rest) ↔
      ∃ text, CharSpelling meant text ∧ c :: input = text ++ rest := by
  by_cases escaped : c = '\\'
  · subst c
    rw [character, if_pos rfl, escape_eq_ok_iff]
    constructor
    · intro h
      rcases h with ⟨text, spelled, rfl⟩
      exact ⟨'\\' :: text, spelled, rfl⟩
    · intro h
      rcases h with ⟨text, spelled, split⟩
      obtain ⟨d, later, rfl⟩ : ∃ d later, text = d :: later := by
        cases spelled <;> exact ⟨_, _, rfl⟩
      obtain ⟨rfl, rfl⟩ := List.cons.inj split
      exact ⟨later, spelled, rfl⟩
  · rw [character, if_neg escaped]
    constructor
    · intro h
      split at h
      · cases h
      · rename_i visible
        cases h
        exact ⟨[c], .plain (Nat.le_of_not_lt visible) unquoted escaped, rfl⟩
    · intro h
      rcases h with ⟨text, spelled, split⟩
      cases spelled with
      | plain visible _ _ =>
          obtain ⟨rfl, rfl⟩ := List.cons.inj split
          exact if_neg (Nat.not_lt.2 visible)
      | short _ => exact absurd (List.cons.inj split).1 escaped
      | unit _ => exact absurd (List.cons.inj split).1 escaped
      | pair _ _ _ _ _ => exact absurd (List.cons.inj split).1 escaped

theorem CharSpelling.head_ne_quote {c : Char} {text : Text} (spelled : CharSpelling c text) :
    ∃ d later, text = d :: later ∧ d ≠ '"' := by
  cases spelled with
  | plain _ unquoted _ => exact ⟨_, _, rfl, unquoted⟩
  | short _ => exact ⟨_, _, rfl, by decide⟩
  | unit _ => exact ⟨_, _, rfl, by decide⟩
  | pair _ _ _ _ _ => exact ⟨_, _, rfl, by decide⟩

/-- A text that needs no escapes spells itself. -/
theorem spelling_self {text : Text}
    (plain : ∀ c ∈ text, 0x20 ≤ c.toNat ∧ c ≠ '"' ∧ c ≠ '\\') : Spelling text text := by
  induction text with
  | nil => exact .nil
  | cons c text ih =>
      obtain ⟨⟨visible, unquoted, unescaped⟩, later⟩ := List.forall_mem_cons.1 plain
      exact Spelling.cons (.plain visible unquoted unescaped) (ih later)

/-- A string is read exactly from its spellings, up to the closing quote. -/
theorem stringBody_eq_ok_iff (input rest value : Text) :
    stringBody input = .ok (value, rest) ↔
      ∃ body, Spelling value body ∧ input = body ++ '"' :: rest := by
  constructor
  · intro h
    fun_induction stringBody input generalizing value with
    | case1 => cases h
    | case2 behind =>
        cases h
        exact ⟨[], .nil, rfl⟩
    | case3 => cases h
    | case4 => cases h
    | case5 c input unquoted first behind read later tail readLater ih =>
        cases h
        obtain ⟨text, spelled, split⟩ := (character_eq_ok_iff unquoted input behind first).1 read
        obtain ⟨body, spelledLater, rfl⟩ := ih later readLater
        exact ⟨text ++ body, .cons spelled spelledLater, by rw [split, List.append_assoc]⟩
  · intro h
    rcases h with ⟨body, spelled, rfl⟩
    induction spelled with
    | nil => simp [stringBody]
    | @cons c value text body first later ih =>
        obtain ⟨d, behind, rfl, unquoted⟩ := first.head_ne_quote
        have read := (character_eq_ok_iff unquoted (behind ++ (body ++ '"' :: rest)) _ c).2
          ⟨_, first, rfl⟩
        rw [List.append_assoc, List.cons_append, stringBody, if_neg unquoted]
        split
        · rename_i failed
          cases read.symm.trans failed
        · rename_i found
          cases read.symm.trans found
          simp only [ih]

end Json

end SampleLine
