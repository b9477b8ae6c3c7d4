/-
The smallest readers of a JSON text: blanks, words, colons and commas, and
strings with their escapes.  They take, refuse and count the bytes that `serde_json`
does.
-/
import SampleLine.Json.Fault

namespace SampleLine

namespace Json

/-- The blank characters between tokens. -/
def isSpace (c : Char) : Bool :=
  c = ' ' ∨ c = '\n' ∨ c = '\t' ∨ c = '\r'

def skip (text : Text) : Text := text.dropWhile isSpace

/-- Read the rest of a word. -/
def word : Text → Text → Except Failure Text
  | [], rest => .ok rest
  | _ :: _, [] => .error (.ended .value)
  | letter :: letters, c :: rest =>
      if c = letter then word letters rest else .error (.past .misspeltWord (c :: rest))

def colon (text : Text) : Except Failure Text :=
  match skip text with
  | [] => .error (.ended .object)
  | c :: rest => if c = ':' then .ok rest else .error (.past .missingColon (c :: rest))

def hexValue? (c : Char) : Option Nat :=
  if '0' ≤ c ∧ c ≤ '9' then some (c.toNat - '0'.toNat)
  else if 'a' ≤ c ∧ c ≤ 'f' then some (c.toNat - 'a'.toNat + 10)
  else if 'A' ≤ c ∧ c ≤ 'F' then some (c.toNat - 'A'.toNat + 10)
  else none

def hexUnit? (a b c d : Char) : Option Nat :=
  match hexValue? a, hexValue? b, hexValue? c, hexValue? d with
  | some a, some b, some c, some d => some (4096 * a + 256 * b + 16 * c + d)
  | _, _, _, _ => none

/-- The failure to read four hexadecimal digits: four bytes are taken, or all
that are left. -/
def hexFailure (text : Text) : Failure :=
  if Text.byteSize text < 4 then .ended .text
  else ⟨.invalidEscape, Text.byteSize text - 4⟩

def hexUnit (text : Text) : Reading Nat :=
  match text with
  | a :: b :: c :: d :: rest =>
      match hexUnit? a b c d with
      | some unit => .ok (unit, rest)
      | none => .error (hexFailure text)
  | _ => .error (hexFailure text)

def isLeading (unit : Nat) : Bool := 0xd800 ≤ unit ∧ unit ≤ 0xdbff

def isTrailing (unit : Nat) : Bool := 0xdc00 ≤ unit ∧ unit ≤ 0xdfff

def pairChar (leading trailing : Nat) : Char :=
  Char.ofNat (0x10000 + 0x400 * (leading - 0xd800) + (trailing - 0xdc00))

/-- Read the second half of a pair behind its backslash. -/
def trailingUnit (leading : Nat) (text : Text) : Reading Char :=
  match text with
  | [] => .error (.ended .text)
  | c :: rest =>
      if c = 'u' then
        match hexUnit rest with
        | .error failure => .error failure
        | .ok (trailing, rest) =>
            if isTrailing trailing then .ok (pairChar leading trailing, rest)
            else .error (.here .loneSurrogate rest)
      else .error (.past .unpairedSurrogate (c :: rest))

/-- Read the second half of a pair from its backslash on. -/
def trailingHalf (leading : Nat) (text : Text) : Reading Char :=
  match text with
  | [] => .error (.ended .text)
  | c :: rest =>
      if c = '\\' then trailingUnit leading rest
      else .error (.past .unpairedSurrogate (c :: rest))

/-- Read a code unit, and its second half if it leads a pair. -/
def codeUnits (text : Text) : Reading Char :=
  match hexUnit text with
  | .error failure => .error failure
  | .ok (unit, rest) =>
      if isTrailing unit then .error (.here .loneSurrogate rest)
      else if isLeading unit then trailingHalf unit rest
      else .ok (Char.ofNat unit, rest)

/-- The one-letter escapes with the characters they stand for. -/
def shortEscapes : List (Char × Char) :=
  [('"', '"'), ('\\', '\\'), ('/', '/'), ('b', '\x08'), ('f', '\x0c'), ('n', '\n'),
   ('r', '\r'), ('t', '\t')]

def shortEscape? (letter : Char) : Option Char := shortEscapes.lookup letter

/-- Read an escape behind its backslash. -/
def escape (text : Text) : Reading Char :=
  match text with
  | [] => .error (.ended .text)
  | c :: rest =>
      if c = 'u' then codeUnits rest
      else
        match shortEscape? c with
        | some meant => .ok (meant, rest)
        | none => .error (.past .invalidEscape (c :: rest))

/-- Read one character of a string that starts with `c`. -/
def character (c : Char) (rest : Text) : Reading Char :=
  if c = '\\' then escape rest
  else if c.toNat < 0x20 then .error (.past .controlCharacter (c :: rest))
  else .ok (c, rest)

theorem hexUnit_length {text rest : Text} {unit : Nat} (h : hexUnit text = .ok (unit, rest)) :
    text.length = rest.length + 4 := by
  unfold hexUnit at h
  split at h
  · split at h
    · cases h
      rfl
    · cases h
  · cases h

theorem trailingUnit_length {leading : Nat} {text rest : Text} {c : Char}
    (h : trailingUnit leading text = .ok (c, rest)) : rest.length < text.length := by
  unfold trailingUnit at h
  split at h
  · cases h
  · split at h
    · split at h
      · cases h
      · rename_i read
        split at h
        · obtain ⟨-, rfl⟩ := Prod.mk.inj (Except.ok.inj h)
          have taken := hexUnit_length read
          simp only [List.length_cons]
          omega
        · cases h
    · cases h

theorem trailingHalf_length {leading : Nat} {text rest : Text} {c : Char}
    (h : trailingHalf leading text = .ok (c, rest)) : rest.length < text.length := by
  unfold trailingHalf at h
  split at h
  · cases h
  · split at h
    · have taken := trailingUnit_length h
      simp only [List.length_cons]
      omega
    · cases h

theorem codeUnits_length {text rest : Text} {c : Char}
    (h : codeUnits text = .ok (c, rest)) : rest.length < text.length := by
  unfold codeUnits at h
  split at h
  · cases h
  · rename_i unit after read
    have taken := hexUnit_length read
    split at h
    · cases h
    · split at h
      · have taken := trailingHalf_length h
        omega
      · cases h
        omega

theorem character_length {first : Char} {text rest : Text} {c : Char}
    (h : character first text = .ok (c, rest)) : rest.length ≤ text.length := by
  unfold character at h
  split at h
  · unfold escape at h
    split at h
    · cases h
    · split at h
      · have taken := codeUnits_length h
        simp only [List.length_cons]
        omega
      · split at h
        · cases h
          simp
        · cases h
  · split at h
    · cases h
    · cases h
      exact Nat.le_refl _

/-- Read a string behind its opening quote. -/
def stringBody (text : Text) : Reading Text :=
  match text with
  | [] => .error (.ended .text)
  | c :: rest =>
      if c = '"' then .ok ([], rest)
      else
        match _ : character c rest with
        | .error failure => .error failure
        | .ok (first, rest) =>
            match stringBody rest with
            | .error failure => .error failure
            | .ok (later, rest) => .ok (first :: later, rest)
termination_by text.length
decreasing_by
  exact Nat.lt_succ_of_le (character_length (by assumption))

example : stringBody "a\\u0041\\n\"b".toList =
    .ok (['a', 'A', '\n'], ['b']) := by
  cbv

end Json

end SampleLine
