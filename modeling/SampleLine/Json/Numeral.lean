/-
Numbers in a JSON text, as `serde_json` reads them.  A number without point and
exponent is an integer if it fits 64 bits; any other is a real.  The first nineteen or
twenty digits make the significand, as many as 64 bits hold; a later digit only moves
the point.
-/
import SampleLine.Json.Token

namespace SampleLine

namespace Json

def digitValue (c : Char) : Nat := c.toNat - '0'.toNat

/-- Append digits to a number while it stays within `limit`.  The second part
is the digits that are left from the first that does not fit. -/
def gather (limit n : Nat) : Text → Nat × Text
  | [] => (n, [])
  | c :: rest =>
      if 10 * n + digitValue c ≤ limit then gather limit (10 * n + digitValue c) rest
      else (n, c :: rest)

def digits (text : Text) : Text × Text :=
  (text.takeWhile Char.isDigit, text.dropWhile Char.isDigit)

/-- Read the digits before the point.  None stands behind a leading zero. -/
def wholePart (text : Text) : Reading Text :=
  match text with
  | [] => .error (.ended .value)
  | c :: rest =>
      if c = '0' then
        if (digits rest).1 = [] then .ok (['0'], rest)
        else .error (.past .invalidNumber rest)
      else if c.isDigit then .ok (digits (c :: rest))
      else .error (.past .invalidNumber (c :: rest))

/-- Read the digits behind a point, at least one. -/
def fractionDigits (text : Text) : Reading Text :=
  if (digits text).1 = [] then
    if text = [] then .error (.ended .value) else .error (.past .invalidNumber text)
  else .ok (digits text)

/-- Read a point and its digits, if there is a point. -/
def fractionPart (text : Text) : Reading Text :=
  match text with
  | [] => .ok ([], [])
  | c :: rest => if c = '.' then fractionDigits rest else .ok ([], c :: rest)

structure Exponent where
  negative : Bool
  digits : Text
deriving DecidableEq, Repr

def exponentDigits (negative : Bool) (text : Text) : Reading Exponent :=
  if (digits text).1 = [] then
    if text = [] then .error (.ended .value) else .error (.past .invalidNumber text)
  else .ok (⟨negative, (digits text).1⟩, (digits text).2)

def signedExponent (text : Text) : Reading Exponent :=
  match text with
  | [] => exponentDigits false []
  | c :: rest =>
      if c = '+' then exponentDigits false rest
      else if c = '-' then exponentDigits true rest
      else exponentDigits false (c :: rest)

def exponentPart (text : Text) : Reading (Option Exponent) :=
  match text with
  | [] => .ok (none, [])
  | c :: rest =>
      if c = 'e' ∨ c = 'E' then
        match signedExponent rest with
        | .error failure => .error failure
        | .ok (exponent, rest) => .ok (some exponent, rest)
      else .ok (none, c :: rest)

/-- A number as written, without its sign. -/
structure Numeral where
  whole : Text
  fraction : Text
  exponent : Option Exponent
deriving DecidableEq, Repr

/-- Read a number behind its sign. -/
def numeral (text : Text) : Reading Numeral :=
  match wholePart text with
  | .error failure => .error failure
  | .ok (whole, rest) =>
      match fractionPart rest with
      | .error failure => .error failure
      | .ok (fraction, rest) =>
          match exponentPart rest with
          | .error failure => .error failure
          | .ok (exponent, rest) => .ok (⟨whole, fraction, exponent⟩, rest)

def tenTo (exponent : Nat) : Float := Float.ofScientific 1 false exponent

/-- A real times a power of ten, in one operation wherever that power is a
real.  There is none if the product is too large. -/
def scaled? (x : Float) (exponent : Int) : Option Float :=
  if exponent < -308 then
    if x == 0 then some x else scaled? (x / tenTo 308) (exponent + 308)
  else if exponent < 0 then some (x / tenTo (-exponent).toNat)
  else if 308 < exponent then if x == 0 then some x else none
  else
    let product := x * tenTo exponent.toNat
    if product.isInf then none else some product
termination_by (-exponent).toNat

def Numeral.found (numeral : Numeral) (negative : Bool) : Except Nat Found :=
  let (front, spilled) := gather (Nat.pow 2 64 - 1) 0 numeral.whole
  if spilled = [] ∧ numeral.fraction = [] ∧ numeral.exponent = none ∧
      (negative = true → 1 ≤ front ∧ front ≤ Nat.pow 2 63) then
    .ok (.integer (if negative then -front else front))
  else
    let (significand, dropped) := gather (Nat.pow 2 64 - 1) front numeral.fraction
    let point : Int := spilled.length - (numeral.fraction.length - dropped.length)
    let signed (x : Float) : Found := .real (if negative then -x else x)
    let atExponent (exponent : Int) : Except Nat Found :=
      match scaled? significand.toFloat exponent with
      | some x => .ok (signed x)
      | none => .error 0
    match numeral.exponent with
    | none => atExponent point
    | some exponent =>
        match gather (Nat.pow 2 31 - 1) 0 exponent.digits with
        | (size, []) => atExponent (if exponent.negative then point - size else point + size)
        | (_, _ :: unread) =>
            if significand = 0 ∨ exponent.negative then .ok (signed 0)
            else .error unread.length

/-- Read a number behind its sign, whatever it may be wanted for.  A number
that is too large fails at its last digit, or at the digit by which its
exponent outgrows 31 bits. -/
def number (negative : Bool) (text : Text) : Reading Found :=
  match numeral text with
  | .error failure => .error failure
  | .ok (numeral, rest) =>
      match numeral.found negative with
      | .ok found => .ok (found, rest)
      | .error unread => .error ⟨.numberTooLarge, Text.byteSize rest + unread⟩

example : gather 255 0 "2567".toList = (25, "67".toList) := by decide

example : numeral "12.50e-3,".toList =
    .ok (⟨"12".toList, "50".toList, some ⟨true, ['3']⟩⟩, [',']) := by rfl

end Json

end SampleLine
