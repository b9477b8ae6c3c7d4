/-
What can be wrong with a JSON text, and how it is reported: the cause in words
and the place as a line and a column of bytes.  Causes, words and places are those
of `serde_json`.
-/
import SampleLine.Decimal.Layout
import SampleLine.Text.Quoted
import SampleLine.Text.Utf8

namespace SampleLine

namespace Json

/-- What a text that ends too early leaves unfinished. -/
inductive Part where
  | value
  | text
  | list
  | object
deriving DecidableEq, Repr

/-- What stands where a value of another kind is expected. -/
inductive Found where
  | null
  | boolean (value : Bool)
  | integer (value : Int)
  | real (value : Float)
  | text (value : Text)
  | list
  | object
deriving DecidableEq, Repr

inductive Fault where
  | unfinished (part : Part)
  | trailingText
  | trailingComma
  | missingColon
  | missingListComma
  | missingMemberComma
  | missingKey
  | missingValue
  | misspeltWord
  | controlCharacter
  | invalidEscape
  | loneSurrogate
  | unpairedSurrogate
  | invalidNumber
  | numberTooLarge
  | wrongType (found : Found) (expected : Text)
  | unknownVariant (name : Text) (known : List Text)
  | unknownField (name : Text) (known : List Text)
  | duplicateField (name : Text)
deriving DecidableEq, Repr

/-- Reals are reported with their shortest digits, positional up to sixteen
digits before the point and four zeros behind it. -/
def reportedReal : Decimal.Layout := ⟨-5, 15, ['e'], ['+']⟩

def ticked (text : Text) : Text := ['`'] ++ text ++ ['`']

def alternatives (names : List Text) : Text :=
  match names.map ticked with
  | [] => []
  | [only] => only
  | [first, second] => first ++ " or ".toList ++ second
  | several => "one of ".toList ++ List.intercalate ", ".toList several

/-- How a thing is reported that stands where another was expected. -/
def Found.describe : Found → Text
  | .null => "null".toList
  | .boolean value => "boolean ".toList ++ ticked (if value then "true" else "false").toList
  | .integer value => "integer ".toList ++ ticked (Decimal.integer value)
  | .real value => "floating point ".toList ++ ticked (reportedReal.write value)
  | .text value => "string ".toList ++ Text.quoted value
  | .list => "sequence".toList
  | .object => "map".toList

def Part.name : Part → Text
  | .value => "a value".toList
  | .text => "a string".toList
  | .list => "a list".toList
  | .object => "an object".toList

def Fault.message : Fault → Text
  | .unfinished part => "EOF while parsing ".toList ++ part.name
  | .trailingText => "trailing characters".toList
  | .trailingComma => "trailing comma".toList
  | .missingColon => "expected `:`".toList
  | .missingListComma => "expected `,` or `]`".toList
  | .missingMemberComma => "expected `,` or `\x7d`".toList
  | .missingKey => "key must be a string".toList
  | .missingValue => "expected value".toList
  | .misspeltWord => "expected ident".toList
  | .controlCharacter =>
      "control character (\\u0000-\\u001F) found while parsing a string".toList
  | .invalidEscape => "invalid escape".toList
  | .loneSurrogate => "lone leading surrogate in hex escape".toList
  | .unpairedSurrogate => "unexpected end of hex escape".toList
  | .invalidNumber => "invalid number".toList
  | .numberTooLarge => "number out of range".toList
  | .wrongType found expected =>
      "invalid type: ".toList ++ found.describe ++ ", expected ".toList ++ expected
  | .unknownVariant name known =>
      "unknown variant ".toList ++ ticked name ++ ", expected ".toList ++ alternatives known
  | .unknownField name known =>
      "unknown field ".toList ++ ticked name ++ ", expected ".toList ++ alternatives known
  | .duplicateField name => "duplicate field ".toList ++ ticked name

/-- A place in a text: its line, counted from one, and the bytes before it on
that line. -/
structure Place where
  line : Nat
  column : Nat
deriving DecidableEq, Repr

def Place.behind (bytes : List UInt8) : Place :=
  { line := bytes.count 10 + 1
    column := (bytes.reverse.takeWhile (· ≠ 10)).length }

structure Diagnosis where
  fault : Fault
  place : Place
deriving DecidableEq, Repr

def Diagnosis.message (diagnosis : Diagnosis) : Text :=
  diagnosis.fault.message ++ " at line ".toList ++ Decimal.natural diagnosis.place.line ++
    " column ".toList ++ Decimal.natural diagnosis.place.column

/-- A fault met while reading, with the number of bytes that lie beyond it. -/
structure Failure where
  fault : Fault
  beyond : Nat
deriving DecidableEq, Repr

namespace Failure

/-- A fault before `rest`. -/
def here (fault : Fault) (rest : Text) : Failure := ⟨fault, Text.byteSize rest⟩

/-- A fault behind the first byte of `rest`. -/
def past (fault : Fault) (rest : Text) : Failure := ⟨fault, Text.byteSize rest - 1⟩

/-- The end of the text inside a part. -/
def ended (part : Part) : Failure := ⟨.unfinished part, 0⟩

def diagnose (failure : Failure) (text : Text) : Diagnosis :=
  ⟨failure.fault,
    Place.behind ((Text.utf8 text).take (Text.byteSize text - failure.beyond))⟩

end Failure

/-- The outcome of reading at the front of a text: a value and the rest. -/
abbrev Reading (α : Type) := Except Failure (α × Text)

example : Place.behind [97, 10, 10, 98, 99] = ⟨3, 2⟩ := by decide

example : alternatives [['a'], ['b'], ['c']] = "one of `a`, `b`, `c`".toList := by decide

end Json

end SampleLine
