/-
Readers for the values that options consist of.  A value of another kind is
read too, so that the report can name it; a fault inside it comes first.  In what is
looked at first, and where a fault is placed, they follow `serde_json`.
-/
import SampleLine.Json.Numeral

namespace SampleLine

namespace Json

/-- Read a word whose first letter has been passed, for a given value. -/
def wordFound (found : Found) (letters rest : Text) : Reading Found :=
  match word letters rest with
  | .error failure => .error failure
  | .ok rest => .ok (found, rest)

/-- Read what stands at the front of a text, as far as a report names it: a list
or an object is not entered. -/
def anything (text : Text) : Reading Found :=
  match text with
  | [] => .error (.ended .value)
  | c :: rest =>
      if c = 'n' then wordFound .null "ull".toList rest
      else if c = 't' then wordFound (.boolean true) "rue".toList rest
      else if c = 'f' then wordFound (.boolean false) "alse".toList rest
      else if c = '-' then number true rest
      else if c.isDigit then number false (c :: rest)
      else if c = '"' then
        match stringBody rest with
        | .error failure => .error failure
        | .ok (value, rest) => .ok (.text value, rest)
      else if c = '[' then .ok (.list, c :: rest)
      else if c = '{' then .ok (.object, c :: rest)
      else .error (.past .missingValue (c :: rest))

/-- The failure where a value of another kind stands at the front of a text. -/
def mismatch (expected text : Text) : Failure :=
  match anything text with
  | .error failure => failure
  | .ok (found, rest) => .here (.wrongType found expected) rest

def text (input : Text) : Reading Text :=
  match skip input with
  | [] => .error (.ended .value)
  | c :: rest =>
      if c = '"' then stringBody rest
      else .error (mismatch "a string".toList (c :: rest))

def boolean (input : Text) : Reading Bool :=
  match skip input with
  | [] => .error (.ended .value)
  | c :: rest =>
      if c = 't' then
        match word "rue".toList rest with
        | .error failure => .error failure
        | .ok rest => .ok (true, rest)
      else if c = 'f' then
        match word "alse".toList rest with
        | .error failure => .error failure
        | .ok rest => .ok (false, rest)
      else .error (mismatch "a boolean".toList (c :: rest))

def null (input : Text) : Except Failure Text :=
  match skip input with
  | [] => .error (.ended .value)
  | c :: rest =>
      if c = 'n' then word "ull".toList rest
      else .error (mismatch "unit".toList (c :: rest))

/-- Where a list or an object goes on. -/
inductive Next where
  | closed
  | another
deriving DecidableEq, Repr

/-- Read on to the next item of a list: its first one, or one behind a comma. -/
def nextItem (first : Bool) (input : Text) : Reading Next :=
  match skip input with
  | [] => .error (.ended .list)
  | c :: rest =>
      if c = ']' then .ok (.closed, rest)
      else if first then .ok (.another, c :: rest)
      else if c = ',' then
        match skip rest with
        | [] => .error (.ended .value)
        | d :: rest =>
            if d = ']' then .error (.past .trailingComma (d :: rest))
            else .ok (.another, d :: rest)
      else .error (.past .missingListComma (c :: rest))

/-- Read the end of a list that holds all its items. -/
def lastItem (input : Text) : Except Failure Text :=
  match skip input with
  | [] => .error (.ended .list)
  | c :: rest =>
      if c = ']' then .ok rest
      else if c = ',' then
        match skip rest with
        | [] => .error (.past .trailingText [])
        | d :: rest =>
            if d = ']' then .error (.past .trailingComma (d :: rest))
            else .error (.past .trailingText (d :: rest))
      else .error (.past .trailingText (c :: rest))

/-- Read on to the next key of an object and past its opening quote: its first
key, or one behind a comma. -/
def nextKey (first : Bool) (input : Text) : Reading Next :=
  match skip input with
  | [] => .error (.ended .object)
  | c :: rest =>
      if c = '}' then .ok (.closed, rest)
      else if first then
        if c = '"' then .ok (.another, rest) else .error (.past .missingKey (c :: rest))
      else if c = ',' then
        match skip rest with
        | [] => .error (.ended .value)
        | d :: rest =>
            if d = '"' then .ok (.another, rest)
            else if d = '}' then .error (.past .trailingComma (d :: rest))
            else .error (.past .missingKey (d :: rest))
      else .error (.past .missingMemberComma (c :: rest))

/-- Read a whole text: a value with nothing but blanks behind it. -/
def whole {α : Type} (read : Text → Reading α) (input : Text) : Except Diagnosis α :=
  match read input with
  | .error failure => .error (failure.diagnose input)
  | .ok (value, rest) =>
      match skip rest with
      | [] => .ok value
      | c :: rest => .error ((Failure.past .trailingText (c :: rest)).diagnose input)

example : text " \"a\" ".toList = .ok (['a'], [' ']) := by cbv

end Json

end SampleLine
