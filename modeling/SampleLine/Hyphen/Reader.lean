/-
Reading a hyphen form from a JSON text: its name, or an object whose one key is
the name and whose value is `null`.  These are the rules by which `serde_json` reads
an enumeration without data; `ofJson` is its `from_str` for `GlyphForm`.
-/
import SampleLine.Hyphen.Form
import SampleLine.Json.Reader

namespace SampleLine

namespace HyphenForm

open Json

/-- Read a name behind its opening quote. -/
def readName (input : Text) : Reading HyphenForm :=
  match stringBody input with
  | .error failure => .error failure
  | .ok (name, rest) =>
      match ofName? name with
      | some form => .ok (form, rest)
      | none => .error (.here (.unknownVariant name names) rest)

def readClose (input : Text) : Except Failure Text :=
  match skip input with
  | [] => .error (.ended .object)
  | c :: rest => if c = '}' then .ok rest else .error (.here .missingValue (c :: rest))

/-- Read the one entry of an object and its closing brace, behind the opening
quote of its key. -/
def readEntry (input : Text) : Reading HyphenForm :=
  match readName input with
  | .error failure => .error failure
  | .ok (form, rest) =>
      match colon rest with
      | .error failure => .error failure
      | .ok rest =>
          match null rest with
          | .error failure => .error failure
          | .ok rest =>
              match readClose rest with
              | .error failure => .error failure
              | .ok rest => .ok (form, rest)

/-- Read an object that names a form, behind its opening brace. -/
def readObject (input : Text) : Reading HyphenForm :=
  match skip input with
  | [] => .error (.ended .object)
  | c :: rest =>
      if c = '"' then readEntry rest
      else if c = '}' then .error (.past .missingValue (c :: rest))
      else .error (.past .missingKey (c :: rest))

def read (input : Text) : Reading HyphenForm :=
  match skip input with
  | [] => .error (.ended .value)
  | c :: rest =>
      if c = '"' then readName rest
      else if c = '{' then readObject rest
      else .error (.past .missingValue (c :: rest))

/-- Read a form from a whole text. -/
def ofJson (input : Text) : Except Diagnosis HyphenForm := whole read input

example : ofJson "\"entity\"".toList = .ok .entity := by cbv

example : ofJson "\x7b\"character\": null\x7d".toList = .ok .character := by cbv

end HyphenForm

end SampleLine
