/-
Reading the options of a panel from a JSON text: an object of fields in any
order, or a list of values in the order of the fields.  `ofJson`, with `refusal` for
what is reported, is `from_json` of `PanelConfig`.  The rules are those of
`serde_json` for a record in which every field has a default and no other is allowed.
-/
import SampleLine.Hyphen.Reader
import SampleLine.Options.Basic

namespace SampleLine

namespace Options

open Json

def readValue : (field : Field) → Text → Reading field.Value
  | .target => text
  | .form => HyphenForm.read
  | .verbose => boolean

/-- The text behind a refused key: blanks and one closing brace are passed over
before its place is taken. -/
def behindKey (input : Text) : Text :=
  match skip input with
  | [] => []
  | c :: rest => if c = '}' then rest else c :: rest

/-- Read a key behind its opening quote, for a field that is still open. -/
def readKey (draft : Draft) (input : Text) :
    Reading { field : Field // draft.has field = false } :=
  match stringBody input with
  | .error failure => .error failure
  | .ok (key, rest) =>
      match Field.ofName? key with
      | none => .error (.here (.unknownField key Field.names) (behindKey rest))
      | some field =>
          if unset : draft.has field = false then .ok (⟨field, unset⟩, rest)
          else .error (.here (.duplicateField key) (behindKey rest))

/-- Read the entries of an object, behind the opening quote of the first key. -/
def readEntries (draft : Draft) (input : Text) : Reading Draft :=
  match readKey draft input with
  | .error failure => .error failure
  | .ok (⟨field, _⟩, rest) =>
      match colon rest with
      | .error failure => .error failure
      | .ok rest =>
          match readValue field rest with
          | .error failure => .error failure
          | .ok (value, rest) =>
              match nextKey false rest with
              | .error failure => .error failure
              | .ok (.closed, rest) => .ok (draft.put field value, rest)
              | .ok (.another, rest) => readEntries (draft.put field value) rest
termination_by draft.openCount
decreasing_by exact Draft.openCount_put (by assumption) value

/-- Read an object behind its opening brace. -/
def readObject (input : Text) : Reading Draft :=
  match nextKey true input with
  | .error failure => .error failure
  | .ok (.closed, rest) => .ok (.empty, rest)
  | .ok (.another, rest) => readEntries .empty rest

/-- Read the values of the given fields from a list that may end early. -/
def readItems (first : Bool) (draft : Draft) : List Field → Text → Reading Draft
  | [], input =>
      match lastItem input with
      | .error failure => .error failure
      | .ok rest => .ok (draft, rest)
  | field :: fields, input =>
      match nextItem first input with
      | .error failure => .error failure
      | .ok (.closed, rest) => .ok (draft, rest)
      | .ok (.another, rest) =>
          match readValue field rest with
          | .error failure => .error failure
          | .ok (value, rest) => readItems false (draft.put field value) fields rest

/-- What the options are called in a report. -/
def reportedName : Text := "struct PanelConfig".toList

def readDraft (input : Text) : Reading Draft :=
  match skip input with
  | [] => .error (.ended .value)
  | c :: rest =>
      if c = '{' then readObject rest
      else if c = '[' then readItems true .empty Field.all rest
      else .error (mismatch reportedName (c :: rest))

/-- Read options from a whole text. -/
def ofJson (input : Text) : Except Diagnosis Options :=
  match whole readDraft input with
  | .error diagnosis => .error diagnosis
  | .ok draft => .ok draft.complete

/-- What the user reads about options that cannot be read. -/
def refusal (diagnosis : Diagnosis) : Text :=
  "invalid panel options: ".toList ++ diagnosis.message

example : ofJson "[\"a\", \"character\"]".toList =
    .ok { default with target := ['a'], form := .character } := by cbv

example : ofJson "\x7b\"verbose\": true, \"glyph\": \"character\"\x7d".toList =
    .ok { default with form := .character, verbose := true } := by cbv

end Options

end SampleLine
