/-
The options of a panel as a page script supplies them: not at all, or as a value of
the same shape as written options.  `Supplied.options?` is the decoding with which
`new` of `ExamplePanel` begins.  It is taken that `serde_wasm_bindgen` decodes a value
as written options of that value are decoded.  This is an assumption, above all for
properties that name no field, which are refused, and for lists, which give the
fields in their order.
-/
import SampleLine.Json.Grammar
import SampleLine.Options.Basic

namespace SampleLine

/-- The hyphen form that a value stands for: its name, or an object whose one
key is the name and whose value is null. -/
def HyphenForm.ofValue? : Json.Value → Option HyphenForm
  | .text name => ofName? name
  | .object [(name, .null)] => ofName? name
  | _ => none

namespace Options

def Field.ofValue? : (field : Field) → Json.Value → Option field.Value
  | .target, .text word => some word
  | .form, value => HyphenForm.ofValue? value
  | .verbose, .boolean flag => some flag
  | _, _ => none

/-- Fill in the entries of an object.  Each must be for a field that is open. -/
def Draft.ofEntries? (draft : Draft) : List (Text × Json.Value) → Option Draft
  | [] => some draft
  | (key, value) :: entries =>
      match Field.ofName? key with
      | none => none
      | some field =>
          if draft.has field then none
          else
            match field.ofValue? value with
            | none => none
            | some value => (draft.put field value).ofEntries? entries

/-- Fill in the items of a list, in the order of the given fields. -/
def Draft.ofItems? (draft : Draft) : List Field → List Json.Value → Option Draft
  | _, [] => some draft
  | [], _ :: _ => none
  | field :: fields, value :: values =>
      match field.ofValue? value with
      | none => none
      | some value => (draft.put field value).ofItems? fields values

/-- The options that a value stands for, by the rules for written options. -/
def ofValue? : Json.Value → Option Options
  | .object entries => (Draft.empty.ofEntries? entries).map Draft.complete
  | .list items => (Draft.empty.ofItems? Field.all items).map Draft.complete
  | _ => none

/-- What a page script supplies as options. -/
inductive Supplied where
  | absent
  | undefined
  | given (value : Json.Value)
deriving Repr

/-- The options that are supplied.  Nothing and null stand for the default. -/
def Supplied.options? : Supplied → Option Options
  | .absent => some default
  | .undefined => some default
  | .given .null => some default
  | .given value => ofValue? value

example : Supplied.options? (.given (.object [(Field.name .verbose, .boolean true)])) =
    some { default with verbose := true } := by decide

end Options

end SampleLine
