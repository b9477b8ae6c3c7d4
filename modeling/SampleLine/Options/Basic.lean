/-
The options of a panel, which are `PanelConfig`, the fields they are written with,
and drafts in which some fields are still open.
-/
import SampleLine.Hyphen.Form

namespace SampleLine

/-- What a panel is built with. -/
structure Options where
  /-- The name of the element that the panel writes. -/
  target : Text
  form : HyphenForm
  /-- Whether the panel reports what it does. -/
  verbose : Bool
deriving DecidableEq, Repr

namespace Options

/-- The name of the element that is written where none is asked for. -/
def defaultTarget : Text := "form_ta".toList

def default : Options := ⟨defaultTarget, HyphenForm.default, false⟩

inductive Field where
  | target
  | form
  | verbose
deriving DecidableEq, Repr

namespace Field

/-- All fields in the order in which a list of values gives them. -/
def all : List Field := [.target, .form, .verbose]

def name : Field → Text
  | .target => ['t', 'a', 'r', 'g', 'e', 't', '_', 'i', 'd']
  | .form => ['g', 'l', 'y', 'p', 'h']
  | .verbose => ['v', 'e', 'r', 'b', 'o', 's', 'e']

def names : List Text := all.map name

def ofName? (key : Text) : Option Field :=
  all.find? fun field => field.name = key

abbrev Value : Field → Type
  | .target => Text
  | .form => HyphenForm
  | .verbose => Bool

theorem ofName?_eq_some_iff (key : Text) (field : Field) :
    ofName? key = some field ↔ key = field.name := by
  constructor
  · intro found
    have same := List.find?_some found
    exact (of_decide_eq_true same).symm
  · rintro rfl
    cases field <;> decide

end Field

/-- Options of which some fields may still be open. -/
structure Draft where
  target : Option Text
  form : Option HyphenForm
  verbose : Option Bool
deriving DecidableEq, Repr

namespace Draft

def empty : Draft := ⟨none, none, none⟩

def has (draft : Draft) : Field → Bool
  | .target => draft.target.isSome
  | .form => draft.form.isSome
  | .verbose => draft.verbose.isSome

def openCount (draft : Draft) : Nat :=
  (Field.all.filter fun field => !draft.has field).length

def put (draft : Draft) (field : Field) (value : field.Value) : Draft :=
  match field, value with
  | .target, target => { draft with target := some target }
  | .form, form => { draft with form := some form }
  | .verbose, verbose => { draft with verbose := some verbose }

@[simp] theorem has_empty (field : Field) : empty.has field = false := by
  cases field <;> rfl

theorem has_put (draft : Draft) (field : Field) (value : field.Value) (other : Field) :
    (draft.put field value).has other = (draft.has other || field == other) := by
  cases field <;> cases other <;> simp [put, has]

theorem openCount_put {draft : Draft} {field : Field} (unset : draft.has field = false)
    (value : field.Value) : (draft.put field value).openCount < draft.openCount := by
  obtain ⟨target, form, verbose⟩ := draft
  cases field <;> cases target <;> cases form <;> cases verbose <;>
    simp_all [openCount, Field.all, has, put]

/-- The options of a draft: open fields take their defaults. -/
def complete (draft : Draft) : Options :=
  { target := draft.target.getD Options.default.target
    form := draft.form.getD Options.default.form
    verbose := draft.verbose.getD Options.default.verbose }

end Draft

end Options

end SampleLine
