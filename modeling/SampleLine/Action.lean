/-
What can be done to a display surface, and the names by which it is asked for.
`resolve` is `from_name` of `Trigger`, and `listed` is its `names`.  `content` and
`report` are what `clear` and `show_example` of `DisplayController` write and log.
-/
import SampleLine.Hyphen.Display
import SampleLine.Sample
import SampleLine.Text.Utf8

namespace SampleLine

inductive Action where
  | clear
  | sample
deriving DecidableEq, Repr

inductive NameError where
  | missing
  | unknown (name : Text)
deriving DecidableEq, Repr

namespace NameError

/-- What the user reads about a name that stands for no action. -/
def message : NameError → Text
  | .missing => "no trigger given".toList
  | .unknown name => "Trigger not found: ".toList ++ name

end NameError

namespace Action

/-- The names of an action: first the one that users are told, then the older
name of its handler. -/
def names : Action → List Text
  | .clear => ["clear".toList, "clearTextArea".toList]
  | .sample => ["example".toList, "showExample".toList]

def listed : List Text := ["clear".toList, "example".toList]

/-- The action of a given name.  Blank characters around the name do not count. -/
def resolve (name : Text) : Except NameError Action :=
  let bare := Text.trim name
  if bare ∈ names .clear then .ok .clear
  else if bare ∈ names .sample then .ok .sample
  else if bare = [] then .error .missing
  else .error (.unknown bare)

/-- The whole content of a surface after an action. -/
def content (form : HyphenForm) : Action → Text
  | .clear => []
  | .sample => Display.render form Sample.line

/-- What a verbose panel reports after an action. -/
def report (form : HyphenForm) (action : Action) : Text :=
  match action with
  | .clear => "cleared".toList
  | .sample =>
      "example written (".toList ++
        Nat.toDigits 10 (Text.byteSize (content form action)) ++ " bytes)".toList

example : resolve [' ', 'e', 'x', 'a', 'm', 'p', 'l', 'e', '\n'] = .ok .sample := by rfl

example : report .entity .sample = "example written (541 bytes)".toList := by
  decide +kernel

end Action

end SampleLine
