/-
The two ways of writing a non-breaking hyphen into displayed text: `GlyphForm`, of
which `mark` is `as_str`.
-/
import SampleLine.Text.Basic

namespace SampleLine

/-- How a non-breaking hyphen is written: as markup or as the character. -/
inductive HyphenForm where
  | entity
  | character
deriving DecidableEq, Repr

namespace HyphenForm

def default : HyphenForm := .entity

/-- What stands for one hyphen in displayed text. -/
def mark : HyphenForm → Text
  | .entity => ['&', '#', '8', '2', '0', '9', ';']
  | .character => ['\u2011']

def other : HyphenForm → HyphenForm
  | .entity => .character
  | .character => .entity

def name : HyphenForm → Text
  | .entity => ['e', 'n', 't', 'i', 't', 'y']
  | .character => ['c', 'h', 'a', 'r', 'a', 'c', 't', 'e', 'r']

/-- The names of all forms, in the order in which they are listed to a reader. -/
def names : List Text := [name .entity, name .character]

def ofName? (word : Text) : Option HyphenForm :=
  if word = name .entity then some .entity
  else if word = name .character then some .character
  else none

theorem ofName?_eq_some_iff (word : Text) (form : HyphenForm) :
    ofName? word = some form ↔ word = form.name := by
  constructor
  · intro found
    unfold ofName? at found
    split at found
    · cases found
      assumption
    · split at found
      · cases found
        assumption
      · cases found
  · rintro rfl
    cases form <;> decide

end HyphenForm

end SampleLine
