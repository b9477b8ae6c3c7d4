/-
A page: elements that hold text, the names under which they are mounted, and the
panels that write them.  An element that is no longer mounted keeps its text, and
a panel keeps its element.  `locate`, `write` and `textOf` are `locate`, `set_content`
and `content` of `DomSurface`, on a page that gives back markup as it was written.
-/
import SampleLine.Action
import SampleLine.Options.Basic
import SampleLine.Registry

namespace SampleLine

/-- An element of a page, numbered in the order in which elements are made. -/
abbrev Element := Nat

/-- A panel: the element it writes and the options it was built with. -/
structure Panel where
  element : Element
  options : Options
deriving DecidableEq, Repr

structure Page where
  /-- Whether there is a window. -/
  window : Bool
  /-- Whether the window shows a document. -/
  document : Bool
  /-- The text of every element made so far. -/
  contents : List Text
  mounted : Registry Element
  panels : Registry Panel
deriving DecidableEq, Repr

inductive LocateError where
  | noDocument
  | notMounted (target : Text)
deriving DecidableEq, Repr

/-- What the user reads when there is no element to write. -/
def LocateError.message : LocateError → Text
  | .noDocument => "no document, not running in a page?".toList
  | .notMounted target => "display surface '".toList ++ target ++ "' not found".toList

namespace Page

def blank (window document : Bool) : Page :=
  ⟨window, document, [], .empty, .empty⟩

def textOf (page : Page) (element : Element) : Text :=
  page.contents.getD element []

/-- Mount a new element under a name, in the place of an older one. -/
def mount (page : Page) (target content : Text) : Page :=
  { page with
    contents := page.contents ++ [content]
    mounted := page.mounted.set target page.contents.length }

def unmount (page : Page) (target : Text) : Page :=
  { page with mounted := page.mounted.erase target }

/-- The element that is mounted under a name. -/
def locate (page : Page) (target : Text) : Except LocateError Element :=
  if page.window ∧ page.document then
    match page.mounted.get? target with
    | some element => .ok element
    | none => .error (.notMounted target)
  else .error .noDocument

def write (page : Page) (element : Element) (content : Text) : Page :=
  { page with contents := page.contents.set element content }

/-- The names under which elements are mounted, with the text of each. -/
def elements (page : Page) : List (Text × Text) :=
  page.mounted.entries.map fun (target, element) => (target, page.textOf element)

end Page

end SampleLine
