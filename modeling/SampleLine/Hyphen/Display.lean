/-
Texts for display and back.  For display every hyphen becomes a non-breaking
one, so that no line breaks inside a switch; read back, both forms of the
non-breaking hyphen become a plain hyphen and line ends become spaces.  `render` is
`to_display`, `plain` is `from_display` and `markCount` is `count_glyphs`.
-/
import SampleLine.Hyphen.Form

namespace SampleLine

namespace Display

/-- A text for display: every hyphen is written as a mark of the given form. -/
def render (form : HyphenForm) (text : Text) : Text :=
  Text.replaceAll ['-'] form.mark text

/-- A displayed text as one plain line, in four passes over the whole text. -/
def plain (text : Text) : Text :=
  let spaced := Text.replaceAll ['\r', '\n'] [' '] text
  let line := Text.replaceAll ['\n'] [' '] spaced
  let entities := Text.replaceAll (HyphenForm.mark .entity) ['-'] line
  Text.replaceAll (HyphenForm.mark .character) ['-'] entities

def markCount (form : HyphenForm) (text : Text) : Nat :=
  Text.countAll form.mark text

/-- A displayed text as one plain line, in a single scan from left to right. -/
def scan : Text → Text
  | [] => []
  | '\r' :: '\n' :: rest => ' ' :: scan rest
  | '\n' :: rest => ' ' :: scan rest
  | '&' :: '#' :: '8' :: '2' :: '0' :: '9' :: ';' :: rest => '-' :: scan rest
  | '\u2011' :: rest => '-' :: scan rest
  | c :: rest => c :: scan rest

theorem render_cons (form : HyphenForm) (c : Char) (rest : Text) :
    render form (c :: rest) =
      (if c = '-' then form.mark else [c]) ++ render form rest := by
  by_cases hyphen : c = '-'
  · subst c
    rfl
  · simp [render, Text.replaceAll, Text.cut, Text.cutFrom, hyphen, Ne.symm hyphen]

/-- Each character is displayed on its own. -/
theorem render_eq_flatMap (form : HyphenForm) (text : Text) :
    render form text = text.flatMap fun c => if c = '-' then form.mark else [c] := by
  induction text with
  | nil => rfl
  | cons c rest ih => rw [render_cons, ih, List.flatMap_cons]

example : render .character ['-', 'a', '-'] = ['\u2011', 'a', '\u2011'] := by decide

example : plain ['\r', '\n', '\r', '&', '#', '8', '2', '0', '9', ';', '\u2011'] =
    [' ', '\r', '-', '-'] := by decide

end Display

end SampleLine
