/-
Texts as lists of characters.  `replaceAll`, `countAll`, `occursIn` and `trim` are
`replace`, `matches`, `contains` and `trim` of strings.  A token is found from left to
right, and the search goes on behind what was found, so two finds never overlap.
Blank are the characters with the Unicode property White_Space.
-/
namespace SampleLine

/-- A text is the list of its characters. -/
abbrev Text := List Char

namespace Text

/-- Cut a text at every find of `token`: a find becomes `none`, and every other character
stands for itself.  `skip` counts the characters of the last find that are still to be
passed over. -/
def cutFrom (token : Text) (skip : Nat) : Text → List (Option Char)
  | [] => []
  | c :: rest =>
      match skip with
      | k + 1 => cutFrom token k rest
      | 0 =>
          if token.isPrefixOf (c :: rest) then none :: cutFrom token (token.length - 1) rest
          else some c :: cutFrom token 0 rest

/-- Cut a text at every find of the non-empty `token`. -/
def cut (token text : Text) : List (Option Char) := cutFrom token 0 text

def replaceAll (token piece text : Text) : Text :=
  (cut token text).flatMap fun part => part.elim piece fun c => [c]

/-- The number of finds of the non-empty `token` in a text. -/
def countAll (token text : Text) : Nat := (cut token text).count none

def occursIn (token : Text) : Text → Bool
  | [] => token.isEmpty
  | c :: rest => token.isPrefixOf (c :: rest) || occursIn token rest

/-- The blank characters as ranges of code points, both ends included. -/
def blankRanges : List (Nat × Nat) :=
  [(0x9, 0xd), (0x20, 0x20), (0x85, 0x85), (0xa0, 0xa0), (0x1680, 0x1680),
   (0x2000, 0x200a), (0x2028, 0x2029), (0x202f, 0x202f), (0x205f, 0x205f),
   (0x3000, 0x3000)]

def isBlank (c : Char) : Bool :=
  blankRanges.any fun range => range.1 ≤ c.toNat && c.toNat ≤ range.2

def trimEnd (text : Text) : Text :=
  (text.reverse.dropWhile isBlank).reverse

/-- Drop the blank characters at both ends of a text. -/
def trim (text : Text) : Text :=
  trimEnd (text.dropWhile isBlank)

@[simp] theorem replaceAll_nil (token piece : Text) : replaceAll token piece [] = [] := rfl

theorem occursIn_iff (token text : Text) :
    occursIn token text = true ↔ token <:+: text := by
  induction text with
  | nil => simp [occursIn]
  | cons c rest ih => simp [occursIn, ih, List.infix_cons_iff]

example : replaceAll ['a', 'a'] ['b'] ['a', 'a', 'a', 'c', 'a', 'a'] =
    ['b', 'a', 'c', 'b'] := by decide

example : countAll ['a', 'a'] ['a', 'a', 'a', 'c', 'a', 'a'] = 2 := by decide

example : (blankRanges.map fun range => range.2 + 1 - range.1).sum = 25 := rfl

example : trim [' ', '\u3000', 'a', ' ', 'b', '\r', '\n'] = ['a', ' ', 'b'] := by
  decide

end Text

end SampleLine
