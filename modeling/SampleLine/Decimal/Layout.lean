/-
Writing a binary number as a decimal, as reports of `serde_json` show it: its
shortest digits, laid out with or without an exponent.
-/
import SampleLine.Decimal.Shortest
import SampleLine.Text.Basic

namespace SampleLine

namespace Decimal

/-- How decimals are laid out.  A number whose first digit has an exponent from
`least` to `greatest` is written without one. -/
structure Layout where
  least : Int
  greatest : Int
  mark : Text
  plus : Text
deriving DecidableEq, Repr

def natural (n : Nat) : Text := Nat.toDigits 10 n

def integer (n : Int) : Text :=
  (if n < 0 then ['-'] else []) ++ natural n.natAbs

/-- Digits with a point behind the first `places` of them. -/
def pointed (digits : Text) (places : Nat) : Text :=
  let fraction := digits.drop places
  digits.take places ++ List.replicate (places - digits.length) '0' ++ ['.'] ++
    if fraction = [] then ['0'] else fraction

/-- Digits laid out as a number whose first digit has the given exponent. -/
def Layout.place (layout : Layout) (digits : Text) (exponent : Int) : Text :=
  if layout.least ≤ exponent ∧ exponent ≤ layout.greatest then
    if 0 ≤ exponent then pointed digits (exponent.toNat + 1)
    else ['0', '.'] ++ List.replicate (-exponent - 1).toNat '0' ++ digits
  else
    (if digits.length = 1 then digits else digits.take 1 ++ ['.'] ++ digits.drop 1) ++
      layout.mark ++ (if 0 ≤ exponent then layout.plus else []) ++ integer exponent

/-- A finite binary number, laid out. -/
def Layout.write (layout : Layout) (x : Float) : Text :=
  let bits := x.toBits.toNat
  let fraction := bits % Nat.pow 2 52
  let field := bits / Nat.pow 2 52 % Nat.pow 2 11
  let sign := if bits / Nat.pow 2 63 = 1 then ['-'] else []
  if fraction = 0 ∧ field = 0 then sign ++ pointed ['0'] 1
  else
    let shortest := (Rounding.ofBits fraction field).shortest
    let digits := natural shortest.1
    sign ++ layout.place digits (shortest.2 + digits.length - 1)

example : integer (-120) = ['-', '1', '2', '0'] := by decide

example : pointed ['1', '2'] 1 = ['1', '.', '2'] := by decide

example : pointed ['1', '2'] 4 = ['1', '2', '0', '0', '.', '0'] := by decide

end Decimal

end SampleLine
