/-
JSON values, and the texts of a value.  A value has many texts: blanks stand around
every token, a character of a string may be spelled as an escape, and a number may
be written with a point or an exponent.
-/
import SampleLine.Json.Numeral

namespace SampleLine

namespace Json

/-- A JSON value.  The entries of an object have distinct keys. -/
inductive Value where
  | null
  | boolean (value : Bool)
  | number (value : Float)
  | text (value : Text)
  | list (items : List Value)
  | object (entries : List (Text × Value))
deriving Inhabited, Repr

def Blank (text : Text) : Prop := ∀ c ∈ text, isSpace c = true

instance (text : Text) : Decidable (Blank text) :=
  decidable_of_iff (text.all isSpace = true) List.all_eq_true

/-- Four hexadecimal digits of either case, and their value. -/
inductive HexDigits : Nat → Text → Prop where
  | mk {a b c d : Char} {p q r s unit : Nat}
      (ha : hexValue? a = some p) (hb : hexValue? b = some q)
      (hc : hexValue? c = some r) (hd : hexValue? d = some s)
      (value : unit = ((p * 16 + q) * 16 + r) * 16 + s) : HexDigits unit [a, b, c, d]

/-- The ways to spell one character of a string. -/
inductive CharSpelling : Char → Text → Prop where
  | plain {c : Char} (visible : 0x20 ≤ c.toNat) (unquoted : c ≠ '"') (unescaped : c ≠ '\\') :
      CharSpelling c [c]
  | short {letter c : Char} (named : (letter, c) ∈ shortEscapes) :
      CharSpelling c ['\\', letter]
  | unit {c : Char} {hex : Text} (digits : HexDigits c.toNat hex) :
      CharSpelling c ('\\' :: 'u' :: hex)
  | pair {c : Char} {high low : Nat} {first second : Text}
      (leading : HexDigits (0xd800 + high) first) (trailing : HexDigits (0xdc00 + low) second)
      (high_lt : high < 0x400) (low_lt : low < 0x400)
      (same : c.toNat = 0x10000 + high * 0x400 + low) :
      CharSpelling c ('\\' :: 'u' :: first ++ '\\' :: 'u' :: second)

/-- The ways to spell a string between its quotes. -/
inductive Spelling : Text → Text → Prop where
  | nil : Spelling [] []
  | cons {c : Char} {value text rest : Text} (first : CharSpelling c text)
      (later : Spelling value rest) : Spelling (c :: value) (text ++ rest)

/-- A run of decimal digits, at least one. -/
def Digits (text : Text) : Prop := text ≠ [] ∧ ∀ c ∈ text, c.isDigit = true

/-- The digits before a point, without a leading zero. -/
def WholeDigits (text : Text) : Prop := Digits text ∧ (text.head? = some '0' → text = ['0'])

def digitsValue (text : Text) : Nat :=
  text.foldl (fun n c => 10 * n + digitValue c) 0

/-- The real nearest to a count of steps of a power of ten. -/
def nearestReal (count : Nat) (exponent : Int) : Float :=
  Float.ofScientific count (exponent < 0) exponent.natAbs

inductive ExponentSign : Int → Text → Prop where
  | absent : ExponentSign 1 []
  | plus : ExponentSign 1 ['+']
  | minus : ExponentSign (-1) ['-']

/-- The ways to write a power of ten behind a number. -/
inductive ExponentForm : Int → Text → Prop where
  | absent : ExponentForm 0 []
  | written {mark : Char} {sign : Int} {signText digits : Text} (marked : mark = 'e' ∨ mark = 'E')
      (signed : ExponentSign sign signText) (hdigits : Digits digits) :
      ExponentForm (sign * digitsValue digits) (mark :: signText ++ digits)

/-- The digits behind a point, with the point. -/
inductive FractionForm : Text → Text → Prop where
  | absent : FractionForm [] []
  | written {digits : Text} (hdigits : Digits digits) : FractionForm digits ('.' :: digits)

/-- The ways to write a number without a sign. -/
inductive NumberForm : Float → Text → Prop where
  | mk {whole fraction fractionText exponentText : Text} {exponent : Int}
      (hwhole : WholeDigits whole) (hfraction : FractionForm fraction fractionText)
      (hexponent : ExponentForm exponent exponentText) :
      NumberForm (nearestReal (digitsValue (whole ++ fraction)) (exponent - fraction.length))
        (whole ++ fractionText ++ exponentText)

mutual

/-- The texts of a value, without blanks around it. -/
inductive Denotes : Value → Text → Prop where
  | nullWord : Denotes .null ['n', 'u', 'l', 'l']
  | trueWord : Denotes (.boolean true) ['t', 'r', 'u', 'e']
  | falseWord : Denotes (.boolean false) ['f', 'a', 'l', 's', 'e']
  | number {x : Float} {text : Text} (written : NumberForm x text) : Denotes (.number x) text
  | negative {x : Float} {text : Text} (written : NumberForm x text) :
      Denotes (.number (-x)) ('-' :: text)
  | text {value body : Text} (spelled : Spelling value body) :
      Denotes (.text value) ('"' :: body ++ ['"'])
  | noItems {blank : Text} (hblank : Blank blank) : Denotes (.list []) ('[' :: blank ++ [']'])
  | list {items : List Value} {body : Text} (written : ItemsForm items body) :
      Denotes (.list items) ('[' :: body ++ [']'])
  | noEntries {blank : Text} (hblank : Blank blank) :
      Denotes (.object []) ('{' :: blank ++ ['}'])
  | object {entries : List (Text × Value)} {body : Text} (written : EntriesForm entries body) :
      Denotes (.object entries) ('{' :: body ++ ['}'])

/-- The texts of the items of a list, at least one, with commas between them. -/
inductive ItemsForm : List Value → Text → Prop where
  | last {value : Value} {before text behind : Text} (hbefore : Blank before)
      (item : Denotes value text) (hbehind : Blank behind) :
      ItemsForm [value] (before ++ text ++ behind)
  | more {value : Value} {values : List Value} {before text behind rest : Text}
      (hbefore : Blank before) (item : Denotes value text) (hbehind : Blank behind)
      (later : ItemsForm values rest) :
      ItemsForm (value :: values) (before ++ text ++ behind ++ ',' :: rest)

/-- The texts of the entries of an object, at least one, with commas between them. -/
inductive EntriesForm : List (Text × Value) → Text → Prop where
  | last {entry : Text × Value} {text : Text} (item : EntryForm entry text) :
      EntriesForm [entry] text
  | more {entry : Text × Value} {entries : List (Text × Value)} {text rest : Text}
      (item : EntryForm entry text) (later : EntriesForm entries rest) :
      EntriesForm (entry :: entries) (text ++ ',' :: rest)

/-- The texts of one entry of an object: its key, a colon and its value. -/
inductive EntryForm : Text × Value → Text → Prop where
  | mk {key body : Text} {value : Value} {before afterKey beforeValue text behind : Text}
      (hbefore : Blank before) (spelled : Spelling key body) (hafterKey : Blank afterKey)
      (hbeforeValue : Blank beforeValue) (item : Denotes value text) (hbehind : Blank behind) :
      EntryForm (key, value)
        (before ++ '"' :: body ++ '"' :: afterKey ++ ':' :: beforeValue ++ text ++ behind)

end

/-- A whole text of a value: blanks may stand around it. -/
def IsTextOf (value : Value) (text : Text) : Prop :=
  ∃ before inner behind, Blank before ∧ Denotes value inner ∧ Blank behind ∧
    text = before ++ inner ++ behind

theorem Blank.nil : Blank [] := fun _ absent => absurd absent List.not_mem_nil

theorem Blank.append {first second : Text} (hfirst : Blank first) (hsecond : Blank second) :
    Blank (first ++ second) := by
  intro c member
  rcases List.mem_append.1 member with inFirst | inSecond
  · exact hfirst c inFirst
  · exact hsecond c inSecond

example : CharSpelling 'a' ['a'] ∧ CharSpelling 'a' ['\\', 'u', '0', '0', '6', '1'] :=
  ⟨.plain (by decide) (by decide) (by decide), .unit (.mk rfl rfl rfl rfl rfl)⟩

end Json

end SampleLine
