/-
Numbers at the front of a text.  A number ends at the first character that cannot
go on with it, and an exponent that is too large is refused at the digit by which
it is, so what is read is settled one byte further.
-/
import SampleLine.Proofs.Json.Lookahead

namespace SampleLine

namespace Json

open Text (Agree Fronts)

theorem utf8Size_of_isDigit {c : Char} (digit : c.isDigit = true) : c.utf8Size = 1 := by
  rw [Char.utf8Size_eq_one_iff, UInt32.le_iff_toNat_le]
  have bound := (Char.isDigit_iff_toNat.1 digit).2
  exact Nat.le_trans bound (by decide)

theorem digits_append {front : Text} (all : ∀ c ∈ front, c.isDigit = true) (rest : Text) :
    digits (front ++ rest) = (front ++ (digits rest).1, (digits rest).2) := by
  rw [digits, List.takeWhile_append_of_pos all, List.dropWhile_append_of_pos all]
  rfl

theorem digits_cons_fst_eq_nil_iff (c : Char) (rest : Text) :
    (digits (c :: rest)).1 = [] ↔ ¬ c.isDigit = true := by
  by_cases digit : c.isDigit = true <;> simp [digits, digit]

theorem digits_cons_of_not {c : Char} (stops : ¬ c.isDigit = true) (rest : Text) :
    digits (c :: rest) = ([], c :: rest) := by
  rw [digits, List.takeWhile_cons_of_neg stops, List.dropWhile_cons_of_neg stops]

/-- The digits at the front and the rest are the whole text, and the rest starts with
no digit. -/
theorem digits_split {text front behind : Text} (read : digits text = (front, behind)) :
    text = front ++ behind ∧ (∀ c ∈ front, c.isDigit = true) ∧
      ∀ c rest, behind = c :: rest → ¬ c.isDigit = true := by
  obtain ⟨rfl, rfl⟩ := Prod.mk.inj read
  refine ⟨List.takeWhile_append_dropWhile.symm, fun _ => List.mem_takeWhile_imp, ?_⟩
  intro c rest front
  have kept := List.head?_dropWhile_not Char.isDigit text
  rw [front] at kept
  simpa using kept

theorem byteSize_of_isDigit {front : Text} (all : ∀ c ∈ front, c.isDigit = true) :
    Text.byteSize front = front.length :=
  byteSize_eq_length fun c member => utf8Size_of_isDigit (all c member)

theorem byteSize_digits (text : Text) :
    Text.byteSize (digits text).2 + (digits text).1.length = Text.byteSize text := by
  obtain ⟨split, all, -⟩ := digits_split (Prod.eta (digits text)).symm
  rw [← byteSize_of_isDigit all, Nat.add_comm, ← Text.byteSize_append, ← split]

theorem nearsighted_digits (text : Text) : Nearsighted (fun text => .ok (digits text)) text := by
  cases read : digits text with
  | mk front behind =>
      obtain ⟨rfl, all, stops⟩ := digits_split read
      intro left right other agree
      simp only [read]
      refine ⟨by simp [remaining], fun seen => ?_⟩
      obtain ⟨behind', rfl, later⟩ := agree.exists_append (Nat.le_of_lt seen)
      cases behind with
      | nil => cases seen
      | cons c rest =>
          obtain ⟨d, rest', rfl, fronts⟩ := later.exists_fronts seen
          have stops' : ¬ d.isDigit = true := by
            rcases fronts.same_or_wide with ⟨rfl, -⟩ | ⟨-, wide, -⟩
            · exact stops d rest rfl
            · exact fun digit => wide (utf8Size_of_isDigit digit)
          rw [digits_append all, digits_cons_of_not stops', List.append_nil]
          exact .found later

/-- What does not fit is told by the digits through the first that does not. -/
theorem gather_spill {limit n m : Nat} {front unread : Text} {c : Char}
    (spilled : gather limit n front = (m, c :: unread)) :
    ∃ taken, front = taken ++ c :: unread ∧
      ∀ more, gather limit n (taken ++ c :: more) = (m, c :: more) := by
  induction front generalizing n with
  | nil => cases spilled
  | cons d front ih =>
      rw [gather] at spilled
      split at spilled
      · rename_i fits
        obtain ⟨taken, rfl, later⟩ := ih spilled
        refine ⟨d :: taken, rfl, fun more => ?_⟩
        rw [List.cons_append, gather, if_pos fits, later]
      · rename_i spills
        cases spilled
        refine ⟨[], rfl, fun more => ?_⟩
        rw [List.nil_append, gather, if_neg spills]

theorem nearsighted_wholePart (text : Text) : Nearsighted wholePart text := by
  have lone (text : Text) : Nearsighted
      (fun rest => if (digits rest).1 = [] then .ok (['0'], rest)
        else .error (.past .invalidNumber rest)) text := by
    refine Nearsighted.of_first rfl (fun fronts => ?_) text
    simp only [digits_cons_fst_eq_nil_iff, ite_not]
    exact Settled.ite (fun _ => utf8Size_of_isDigit) fronts
      (fun _ _ _ => settled_past _ fronts) (fun _ _ => settled_found _ fronts.agree)
  refine Nearsighted.of_first rfl (fun fronts => ?_) text
  rw [wholePart, wholePart]
  refine Settled.ite_eq (by decide) fronts (fun agree => (lone _).settled_cons agree _) ?_
  exact Settled.ite (fun _ => utf8Size_of_isDigit) fronts
    (fun _ _ _ => nearsighted_digits _ _ _ _ fronts.agree) (fun _ _ => settled_past _ fronts)

theorem nearsighted_fractionDigits (text : Text) : Nearsighted fractionDigits text := by
  refine Nearsighted.of_first rfl (fun fronts => ?_) text
  simp only [fractionDigits, digits_cons_fst_eq_nil_iff, ite_not, reduceCtorEq, if_false]
  exact Settled.ite (fun _ => utf8Size_of_isDigit) fronts
    (fun _ _ _ => nearsighted_digits _ _ _ _ fronts.agree) (fun _ _ => settled_past _ fronts)

theorem nearsighted_fractionPart (text : Text) : Nearsighted fractionPart text := by
  refine Nearsighted.of_first rfl (fun fronts => ?_) text
  rw [fractionPart, fractionPart]
  exact Settled.ite_eq (by decide) fronts
    (fun agree => (nearsighted_fractionDigits _).settled_cons agree _)
    (settled_found [] fronts.agree)

/-- An exponent that does not fit is zero or too large, whatever its later digits. -/
theorem found_of_spill {exponent : Exponent} {size : Nat} {c : Char} {unread : Text}
    (spilled : gather (Nat.pow 2 31 - 1) 0 exponent.digits = (size, c :: unread))
    (whole fraction : Text) (negative : Bool) :
    Numeral.found ⟨whole, fraction, some exponent⟩ negative =
      if (gather (Nat.pow 2 64 - 1) (gather (Nat.pow 2 64 - 1) 0 whole).1 fraction).1 = 0 ∨
          exponent.negative then
        .ok (.real (if negative then -0 else 0))
      else .error unread.length := by
  simp only [Numeral.found, spilled, reduceCtorEq, false_and, and_false, if_false]

/-- A number is too large at its end, or at the digit by which its exponent is. -/
theorem found_eq_error {numeral : Numeral} {negative : Bool} {unread : Nat}
    (refused : numeral.found negative = .error unread) :
    unread = 0 ∨ ∃ exponent size c rest, numeral.exponent = some exponent ∧
      gather (Nat.pow 2 31 - 1) 0 exponent.digits = (size, c :: rest) ∧ unread = rest.length := by
  simp only [Numeral.found] at refused
  split at refused
  · cases refused
  · split at refused
    · split at refused
      · cases refused
      · cases refused
        exact .inl rfl
    · rename_i exponent written
      split at refused
      · split at refused
        · cases refused
        · cases refused
          exact .inl rfl
      · rename_i size c rest spilled
        split at refused
        · cases refused
        · cases refused
          exact .inr ⟨exponent, size, c, rest, written, spilled, rfl⟩

/-- The digits of an exponent behind the one by which it is too large do not count. -/
theorem found_append_of_error {whole fraction : Text} {exponent : Exponent} {negative : Bool}
    {unread : Nat} (inside : unread ≠ 0)
    (refused : Numeral.found ⟨whole, fraction, some exponent⟩ negative = .error unread) :
    ∃ front later, exponent.digits = front ++ later ∧
      ∀ more, Numeral.found ⟨whole, fraction, some ⟨exponent.negative, front ++ more⟩⟩ negative =
        .error more.length := by
  rcases found_eq_error refused with atEnd | ⟨_, size, c, rest, ⟨⟩, spilled, rfl⟩
  · exact absurd atEnd inside
  · rw [found_of_spill spilled] at refused
    have large : ¬ ((gather (Nat.pow 2 64 - 1) (gather (Nat.pow 2 64 - 1) 0 whole).1
        fraction).1 = 0 ∨ exponent.negative = true) := by
      intro small
      rw [if_pos small] at refused
      cases refused
    obtain ⟨taken, split, later⟩ := gather_spill spilled
    refine ⟨taken ++ [c], rest, by simp [split], fun more => ?_⟩
    have spilled' : gather (Nat.pow 2 31 - 1) 0 (taken ++ [c] ++ more) = (size, c :: more) := by
      rw [List.append_assoc, List.singleton_append, later]
    rw [found_of_spill spilled', if_neg large]

/-- Tell what a number is read as, with the text that follows it. -/
def weigh (negative : Bool) (numeral : Numeral) (rest : Text) : Reading Found :=
  match numeral.found negative with
  | .ok found => .ok (found, rest)
  | .error unread => .error ⟨.numberTooLarge, Text.byteSize rest + unread⟩

theorem number_eq_bind (negative : Bool) (text : Text) :
    number negative text =
      (wholePart text).bind fun (whole, rest) =>
        (fractionPart rest).bind fun (fraction, rest) =>
          (exponentPart rest).bind fun (exponent, rest) =>
            weigh negative ⟨whole, fraction, exponent⟩ rest := by
  rw [number, numeral]
  cases wholePart text with
  | error failure => rfl
  | ok read =>
      obtain ⟨whole, rest⟩ := read
      simp only [Except.bind]
      cases fractionPart rest with
      | error failure => rfl
      | ok read =>
          obtain ⟨fraction, rest⟩ := read
          simp only
          cases exponentPart rest <;> rfl

/-- A number that is weighed at its end is settled there. -/
theorem nearsighted_weigh {negative : Bool} {numeral : Numeral}
    (atEnd : ∀ unread, numeral.found negative = .error unread → unread = 0) (text : Text) :
    Nearsighted (weigh negative numeral) text := by
  intro left right other agree
  rw [weigh, weigh]
  cases read : numeral.found negative with
  | ok found => exact settled_found found agree
  | error unread =>
      rw [atEnd unread read]
      exact settled_here .numberTooLarge agree

theorem exponentDigits_cons_bind {α : Type} (shrinks : Bool) (c : Char) (rest : Text)
    (next : Exponent × Text → Reading α) :
    (exponentDigits shrinks (c :: rest)).bind next =
      if c.isDigit then next (⟨shrinks, (digits (c :: rest)).1⟩, (digits (c :: rest)).2)
      else .error (.past .invalidNumber (c :: rest)) := by
  simp only [exponentDigits, digits_cons_fst_eq_nil_iff, ite_not, reduceCtorEq, if_false]
  split <;> rfl

theorem signedExponent_cons_bind {α : Type} (c : Char) (rest : Text)
    (next : Exponent × Text → Reading α) :
    (signedExponent (c :: rest)).bind next =
      if c = '+' then (exponentDigits false rest).bind next
      else if c = '-' then (exponentDigits true rest).bind next
      else (exponentDigits false (c :: rest)).bind next := by
  rw [signedExponent]
  repeat' split
  all_goals rfl

theorem exponentPart_cons_bind {α : Type} (c : Char) (rest : Text)
    (next : Option Exponent × Text → Reading α) :
    (exponentPart (c :: rest)).bind next =
      if c = 'e' ∨ c = 'E' then
        (signedExponent rest).bind fun (exponent, rest) => next (some exponent, rest)
      else next (none, c :: rest) := by
  rw [exponentPart]
  split
  · cases signedExponent rest <;> rfl
  · rfl

section Exponent

variable (negative : Bool) (whole fraction : Text)

/-- Weigh a number behind whose fraction an exponent stands, from its digits on. -/
def weighExponent (shrinks : Bool) (text : Text) : Reading Found :=
  weigh negative ⟨whole, fraction, some ⟨shrinks, (digits text).1⟩⟩ (digits text).2

/-- A number that is refused before its last digit is refused there whatever follows. -/
theorem weighExponent_of_error {shrinks : Bool} {text : Text} {unread : Nat}
    (refused : Numeral.found ⟨whole, fraction, some ⟨shrinks, (digits text).1⟩⟩ negative =
      .error unread) (inside : unread ≠ 0) :
    ∃ front behind, text = front ++ behind ∧ ∀ behind',
      weighExponent negative whole fraction shrinks (front ++ behind') =
        .error ⟨.numberTooLarge, Text.byteSize behind'⟩ := by
  obtain ⟨front, later, written, always⟩ := found_append_of_error inside refused
  have written : (digits text).1 = front ++ later := written
  obtain ⟨split, all, -⟩ := digits_split (Prod.eta (digits text)).symm
  rw [written] at split all
  refine ⟨front, later ++ (digits text).2, split.trans (List.append_assoc _ _ _), ?_⟩
  intro behind'
  have digit : ∀ c ∈ front, c.isDigit = true := fun c member =>
    all c (List.mem_append_left later member)
  rw [weighExponent, digits_append digit]
  simp only [weigh, always, byteSize_digits]

/-- A number with an exponent is settled behind the last digit of it, or behind the
digit by which it is too large. -/
theorem nearsighted_weighExponent (shrinks : Bool) (text : Text) :
    Nearsighted (weighExponent negative whole fraction shrinks) text := by
  intro left right other agree
  by_cases atEnd : ∀ unread, Numeral.found
      ⟨whole, fraction, some ⟨shrinks, (digits text).1⟩⟩ negative = .error unread → unread = 0
  · let next (read : Text × Text) : Reading Found :=
      weigh negative ⟨whole, fraction, some ⟨shrinks, read.1⟩⟩ read.2
    have near : ∀ exponent rest, .ok (digits text) = (.ok (exponent, rest) : Reading Text) →
        Nearsighted (fun rest => next (exponent, rest)) rest := by
      intro exponent rest read
      rw [Except.ok.inj read] at atEnd
      exact nearsighted_weigh atEnd rest
    exact (nearsighted_digits text left right other agree).bind near
  · simp only [not_forall] at atEnd
    obtain ⟨unread, refused, inside⟩ := atEnd
    obtain ⟨front, behind, rfl, always⟩ :=
      weighExponent_of_error negative whole fraction refused inside
    rw [always]
    refine ⟨by simp [remaining], fun seen => ?_⟩
    obtain ⟨behind', rfl, later⟩ := agree.exists_append (Nat.le_of_lt seen)
    rw [always]
    exact .refused later.byteSize_add

theorem nearsighted_exponentDigits (shrinks : Bool) (text : Text) :
    Nearsighted (fun text => (exponentDigits shrinks text).bind fun (exponent, rest) =>
      weigh negative ⟨whole, fraction, some exponent⟩ rest) text := by
  refine Nearsighted.of_first rfl (fun fronts => ?_) text
  rw [exponentDigits_cons_bind, exponentDigits_cons_bind]
  exact Settled.ite (fun _ => utf8Size_of_isDigit) fronts
    (fun _ _ _ => nearsighted_weighExponent negative whole fraction shrinks _ _ _ _ fronts.agree)
    (fun _ _ => settled_past _ fronts)

theorem nearsighted_signedExponent (text : Text) :
    Nearsighted (fun text => (signedExponent text).bind fun (exponent, rest) =>
      weigh negative ⟨whole, fraction, some exponent⟩ rest) text := by
  have near := nearsighted_exponentDigits negative whole fraction
  refine Nearsighted.of_first rfl (fun fronts => ?_) text
  rw [signedExponent_cons_bind, signedExponent_cons_bind]
  refine Settled.ite_eq (by decide) fronts (fun agree => (near false _).settled_cons agree _) ?_
  refine Settled.ite_eq (by decide) fronts (fun agree => (near true _).settled_cons agree _) ?_
  exact near false _ _ _ _ fronts.agree

theorem nearsighted_exponentPart (text : Text) :
    Nearsighted (fun text => (exponentPart text).bind fun (exponent, rest) =>
      weigh negative ⟨whole, fraction, exponent⟩ rest) text := by
  have unwritten : ∀ unread,
      Numeral.found ⟨whole, fraction, none⟩ negative = .error unread → unread = 0 := by
    intro unread refused
    rcases found_eq_error refused with nothing | ⟨_, _, _, _, ⟨⟩, _⟩
    exact nothing
  have near := nearsighted_weigh unwritten
  have narrow : ∀ c, c = 'e' ∨ c = 'E' → c.utf8Size = 1 := by
    rintro c (rfl | rfl) <;> decide
  refine Nearsighted.of_first ?_ (fun fronts => ?_) text
  · exact Nat.le_zero.1 (near []).within
  rw [exponentPart_cons_bind, exponentPart_cons_bind]
  refine Settled.ite narrow fronts (fun _ _ agree => ?_) (fun _ _ => near _ _ _ _ fronts.agree)
  exact (nearsighted_signedExponent negative whole fraction _).settled_cons agree _

end Exponent

theorem nearsighted_number (negative : Bool) (text : Text) :
    Nearsighted (number negative) text := by
  simp only [funext (number_eq_bind negative)]
  refine (nearsighted_wholePart text).bind fun whole rest _ => ?_
  refine (nearsighted_fractionPart rest).bind fun fraction rest _ => ?_
  exact nearsighted_exponentPart negative whole fraction rest

end Json

end SampleLine
