/-
How far readers look.  What a reader makes of a text is settled one byte behind
what it has taken or passed: every text that agrees so far is read alike.
-/
import SampleLine.Proofs.Json.Continuation
import SampleLine.Proofs.Text.Agreement

namespace SampleLine

namespace Json

open Text (Agree Fronts)

/-- The bytes that an outcome leaves: those behind a value, or those beyond a fault. -/
def remaining {α : Type} : Reading α → Nat
  | .ok (_, rest) => Text.byteSize rest
  | .error failure => failure.beyond

/-- The same value with rests that agree, or the same fault as far from the front. -/
inductive SameOutcome {α : Type} (left right : Nat) : Reading α → Reading α → Prop
  | found {value : α} {rest rest' : Text} (agree : Agree left right rest rest') :
      SameOutcome left right (.ok (value, rest)) (.ok (value, rest'))
  | refused {fault : Fault} {beyond beyond' : Nat} (same : beyond + right = beyond' + left) :
      SameOutcome left right (.error ⟨fault, beyond⟩) (.error ⟨fault, beyond'⟩)

/-- An outcome on a text of some bytes, against that on a text which agrees with it on all
but the last `left` of them.  If it leaves one of the bytes that are shared, then the
other one is the same. -/
structure Settled {α : Type} (left right bytes : Nat) (outcome other : Reading α) : Prop where
  within : remaining outcome ≤ bytes
  same : left < remaining outcome → SameOutcome left right outcome other

/-- A reader that looks at most one byte beyond what it takes or passes of a text. -/
def Nearsighted {α : Type} (read : Text → Reading α) (text : Text) : Prop :=
  ∀ left right other, Agree left right text other →
    Settled left right (Text.byteSize text) (read text) (read other)

/-- A reading that gives nothing but the rest of the text. -/
def unvalued (outcome : Except Failure Text) : Reading Unit :=
  outcome.map fun rest => ((), rest)

section Settled

variable {α β : Type} {left right bytes : Nat} {c d : Char} {rest rest' : Text}

theorem Settled.mono {outcome other : Reading α} (settled : Settled left right bytes outcome other)
    {more : Nat} (fewer : bytes ≤ more) : Settled left right more outcome other :=
  ⟨settled.within.trans fewer, settled.same⟩

theorem Nearsighted.within {read : Text → Reading α} {text : Text} (near : Nearsighted read text) :
    remaining (read text) ≤ Text.byteSize text :=
  (near 0 0 text (Agree.refl text)).within

/-- Where nothing is left, no shared byte is left. -/
theorem settled_of_spent {outcome : Reading α} (spent : remaining outcome = 0)
    (other : Reading α) : Settled left right bytes outcome other := by
  refine ⟨by omega, fun seen => ?_⟩
  rw [spent] at seen
  cases seen

theorem settled_found (value : α) (agree : Agree left right rest rest') :
    Settled left right (Text.byteSize rest) (.ok (value, rest)) (.ok (value, rest')) :=
  ⟨Nat.le_refl _, fun _ => .found agree⟩

theorem settled_here (fault : Fault) (agree : Agree left right rest rest') :
    Settled left right (Text.byteSize rest) (.error (.here fault rest) : Reading α)
      (.error (.here fault rest')) :=
  ⟨Nat.le_refl _, fun _ => .refused agree.byteSize_add⟩

theorem nearsighted_found (value : α) (text : Text) :
    Nearsighted (fun rest => .ok (value, rest)) text :=
  fun _ _ _ agree => settled_found value agree

theorem nearsighted_here (fault : Fault) (text : Text) :
    Nearsighted (fun rest => (.error (.here fault rest) : Reading α)) text :=
  fun _ _ _ agree => settled_here fault agree

theorem settled_past (fault : Fault) (fronts : Fronts left right c rest d rest') :
    Settled left right (Text.byteSize (c :: rest))
      (.error (.past fault (c :: rest)) : Reading α) (.error (.past fault (d :: rest'))) := by
  refine ⟨Nat.sub_le _ 1, fun _ => .refused ?_⟩
  have counted := fronts.agree.byteSize_add
  have first := Char.utf8Size_pos c
  have first' := Char.utf8Size_pos d
  simp only [Text.byteSize_cons] at counted ⊢
  omega

theorem settled_found_cons (value : α) (agree : Agree left right rest rest') (c : Char) :
    Settled left right (Text.byteSize (c :: rest)) (.ok (value, rest)) (.ok (value, rest')) :=
  (settled_found value agree).mono (by simp)

/-- What a reader behind the first character settles. -/
theorem Nearsighted.settled_cons {read : Text → Reading α} (near : Nearsighted read rest)
    (agree : Agree left right rest rest') (c : Char) :
    Settled left right (Text.byteSize (c :: rest)) (read rest) (read rest') :=
  (near left right rest' agree).mono (by simp)

/-- Readers that go on one behind the other. -/
theorem Settled.bind {outcome other : Reading α} {next : α × Text → Reading β}
    (first : Settled left right bytes outcome other)
    (later : ∀ found rest, outcome = .ok (found, rest) →
      Nearsighted (fun rest => next (found, rest)) rest) :
    Settled left right bytes (outcome.bind next) (other.bind next) := by
  obtain ⟨within, same⟩ := first
  cases outcome with
  | error failure =>
      refine ⟨within, fun seen => ?_⟩
      cases same seen with
      | refused apart => exact .refused apart
  | ok read =>
      obtain ⟨found, rest⟩ := read
      have near := later found rest rfl
      have within : Text.byteSize rest ≤ bytes := within
      refine ⟨near.within.trans within, fun seen => ?_⟩
      cases same (Nat.lt_of_lt_of_le seen near.within) with
      | @found _ _ rest' agree => exact (near left right rest' agree).same seen

theorem Nearsighted.bind {read : Text → Reading α} {next : α × Text → Reading β} {text : Text}
    (first : Nearsighted read text)
    (later : ∀ found rest, read text = .ok (found, rest) →
      Nearsighted (fun rest => next (found, rest)) rest) :
    Nearsighted (fun text => (read text).bind next) text :=
  fun left right other agree => (first left right other agree).bind later

theorem Settled.bindUnvalued {outcome other : Except Failure Text} {next : Text → Reading β}
    (first : Settled left right bytes (unvalued outcome) (unvalued other))
    (later : ∀ rest, outcome = .ok rest → Nearsighted next rest) :
    Settled left right bytes (outcome.bind next) (other.bind next) := by
  have regroup (result : Except Failure Text) :
      result.bind next = (unvalued result).bind fun (_, rest) => next rest := by
    cases result <;> rfl
  rw [regroup, regroup]
  refine first.bind fun found rest read => ?_
  apply later
  cases outcome with
  | error failure => cases read
  | ok text =>
      cases read
      rfl

theorem Nearsighted.bindUnvalued {read : Text → Except Failure Text} {next : Text → Reading β}
    {text : Text} (first : Nearsighted (fun text => unvalued (read text)) text)
    (later : ∀ rest, read text = .ok rest → Nearsighted next rest) :
    Nearsighted (fun text => (read text).bind next) text :=
  fun left right other agree => (first left right other agree).bindUnvalued later

/-- A test that only characters of one byte can pass is decided by that byte. -/
theorem Settled.ite {P : Char → Prop} [DecidablePred P] {yes no yes' no' : Reading α}
    (narrow : ∀ c, P c → c.utf8Size = 1) (fronts : Fronts left right c rest d rest')
    (passes : P c → d = c → Agree left right rest rest' → Settled left right bytes yes yes')
    (fails : ¬ P c → ¬ P d → Settled left right bytes no no') :
    Settled left right bytes (if P c then yes else no) (if P d then yes' else no') := by
  rcases fronts.same_or_wide with ⟨same, agree⟩ | ⟨wide, wide', -⟩
  · by_cases test : P c
    · rw [if_pos test, if_pos (same ▸ test)]
      exact passes test same agree
    · rw [if_neg test, if_neg (same ▸ test)]
      exact fails test (same ▸ test)
  · have test : ¬ P c := fun passed => wide (narrow c passed)
    have test' : ¬ P d := fun passed => wide' (narrow d passed)
    rw [if_neg test, if_neg test']
    exact fails test test'

/-- A test for one character of one byte. -/
theorem Settled.ite_eq {x : Char} {yes no yes' no' : Reading α} (narrow : x.utf8Size = 1)
    (fronts : Fronts left right c rest d rest')
    (passes : Agree left right rest rest' → Settled left right bytes yes yes')
    (fails : Settled left right bytes no no') :
    Settled left right bytes (if c = x then yes else no) (if d = x then yes' else no') := by
  have narrow' : ∀ e, e = x → e.utf8Size = 1 := by
    rintro e rfl
    exact narrow
  exact Settled.ite narrow' fronts (fun _ _ agree => passes agree) (fun _ _ => fails)

theorem Nearsighted.of_spent {read : Text → Reading α} {text : Text}
    (spent : remaining (read text) = 0) : Nearsighted read text :=
  fun _ _ _ _ => settled_of_spent spent _

/-- A reader that turns to the first character. -/
theorem Nearsighted.of_cons {read : Text → Reading α}
    (step : ∀ {left right d rest'}, Fronts left right c rest d rest' →
      Settled left right (Text.byteSize (c :: rest)) (read (c :: rest)) (read (d :: rest'))) :
    Nearsighted read (c :: rest) := by
  intro left right other agree
  have within := (step (Fronts.refl c rest)).within
  refine ⟨within, fun seen => ?_⟩
  obtain ⟨d, rest', rfl, fronts⟩ := agree.exists_fronts (Nat.lt_of_lt_of_le seen within)
  exact (step fronts).same seen

/-- A reader that ends where the text does, and else turns to the first character. -/
theorem Nearsighted.of_first {read : Text → Reading α} (spent : remaining (read []) = 0)
    (step : ∀ {left right c rest d rest'}, Fronts left right c rest d rest' →
      Settled left right (Text.byteSize (c :: rest)) (read (c :: rest)) (read (d :: rest')))
    (text : Text) : Nearsighted read text := by
  cases text with
  | nil => exact Nearsighted.of_spent spent
  | cons c rest => exact Nearsighted.of_cons step

theorem utf8Size_of_isSpace {c : Char} (space : isSpace c = true) : c.utf8Size = 1 := by
  simp only [isSpace, decide_eq_true_eq] at space
  rcases space with rfl | rfl | rfl | rfl <;> decide

theorem not_isSpace_of_fronts (fronts : Fronts left right c rest d rest')
    (solid : isSpace c = false) : isSpace d = false := by
  rcases fronts.same_or_wide with ⟨rfl, -⟩ | ⟨-, wide, -⟩
  · exact solid
  · exact Bool.eq_false_iff.2 fun space => wide (utf8Size_of_isSpace space)

/-- A reader that passes blanks, ends where nothing is behind them, and else turns to
the first character that is no blank.  What it finds is handed on. -/
theorem Nearsighted.of_skip_then (finish : β → Reading α) {ended : β} {next : Char → Text → β}
    (spent : remaining (finish ended) = 0)
    (step : ∀ {left right c rest d rest'}, Fronts left right c rest d rest' →
      Settled left right (Text.byteSize (c :: rest)) (finish (next c rest))
        (finish (next d rest')))
    (text : Text) :
    Nearsighted (fun text => finish (match skip text with
      | [] => ended
      | c :: rest => next c rest)) text := by
  intro left right other agree
  cases front : skip text with
  | nil =>
      simp only [front]
      exact settled_of_spent spent _
  | cons c rest =>
      obtain ⟨solid, blank, hblank, rfl⟩ := (skip_eq_cons_iff _ _ _).1 front
      simp only [front]
      have within := (step (Fronts.refl c rest)).within
      refine ⟨within.trans (by simp), fun seen => ?_⟩
      have shared := Nat.lt_of_lt_of_le seen within
      obtain ⟨behind, rfl, behindAgree⟩ := agree.exists_append (Nat.le_of_lt shared)
      obtain ⟨d, rest', rfl, fronts⟩ := behindAgree.exists_fronts shared
      have front' : skip (blank ++ d :: rest') = d :: rest' :=
        (skip_eq_cons_iff _ _ _).2 ⟨not_isSpace_of_fronts fronts solid, blank, hblank, rfl⟩
      simp only [front']
      exact (step fronts).same seen

theorem Nearsighted.of_skip {ended : Reading α} {next : Char → Text → Reading α}
    (spent : remaining ended = 0)
    (step : ∀ {left right c rest d rest'}, Fronts left right c rest d rest' →
      Settled left right (Text.byteSize (c :: rest)) (next c rest) (next d rest'))
    (text : Text) :
    Nearsighted (fun text => match skip text with
      | [] => ended
      | c :: rest => next c rest) text :=
  Nearsighted.of_skip_then id spent step text

end Settled

theorem nearsighted_word {letters : Text} (narrow : letters.all (·.utf8Size = 1) = true)
    (text : Text) : Nearsighted (fun text => unvalued (word letters text)) text := by
  induction letters generalizing text with
  | nil =>
      intro left right other agree
      exact settled_found () agree
  | cons letter letters ih =>
      simp only [List.all_cons, Bool.and_eq_true, decide_eq_true_eq] at narrow
      obtain ⟨first, later⟩ := narrow
      refine Nearsighted.of_first rfl (fun fronts => ?_) text
      simp only [word, apply_ite unvalued]
      exact Settled.ite_eq first fronts (fun agree => (ih later _).settled_cons agree _)
        (settled_past _ fronts)

theorem nearsighted_colon (text : Text) : Nearsighted (fun text => unvalued (colon text)) text := by
  refine Nearsighted.of_skip_then unvalued rfl (fun fronts => ?_) text
  simp only [apply_ite unvalued]
  exact Settled.ite_eq (by decide) fronts (fun agree => settled_found_cons () agree _)
    (settled_past _ fronts)

/-- Four bytes are looked at.  Digits of which all are shared are read in both texts. -/
theorem nearsighted_hexUnit (text : Text) : Nearsighted hexUnit text := by
  intro left right other agree
  have counted := agree.byteSize_add
  cases read : hexUnit text with
  | ok found =>
      obtain ⟨unit, rest⟩ := found
      obtain ⟨hex, digits, rfl⟩ := (hexUnit_eq_ok_iff _ _ _).1 read
      refine ⟨by simp [remaining], fun seen => ?_⟩
      obtain ⟨rest', rfl, behind⟩ := agree.exists_append (Nat.le_of_lt seen)
      rw [(hexUnit_eq_ok_iff _ rest' unit).2 ⟨hex, digits, rfl⟩]
      exact .found behind
  | error failure =>
      rw [eq_hexFailure_of_hexUnit read, hexFailure]
      split
      · exact settled_of_spent rfl _
      · refine ⟨Nat.sub_le _ 4, fun seen => ?_⟩
        have seen : left < Text.byteSize text - 4 := seen
        cases read' : hexUnit other with
        | ok found =>
            obtain ⟨unit, rest'⟩ := found
            obtain ⟨hex, digits, rfl⟩ := (hexUnit_eq_ok_iff _ _ _).1 read'
            have four : Text.byteSize hex = 4 := by
              rw [byteSize_eq_length digits.length_eq.2, digits.length_eq.1]
            rw [Text.byteSize_append, four] at counted
            obtain ⟨rest, rfl, -⟩ := agree.symm.exists_append (by omega)
            rw [(hexUnit_eq_ok_iff _ rest unit).2 ⟨hex, digits, rfl⟩] at read
            cases read
        | error failure' =>
            rw [eq_hexFailure_of_hexUnit read', hexFailure, if_neg (by omega)]
            exact .refused (by omega)

theorem nearsighted_trailingUnit (leading : Nat) (text : Text) :
    Nearsighted (trailingUnit leading) text := by
  refine Nearsighted.of_first rfl (fun fronts => ?_) text
  rw [trailingUnit_cons, trailingUnit_cons]
  refine Settled.ite_eq (by decide) fronts (fun agree => ?_) (settled_past _ fronts)
  refine ((nearsighted_hexUnit _).settled_cons agree _).bind fun trailing rest _ => ?_
  by_cases trails : isTrailing trailing = true
  · simp only [trails, if_true]
    exact nearsighted_found _ rest
  · simp only [trails]
    exact nearsighted_here _ rest

theorem nearsighted_trailingHalf (leading : Nat) (text : Text) :
    Nearsighted (trailingHalf leading) text := by
  refine Nearsighted.of_first rfl (fun fronts => ?_) text
  rw [trailingHalf, trailingHalf]
  exact Settled.ite_eq (by decide) fronts
    (fun agree => (nearsighted_trailingUnit leading _).settled_cons agree _)
    (settled_past _ fronts)

theorem nearsighted_codeUnits (text : Text) : Nearsighted codeUnits text := by
  simp only [funext codeUnits_eq_bind]
  refine (nearsighted_hexUnit text).bind fun unit rest _ => ?_
  by_cases trails : isTrailing unit = true
  · simp only [trails, if_true]
    exact nearsighted_here _ rest
  · by_cases leads : isLeading unit = true
    · simp only [trails, leads, if_true]
      exact nearsighted_trailingHalf unit rest
    · simp only [trails, leads]
      exact nearsighted_found _ rest

theorem utf8Size_of_shortEscape? {letter c : Char} (named : shortEscape? letter = some c) :
    letter.utf8Size = 1 := by
  have narrow : ∀ entry ∈ shortEscapes, entry.1.utf8Size = 1 := by decide
  exact narrow _ ((shortEscape?_eq_some_iff letter c).1 named)

theorem nearsighted_escape (text : Text) : Nearsighted escape text := by
  refine Nearsighted.of_first rfl (fun {left right c rest d rest'} fronts => ?_) text
  rw [escape, escape]
  refine Settled.ite_eq (by decide) fronts
    (fun agree => (nearsighted_codeUnits rest).settled_cons agree c) ?_
  rcases fronts.same_or_wide with ⟨rfl, agree⟩ | ⟨wide, wide', -⟩
  · split
    · exact settled_found_cons _ agree d
    · exact settled_past _ fronts
  · have unnamed (e : Char) (wide : e.utf8Size ≠ 1) : shortEscape? e = none :=
      Option.eq_none_iff_forall_ne_some.2 fun _ named => wide (utf8Size_of_shortEscape? named)
    simp only [unnamed c wide, unnamed d wide']
    exact settled_past _ fronts

theorem utf8Size_of_control {c : Char} (control : c.toNat < 0x20) : c.utf8Size = 1 := by
  rw [Char.utf8Size_eq_one_iff, UInt32.le_iff_toNat_le]
  exact Nat.le_of_lt (Nat.lt_of_lt_of_le control (by decide))

/-- A character that is more than one byte long is kept whole, so that nothing which is
left of it is shared where only its front is. -/
theorem settled_character {left right : Nat} {c d : Char} {rest rest' : Text}
    (fronts : Fronts left right c rest d rest') :
    Settled left right (Text.byteSize (c :: rest)) (character c rest) (character d rest') := by
  rw [character, character]
  refine Settled.ite_eq (by decide) fronts
    (fun agree => (nearsighted_escape rest).settled_cons agree c) ?_
  refine Settled.ite (fun _ => utf8Size_of_control) fronts (fun _ _ _ => ?_) (fun _ _ => ?_)
  · exact settled_past _ fronts
  · rcases fronts.same_or_wide with ⟨rfl, agree⟩ | ⟨-, -, beyond⟩
    · exact settled_found_cons _ agree d
    · refine ⟨?_, fun seen => ?_⟩
      · simp [remaining]
      · exact absurd seen (Nat.lt_asymm beyond)

theorem nearsighted_stringBody (text : Text) : Nearsighted stringBody text := by
  induction hlength : text.length using Nat.strongRecOn generalizing text with
  | ind n ih =>
      cases text with
      | nil =>
          apply Nearsighted.of_spent
          rw [stringBody]
          rfl
      | cons c rest =>
          refine Nearsighted.of_cons fun fronts => ?_
          rw [stringBody_cons, stringBody_cons]
          refine Settled.ite_eq (by decide) fronts
            (fun agree => settled_found_cons _ agree c) ?_
          refine (settled_character fronts).bind fun first behind read => ?_
          have shorter : behind.length < n := by
            rw [← hlength, List.length_cons]
            exact Nat.lt_succ_of_le (character_length read)
          refine (ih behind.length shorter behind rfl).bind fun later final _ => ?_
          exact nearsighted_found (first :: later) final

end Json

end SampleLine
