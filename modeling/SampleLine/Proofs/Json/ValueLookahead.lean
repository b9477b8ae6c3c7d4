/-
How far the readers of values look.  A value of another kind is read to its end
before it is refused, and a list or an object is looked into only to go on with it.
So a whole text is refused alike whatever follows the byte behind the refused place.
-/
import SampleLine.Proofs.Json.Numerals

namespace SampleLine

namespace Json

open Text (Agree Fronts)

theorem wordFound_eq_bind (found : Found) (letters rest : Text) :
    wordFound found letters rest =
      (word letters rest).bind fun rest => .ok (found, rest) := by
  rw [wordFound]
  cases word letters rest <;> rfl

theorem nearsighted_flag {α : Type} (value : α) {letters : Text}
    (narrow : letters.all (·.utf8Size = 1) = true) (text : Text) :
    Nearsighted (fun text => (word letters text).bind fun rest => .ok (value, rest)) text :=
  (nearsighted_word narrow text).bindUnvalued fun rest _ => nearsighted_found value rest

theorem anything_cons (c : Char) (rest : Text) :
    anything (c :: rest) =
      if c = 'n' then wordFound .null "ull".toList rest
      else if c = 't' then wordFound (.boolean true) "rue".toList rest
      else if c = 'f' then wordFound (.boolean false) "alse".toList rest
      else if c = '-' then number true rest
      else if c.isDigit then number false (c :: rest)
      else if c = '"' then (stringBody rest).bind fun (value, rest) => .ok (.text value, rest)
      else if c = '[' then .ok (.list, c :: rest)
      else if c = '{' then .ok (.object, c :: rest)
      else .error (.past .missingValue (c :: rest)) := by
  rw [anything]
  cases stringBody rest <;> rfl

theorem nearsighted_anything (text : Text) : Nearsighted anything text := by
  have spelled (found : Found) (letters : Text) (narrow : letters.all (·.utf8Size = 1) = true)
      (text : Text) : Nearsighted (wordFound found letters) text := by
    simp only [funext (wordFound_eq_bind found letters)]
    exact nearsighted_flag found narrow text
  refine Nearsighted.of_first rfl (fun {left right c rest d rest'} fronts => ?_) text
  rw [anything_cons, anything_cons]
  refine Settled.ite_eq (by decide) fronts
    (fun agree => (spelled _ _ (by decide) rest).settled_cons agree c) ?_
  refine Settled.ite_eq (by decide) fronts
    (fun agree => (spelled _ _ (by decide) rest).settled_cons agree c) ?_
  refine Settled.ite_eq (by decide) fronts
    (fun agree => (spelled _ _ (by decide) rest).settled_cons agree c) ?_
  refine Settled.ite_eq (by decide) fronts
    (fun agree => (nearsighted_number true rest).settled_cons agree c) ?_
  refine Settled.ite (fun _ => utf8Size_of_isDigit) fronts
    (fun _ _ _ => nearsighted_number false (c :: rest) _ _ _ fronts.agree) fun _ _ => ?_
  refine Settled.ite_eq (by decide) fronts (fun agree => ?_) ?_
  · refine ((nearsighted_stringBody rest).settled_cons agree c).bind fun value behind _ => ?_
    exact nearsighted_found (Found.text value) behind
  refine Settled.ite_eq (by decide) fronts (fun _ => settled_found _ fronts.agree) ?_
  exact Settled.ite_eq (by decide) fronts (fun _ => settled_found _ fronts.agree)
    (settled_past _ fronts)

theorem mismatch_eq_bind {α : Type} (expected text : Text) :
    (.error (mismatch expected text) : Reading α) =
      (anything text).bind fun (found, rest) =>
        .error (.here (.wrongType found expected) rest) := by
  rw [mismatch]
  cases anything text <;> rfl

/-- A value of another kind is refused behind what a report names of it. -/
theorem settled_mismatch {α : Type} (expected : Text) {left right : Nat} {c d : Char}
    {rest rest' : Text} (fronts : Fronts left right c rest d rest') :
    Settled left right (Text.byteSize (c :: rest))
      (.error (mismatch expected (c :: rest)) : Reading α)
      (.error (mismatch expected (d :: rest'))) := by
  rw [mismatch_eq_bind, mismatch_eq_bind]
  exact (nearsighted_anything _ _ _ _ fronts.agree).bind fun found rest _ => nearsighted_here _ rest

theorem nearsighted_text (input : Text) : Nearsighted text input := by
  refine Nearsighted.of_skip rfl (fun {left right c rest d rest'} fronts => ?_) input
  exact Settled.ite_eq (by decide) fronts
    (fun agree => (nearsighted_stringBody rest).settled_cons agree c) (settled_mismatch _ fronts)

theorem nearsighted_boolean (input : Text) : Nearsighted boolean input := by
  simp only [funext boolean_eq_bind]
  refine Nearsighted.of_skip rfl (fun {left right c rest d rest'} fronts => ?_) input
  refine Settled.ite_eq (by decide) fronts
    (fun agree => (nearsighted_flag true (by decide) rest).settled_cons agree c) ?_
  exact Settled.ite_eq (by decide) fronts
    (fun agree => (nearsighted_flag false (by decide) rest).settled_cons agree c)
    (settled_mismatch _ fronts)

theorem nearsighted_null (input : Text) :
    Nearsighted (fun input => unvalued (null input)) input := by
  refine Nearsighted.of_skip_then unvalued rfl (fun {left right c rest d rest'} fronts => ?_) input
  simp only [apply_ite unvalued]
  exact Settled.ite_eq (by decide) fronts
    (fun agree => (nearsighted_word (by decide) rest).settled_cons agree c)
    (settled_mismatch _ fronts)

/-- What stands behind a comma is looked at, and is still there for its reader. -/
theorem nearsighted_nextItem (first : Bool) (input : Text) :
    Nearsighted (nextItem first) input := by
  refine Nearsighted.of_skip rfl (fun {left right c rest d rest'} fronts => ?_) input
  refine Settled.ite_eq (by decide) fronts (fun agree => settled_found_cons _ agree c) ?_
  split
  · exact settled_found _ fronts.agree
  · refine Settled.ite_eq (by decide) fronts (fun agree => ?_) (settled_past _ fronts)
    refine (Nearsighted.of_skip rfl (fun behind => ?_) rest).settled_cons agree c
    exact Settled.ite_eq (by decide) behind (fun _ => settled_past _ behind)
      (settled_found _ behind.agree)

theorem nearsighted_lastItem (input : Text) :
    Nearsighted (fun input => unvalued (lastItem input)) input := by
  refine Nearsighted.of_skip_then unvalued rfl (fun {left right c rest d rest'} fronts => ?_) input
  simp only [apply_ite unvalued]
  refine Settled.ite_eq (by decide) fronts (fun agree => settled_found_cons () agree c) ?_
  refine Settled.ite_eq (by decide) fronts (fun agree => ?_) (settled_past _ fronts)
  refine (Nearsighted.of_skip_then unvalued rfl (fun behind => ?_) rest).settled_cons agree c
  simp only [apply_ite unvalued]
  exact Settled.ite_eq (by decide) behind (fun _ => settled_past _ behind) (settled_past _ behind)

theorem nearsighted_nextKey (first : Bool) (input : Text) :
    Nearsighted (nextKey first) input := by
  refine Nearsighted.of_skip rfl (fun {left right c rest d rest'} fronts => ?_) input
  refine Settled.ite_eq (by decide) fronts (fun agree => settled_found_cons _ agree c) ?_
  split
  · exact Settled.ite_eq (by decide) fronts (fun agree => settled_found_cons _ agree c)
      (settled_past _ fronts)
  · refine Settled.ite_eq (by decide) fronts (fun agree => ?_) (settled_past _ fronts)
    refine (Nearsighted.of_skip rfl (fun behind => ?_) rest).settled_cons agree c
    refine Settled.ite_eq (by decide) behind (fun agree => settled_found_cons _ agree _) ?_
    exact Settled.ite_eq (by decide) behind (fun _ => settled_past _ behind)
      (settled_past _ behind)

/-- Nothing but blanks may follow a value. -/
def closing {α : Type} (read : α × Text) : Reading α :=
  match skip read.2 with
  | [] => .ok (read.1, [])
  | c :: rest => .error (.past .trailingText (c :: rest))

theorem nearsighted_closing {α : Type} (value : α) (text : Text) :
    Nearsighted (fun rest => closing (value, rest)) text :=
  Nearsighted.of_skip rfl (fun fronts => settled_past _ fronts) text

theorem whole_eq_error_iff {α : Type} (read : Text → Reading α) (input : Text)
    (diagnosis : Diagnosis) :
    whole read input = .error diagnosis ↔
      ∃ failure, (read input).bind closing = .error failure ∧
        failure.diagnose input = diagnosis := by
  rw [whole]
  cases read input with
  | error failure => simp [Except.bind]
  | ok found =>
      obtain ⟨value, rest⟩ := found
      simp only [Except.bind, closing]
      cases skip rest <;> simp

/-- A text that is not refused for what follows a value is refused by its reader. -/
theorem exists_failure_of_whole {α : Type} {read : Text → Reading α} {input : Text}
    {diagnosis : Diagnosis} (refused : whole read input = .error diagnosis)
    (cause : diagnosis.fault ≠ .trailingText) :
    ∃ failure, read input = .error failure ∧ failure.diagnose input = diagnosis := by
  obtain ⟨failure, failed, rfl⟩ := (whole_eq_error_iff _ _ _).1 refused
  refine ⟨failure, ?_, rfl⟩
  cases found : read input with
  | error first =>
      rw [found] at failed
      exact failed
  | ok result =>
      simp only [found, Except.bind, closing] at failed
      split at failed
      · cases failed
      · cases failed
        exact absurd rfl cause

/-- Bytes that follow move a place: to another line, or else on along its own. -/
theorem behind_append_ne {bytes more : List UInt8} (follows : more ≠ []) :
    Place.behind (bytes ++ more) ≠ Place.behind bytes := by
  intro same
  have lines := congrArg Place.line same
  have columns := congrArg Place.column same
  simp only [Place.behind, List.count_append] at lines
  have plain : ∀ byte ∈ more.reverse, decide (byte ≠ 10) = true := by
    intro byte member
    apply decide_eq_true
    rintro rfl
    have counted := List.count_pos_iff.2 (List.mem_reverse.1 member)
    omega
  have long := List.length_pos_iff.2 follows
  simp only [Place.behind, List.reverse_append, List.takeWhile_append_of_pos plain,
    List.length_append, List.length_reverse] at columns
  omega

/-- A place in a text stands behind one number of its bytes only. -/
theorem behind_take_inj {bytes : List UInt8} {m n : Nat} (hm : m ≤ bytes.length)
    (hn : n ≤ bytes.length) (same : Place.behind (bytes.take m) = Place.behind (bytes.take n)) :
    m = n := by
  have ordered {m n : Nat} (fewer : m < n) (hn : n ≤ bytes.length) :
      Place.behind (bytes.take n) ≠ Place.behind (bytes.take m) := by
    have split : bytes.take n = bytes.take m ++ (bytes.drop m).take (n - m) := by
      rw [← List.take_add, Nat.add_sub_of_le (Nat.le_of_lt fewer)]
    rw [split]
    apply behind_append_ne
    apply List.ne_nil_of_length_pos
    rw [List.length_take, List.length_drop]
    omega
  rcases Nat.lt_trichotomy m n with fewer | same | fewer
  · exact absurd same.symm (ordered fewer hn)
  · exact same
  · exact absurd same (ordered fewer hm)

/-- A failure before the end of a text is kept when more text follows. -/
theorem Nearsighted.append_eq_error {α : Type} {read : Text → Reading α} {text : Text}
    (near : Nearsighted read text) {failure : Failure} (failed : read text = .error failure)
    (inside : 0 < failure.beyond) (more : Text) :
    read (text ++ more) = .error ⟨failure.fault, failure.beyond + Text.byteSize more⟩ := by
  have settled := (near _ _ _ (Agree.append text more)).same
  rw [failed] at settled
  generalize read (text ++ more) = outcome at settled
  cases settled inside with
  | refused same => rw [same, Nat.add_zero]

/-- One byte behind its place a failure is settled: a text with the same bytes so far
fails there too. -/
theorem Nearsighted.exists_failure {α : Type} {read : Text → Reading α} {text other : Text}
    (near : Nearsighted read text) {failure : Failure} (failed : read text = .error failure)
    {offset : Nat} (place : offset + failure.beyond = Text.byteSize text)
    (short : offset < Text.byteSize text)
    (same : (Text.utf8 other).take (offset + 1) = (Text.utf8 text).take (offset + 1)) :
    ∃ failure', read other = .error failure' ∧ failure'.diagnose other = failure.diagnose text := by
  have agree := Text.agree_of_take_eq same
  have counted := agree.byteSize_add
  have settled := (near _ _ other agree).same
  rw [failed] at settled
  have seen : Text.byteSize text - (offset + 1) < failure.beyond := by omega
  generalize again : read other = outcome at settled
  cases settled seen with
  | @refused fault beyond beyond' apart =>
      refine ⟨⟨fault, beyond'⟩, rfl, ?_⟩
      have place : offset + beyond = Text.byteSize text := place
      have front : Text.byteSize text - beyond = offset := by omega
      have front' : Text.byteSize other - beyond' = offset := by omega
      have fewer : min offset (offset + 1) = offset := Nat.min_eq_left (Nat.le_succ offset)
      have bytes : (Text.utf8 other).take offset = (Text.utf8 text).take offset := by
        rw [← fewer, ← List.take_take, same, List.take_take]
      simp only [Failure.diagnose, front, front', bytes]

/-- A text that is refused is refused behind some of its bytes, and every text with the
same bytes and the same next one is refused alike. -/
theorem Nearsighted.whole_eq_error {α : Type} {read : Text → Reading α} {text : Text}
    (near : Nearsighted read text) {diagnosis : Diagnosis}
    (refused : whole read text = .error diagnosis) :
    ∃ offset ≤ Text.byteSize text,
      diagnosis.place = Place.behind ((Text.utf8 text).take offset) ∧
        (offset < Text.byteSize text → ∀ other,
          (Text.utf8 other).take (offset + 1) = (Text.utf8 text).take (offset + 1) →
            whole read other = .error diagnosis) := by
  obtain ⟨failure, failed, rfl⟩ := (whole_eq_error_iff _ _ _).1 refused
  have near : Nearsighted (fun text => (read text).bind closing) text :=
    near.bind fun value rest _ => nearsighted_closing value rest
  have within : failure.beyond ≤ Text.byteSize text := by
    have within := near.within
    simpa only [failed, remaining] using within
  refine ⟨Text.byteSize text - failure.beyond, Nat.sub_le _ _, rfl, ?_⟩
  intro short other same
  obtain ⟨failure', failed', alike⟩ :=
    near.exists_failure failed (Nat.sub_add_cancel within) short same
  exact (whole_eq_error_iff _ _ _).2 ⟨failure', failed', alike⟩

end Json

end SampleLine
