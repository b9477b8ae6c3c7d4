/-
Reading the front of a text and reading all of it.  A reader that gives a value
gives the same value when more text follows, one that refuses a text refuses every
longer one, and one that misses the end of the text may go on in any way.
-/
import SampleLine.Proofs.Json.Values

namespace SampleLine

namespace Json

/-- What reading the front of a text says about reading all of it.  A value is
kept, with what follows it grown by the rest of the text. -/
inductive Continues {α : Type} (grow : α → α) : Except Failure α → Except Failure α → Prop where
  | value (found : α) : Continues grow (.ok found) (.ok (grow found))
  | ended (part : Part) (whole : Except Failure α) : Continues grow (.error (.ended part)) whole
  | refused (failure later : Failure) : Continues grow (.error failure) (.error later)

/-- Let more text follow what was read. -/
def behind {α : Type} (more : Text) (read : α × Text) : α × Text := (read.1, read.2 ++ more)

theorem Continues.found {α : Type} (value : α) (rest more : Text) :
    Continues (behind more) (.ok (value, rest)) (.ok (value, rest ++ more)) :=
  .value (value, rest)

/-- Readers that go on one behind the other. -/
theorem Continues.bind {α β : Type} {grow : α → α} {growNext : β → β}
    {front whole : Except Failure α} {next : α → Except Failure β}
    (first : Continues grow front whole)
    (later : ∀ found, front = .ok found → Continues growNext (next found) (next (grow found))) :
    Continues growNext (front.bind next) (whole.bind next) := by
  cases first with
  | value found => exact later found rfl
  | ended part whole => exact .ended part _
  | refused failure failure' => exact .refused failure failure'

theorem Continues.eq_ok {α : Type} {grow : α → α} {front whole : Except Failure α} {found : α}
    (continues : Continues grow front whole) (read : front = .ok found) :
    whole = .ok (grow found) := by
  cases continues with
  | value first => rw [Except.ok.inj read]
  | ended part _ => cases read
  | refused failure later => cases read

/-- A value that stands in a text is found in its front, or else the front ended
too early. -/
theorem Continues.of_eq_ok {α : Type} {grow : α → α} {front whole : Except Failure α} {found : α}
    (continues : Continues grow front whole) (read : whole = .ok found) :
    (∃ part, front = .error (.ended part)) ∨ ∃ first, front = .ok first ∧ grow first = found := by
  cases continues with
  | value first => exact .inr ⟨first, rfl, Except.ok.inj read⟩
  | ended part _ => exact .inl ⟨part, rfl⟩
  | refused failure later => cases read

/-- The front of a text is blank, or what stands behind its blanks is all that
stands behind them in the whole text. -/
theorem skip_append_cases (input more : Text) :
    skip input = [] ∨
      ∃ c rest, skip input = c :: rest ∧ skip (input ++ more) = c :: (rest ++ more) := by
  cases front : skip input with
  | nil => exact .inl rfl
  | cons c rest =>
      obtain ⟨solid, blank, hblank, rfl⟩ := (skip_eq_cons_iff _ _ _).1 front
      refine .inr ⟨c, rest, rfl, (skip_eq_cons_iff _ _ _).2 ⟨solid, blank, hblank, ?_⟩⟩
      rw [List.append_assoc, List.cons_append]

theorem continues_word (letters input more : Text) :
    Continues (· ++ more) (word letters input) (word letters (input ++ more)) := by
  induction letters generalizing input with
  | nil => exact .value input
  | cons letter letters ih =>
      cases input with
      | nil => exact .ended .value _
      | cons c rest =>
          rw [List.cons_append, word, word]
          split
          · exact ih rest
          · exact .refused _ _

theorem continues_colon (input more : Text) :
    Continues (· ++ more) (colon input) (colon (input ++ more)) := by
  rcases skip_append_cases input more with blank | ⟨c, rest, front, front'⟩
  · rw [colon, blank]
    exact .ended .object _
  · simp only [colon, front, front']
    split
    · exact .value rest
    · exact .refused _ _

theorem utf8Size_of_hexValue? {c : Char} {n : Nat} (hex : hexValue? c = some n) :
    c.utf8Size = 1 := by
  rw [Char.utf8Size_eq_one_iff]
  simp only [hexValue?, Char.le_def, UInt32.le_iff_toNat_le] at hex ⊢
  have digits : '9'.val.toNat = 57 := by decide
  have lower : 'f'.val.toNat = 102 := by decide
  have upper : 'F'.val.toNat = 70 := by decide
  have ascii : (127 : UInt32).toNat = 127 := by decide
  split at hex
  · omega
  · split at hex
    · omega
    · split at hex
      · omega
      · cases hex

theorem HexDigits.length_eq {unit : Nat} {hex : Text} (digits : HexDigits unit hex) :
    hex.length = 4 ∧ ∀ c ∈ hex, c.utf8Size = 1 := by
  obtain ⟨ha, hb, hc, hd, -⟩ := digits
  simp [utf8Size_of_hexValue? ha, utf8Size_of_hexValue? hb, utf8Size_of_hexValue? hc,
    utf8Size_of_hexValue? hd]

theorem byteSize_eq_length {text : Text} (narrow : ∀ c ∈ text, c.utf8Size = 1) :
    Text.byteSize text = text.length := by
  induction text with
  | nil => rfl
  | cons c rest ih =>
      rw [Text.byteSize_cons, narrow c List.mem_cons_self,
        ih fun d member => narrow d (List.mem_cons_of_mem c member), List.length_cons,
        Nat.add_comm]

theorem eq_hexFailure_of_hexUnit {input : Text} {failure : Failure}
    (refused : hexUnit input = .error failure) : failure = hexFailure input := by
  unfold hexUnit at refused
  split at refused
  · split at refused
    · cases refused
    · exact (Except.error.inj refused).symm
  · exact (Except.error.inj refused).symm

/-- Digits that are cut short are fewer than four bytes, so the end is missed. -/
theorem hexUnit_of_append_eq {input more rest : Text} {unit : Nat} {failure : Failure}
    (refused : hexUnit input = .error failure)
    (whole : hexUnit (input ++ more) = .ok (unit, rest)) : failure = .ended .text := by
  obtain ⟨hex, digits, split⟩ := (hexUnit_eq_ok_iff _ _ _).1 whole
  have unread (later : Text) : input ≠ hex ++ later := by
    intro same
    rw [(hexUnit_eq_ok_iff input later unit).2 ⟨hex, digits, same⟩] at refused
    cases refused
  obtain ⟨four, narrow⟩ := digits.length_eq
  rcases List.append_eq_append_iff.1 split with ⟨left, hleft, -⟩ | ⟨later, same, -⟩
  · have short : input.length < 4 := by
      have nonempty : left ≠ [] := by
        rintro rfl
        exact unread [] (by simp [hleft])
      have long := List.length_pos_iff.2 nonempty
      rw [hleft, List.length_append] at four
      omega
    have bytes : Text.byteSize input = input.length :=
      byteSize_eq_length fun c member => narrow c (by simp [hleft, member])
    rw [eq_hexFailure_of_hexUnit refused, hexFailure, if_pos (bytes ▸ short)]
  · exact (unread later same).elim

theorem continues_hexUnit (input more : Text) :
    Continues (behind more) (hexUnit input) (hexUnit (input ++ more)) := by
  cases read : hexUnit input with
  | ok found =>
      obtain ⟨unit, rest⟩ := found
      obtain ⟨hex, digits, rfl⟩ := (hexUnit_eq_ok_iff _ _ _).1 read
      rw [List.append_assoc, (hexUnit_eq_ok_iff _ (rest ++ more) unit).2 ⟨hex, digits, rfl⟩]
      exact .found _ rest more
  | error failure =>
      cases whole : hexUnit (input ++ more) with
      | error later => exact .refused failure later
      | ok found =>
          rw [hexUnit_of_append_eq read whole]
          exact .ended .text _

theorem trailingUnit_cons (leading : Nat) (c : Char) (input : Text) :
    trailingUnit leading (c :: input) =
      if c = 'u' then
        (hexUnit input).bind fun (trailing, rest) =>
          if isTrailing trailing then .ok (pairChar leading trailing, rest)
          else .error (.here .loneSurrogate rest)
      else .error (.past .unpairedSurrogate (c :: input)) := by
  rw [trailingUnit]
  repeat' split
  all_goals simp only [*, Except.bind, if_true, Bool.false_eq_true, if_false]

theorem codeUnits_eq_bind (input : Text) :
    codeUnits input =
      (hexUnit input).bind fun (unit, rest) =>
        if isTrailing unit then .error (.here .loneSurrogate rest)
        else if isLeading unit then trailingHalf unit rest
        else .ok (Char.ofNat unit, rest) := by
  rw [codeUnits]
  repeat' split
  all_goals simp only [*, Except.bind, if_true, Bool.false_eq_true, if_false]

theorem continues_trailingUnit (leading : Nat) (input more : Text) :
    Continues (behind more) (trailingUnit leading input)
      (trailingUnit leading (input ++ more)) := by
  cases input with
  | nil => exact .ended .text _
  | cons c rest =>
      rw [List.cons_append, trailingUnit_cons, trailingUnit_cons]
      split
      · refine (continues_hexUnit rest more).bind ?_
        rintro ⟨trailing, rest⟩ -
        by_cases trails : isTrailing trailing = true
        · simp only [behind, trails, if_true]
          exact .found _ rest more
        · simp only [behind, trails]
          exact .refused _ _
      · exact .refused _ _

theorem continues_trailingHalf (leading : Nat) (input more : Text) :
    Continues (behind more) (trailingHalf leading input)
      (trailingHalf leading (input ++ more)) := by
  cases input with
  | nil => exact .ended .text _
  | cons c rest =>
      rw [List.cons_append, trailingHalf, trailingHalf]
      split
      · exact continues_trailingUnit leading rest more
      · exact .refused _ _

theorem continues_codeUnits (input more : Text) :
    Continues (behind more) (codeUnits input) (codeUnits (input ++ more)) := by
  rw [codeUnits_eq_bind, codeUnits_eq_bind]
  refine (continues_hexUnit input more).bind ?_
  rintro ⟨unit, rest⟩ -
  by_cases trails : isTrailing unit = true
  · simp only [behind, trails, if_true]
    exact .refused _ _
  · by_cases leads : isLeading unit = true
    · simp only [behind, trails, leads, if_true]
      exact continues_trailingHalf unit rest more
    · simp only [behind, trails, leads]
      exact .found _ rest more

theorem continues_escape (input more : Text) :
    Continues (behind more) (escape input) (escape (input ++ more)) := by
  cases input with
  | nil => exact .ended .text _
  | cons c rest =>
      rw [List.cons_append, escape, escape]
      split
      · exact continues_codeUnits rest more
      · split
        · exact .found _ rest more
        · exact .refused _ _

theorem continues_character (c : Char) (input more : Text) :
    Continues (behind more) (character c input) (character c (input ++ more)) := by
  rw [character, character]
  split
  · exact continues_escape input more
  · split
    · exact .refused _ _
    · exact .found _ input more

theorem stringBody_cons (c : Char) (input : Text) :
    stringBody (c :: input) =
      if c = '"' then .ok ([], input)
      else
        (character c input).bind fun (first, rest) =>
          (stringBody rest).bind fun (later, rest) => .ok (first :: later, rest) := by
  rw [stringBody]
  repeat' split
  all_goals simp only [*, Except.bind]

theorem continues_stringBody (input more : Text) :
    Continues (behind more) (stringBody input) (stringBody (input ++ more)) := by
  induction hlength : input.length using Nat.strongRecOn generalizing input with
  | ind n ih =>
      cases input with
      | nil =>
          rw [stringBody]
          exact .ended .text _
      | cons c rest =>
          rw [List.cons_append, stringBody_cons, stringBody_cons]
          split
          · exact .found _ rest more
          · refine (continues_character c rest more).bind ?_
            rintro ⟨first, later⟩ read
            have shorter : later.length < n := by
              rw [← hlength, List.length_cons]
              exact Nat.lt_succ_of_le (character_length read)
            refine (ih later.length shorter later rfl).bind ?_
            rintro ⟨body, final⟩ -
            exact .found _ final more

theorem continues_text (input more : Text) :
    Continues (behind more) (text input) (text (input ++ more)) := by
  rcases skip_append_cases input more with blank | ⟨c, rest, front, front'⟩
  · rw [text, blank]
    exact .ended .value _
  · simp only [text, front, front']
    split
    · exact continues_stringBody rest more
    · exact .refused _ _

theorem boolean_eq_bind (input : Text) :
    boolean input =
      match skip input with
      | [] => .error (.ended .value)
      | c :: rest =>
          if c = 't' then (word "rue".toList rest).bind fun rest => .ok (true, rest)
          else if c = 'f' then (word "alse".toList rest).bind fun rest => .ok (false, rest)
          else .error (mismatch "a boolean".toList (c :: rest)) := by
  rw [boolean]
  cases skip input with
  | nil => rfl
  | cons c rest =>
      simp only
      cases word "rue".toList rest <;> cases word "alse".toList rest <;> rfl

theorem continues_flag (flag : Bool) (letters input more : Text) :
    Continues (behind more) ((word letters input).bind fun rest => .ok (flag, rest))
      ((word letters (input ++ more)).bind fun rest => .ok (flag, rest)) := by
  refine (continues_word letters input more).bind ?_
  intro rest _
  exact .found _ rest more

theorem continues_boolean (input more : Text) :
    Continues (behind more) (boolean input) (boolean (input ++ more)) := by
  rcases skip_append_cases input more with blank | ⟨c, rest, front, front'⟩
  · rw [boolean, blank]
    exact .ended .value _
  · simp only [boolean_eq_bind, front, front']
    split
    · exact continues_flag _ _ rest more
    · split
      · exact continues_flag _ _ rest more
      · exact .refused _ _

theorem continues_null (input more : Text) :
    Continues (· ++ more) (null input) (null (input ++ more)) := by
  rcases skip_append_cases input more with blank | ⟨c, rest, front, front'⟩
  · rw [null, blank]
    exact .ended .value _
  · simp only [null, front, front']
    split
    · exact continues_word _ rest more
    · exact .refused _ _

theorem continues_nextItem (first : Bool) (input more : Text) :
    Continues (behind more) (nextItem first input) (nextItem first (input ++ more)) := by
  rcases skip_append_cases input more with blank | ⟨c, rest, front, front'⟩
  · rw [nextItem, blank]
    exact .ended .list _
  · simp only [nextItem, front, front']
    split
    · exact .found _ rest more
    · split
      · exact .found _ (c :: rest) more
      · split
        · rcases skip_append_cases rest more with blank | ⟨d, later, behind, behind'⟩
          · rw [blank]
            exact .ended .value _
          · simp only [behind, behind']
            split
            · exact .refused _ _
            · exact .found _ (d :: later) more
        · exact .refused _ _

theorem continues_lastItem (input more : Text) :
    Continues (· ++ more) (lastItem input) (lastItem (input ++ more)) := by
  rcases skip_append_cases input more with blank | ⟨c, rest, front, front'⟩
  · rw [lastItem, blank]
    exact .ended .list _
  · simp only [lastItem, front, front']
    split
    · exact .value rest
    · split
      · rcases skip_append_cases rest more with blank | ⟨d, later, behind, behind'⟩
        · -- Nothing may follow a comma here, so its end counts as trailing text.
          simp only [blank]
          split
          · exact .refused _ _
          · split
            · exact .refused _ _
            · exact .refused _ _
        · simp only [behind, behind']
          split
          · exact .refused _ _
          · exact .refused _ _
      · exact .refused _ _

theorem continues_nextKey (first : Bool) (input more : Text) :
    Continues (behind more) (nextKey first input) (nextKey first (input ++ more)) := by
  rcases skip_append_cases input more with blank | ⟨c, rest, front, front'⟩
  · rw [nextKey, blank]
    exact .ended .object _
  · simp only [nextKey, front, front']
    split
    · exact .found _ rest more
    · split
      · split
        · exact .found _ rest more
        · exact .refused _ _
      · split
        · rcases skip_append_cases rest more with blank | ⟨d, later, behind, behind'⟩
          · rw [blank]
            exact .ended .value _
          · simp only [behind, behind']
            split
            · exact .found _ later more
            · split
              · exact .refused _ _
              · exact .refused _ _
        · exact .refused _ _

end Json

end SampleLine
