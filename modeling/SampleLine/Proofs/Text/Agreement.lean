/-
Texts whose UTF-8 forms agree at the front.  The agreement may end inside a
character, and then both characters there take more than one byte.
-/
import SampleLine.Text.Utf8

namespace SampleLine

namespace Text

/-- Two texts agree on all bytes but the last `left` of the one and the last `right` of
the other. -/
def Agree (left right : Nat) (text other : Text) : Prop :=
  ∃ shared behind behind', utf8 text = shared ++ behind ∧ utf8 other = shared ++ behind' ∧
    behind.length = left ∧ behind'.length = right

/-- The first character of a text is told by its bytes, whatever follows them. -/
theorem eq_of_encode_append_eq {c d : Char} {rest rest' : List UInt8}
    (same : String.utf8EncodeChar c ++ rest = String.utf8EncodeChar d ++ rest') : c = d := by
  have read (e : Char) (later : List UInt8) :
      (String.utf8EncodeChar e ++ later).toByteArray.utf8DecodeChar? 0 = some e := by
    rw [List.toByteArray_append]
    exact ByteArray.utf8DecodeChar?_utf8EncodeChar_append
  have first := read c rest
  rw [same, read d rest'] at first
  exact (Option.some.inj first).symm

variable {left right : Nat} {text other : Text}

theorem Agree.refl (text : Text) : Agree 0 0 text text :=
  ⟨utf8 text, [], [], by simp, by simp, rfl, rfl⟩

theorem Agree.append (text more : Text) : Agree 0 (byteSize more) text (text ++ more) :=
  ⟨utf8 text, [], utf8 more, by simp, by simp, rfl, utf8_length more⟩

theorem Agree.symm (agree : Agree left right text other) : Agree right left other text := by
  obtain ⟨shared, behind, behind', first, second, hleft, hright⟩ := agree
  exact ⟨shared, behind', behind, second, first, hright, hleft⟩

theorem Agree.byteSize_add (agree : Agree left right text other) :
    byteSize text + right = byteSize other + left := by
  obtain ⟨shared, behind, behind', first, second, rfl, rfl⟩ := agree
  rw [← utf8_length, ← utf8_length, first, second, List.length_append, List.length_append]
  omega

/-- Texts with the same front agree behind it. -/
theorem Agree.of_append_append {front rest rest' : Text}
    (agree : Agree left right (front ++ rest) (front ++ rest')) (within : left ≤ byteSize rest) :
    Agree left right rest rest' := by
  obtain ⟨shared, behind, behind', first, second, rfl, rfl⟩ := agree
  rw [utf8_append] at first second
  have long : (utf8 front).length ≤ shared.length := by
    have counted := congrArg List.length first
    rw [List.length_append, List.length_append, utf8_length rest] at counted
    omega
  obtain ⟨middle, rfl⟩ : utf8 front <+: shared :=
    List.prefix_of_prefix_length_le ⟨utf8 rest, first⟩ ⟨behind, rfl⟩ long
  rw [List.append_assoc, List.append_cancel_left_eq] at first second
  exact ⟨middle, behind, behind', first, second, rfl, rfl⟩

/-- Two texts agree at least on the first byte of their first characters. -/
structure Fronts (left right : Nat) (c : Char) (rest : Text) (d : Char) (rest' : Text) : Prop where
  agree : Agree left right (c :: rest) (d :: rest')
  shared : left < byteSize (c :: rest)

theorem Fronts.refl (c : Char) (rest : Text) : Fronts 0 0 c rest c rest := by
  refine ⟨Agree.refl (c :: rest), ?_⟩
  rw [byteSize_cons]
  exact Nat.add_pos_left (Char.utf8Size_pos c) _

/-- A text that agrees on some bytes with one that is not empty is not empty. -/
theorem Agree.exists_fronts {c : Char} {rest : Text} (agree : Agree left right (c :: rest) other)
    (shared : left < byteSize (c :: rest)) :
    ∃ d rest', other = d :: rest' ∧ Fronts left right c rest d rest' := by
  cases other with
  | nil =>
      have counted := agree.byteSize_add
      rw [byteSize_nil] at counted
      omega
  | cons d rest' => exact ⟨d, rest', rfl, agree, shared⟩

/-- Bytes that hold a first character whole leave no choice for it. -/
theorem eq_of_shared {c d : Char} {rest rest' : Text} {shared behind behind' : List UInt8}
    (first : utf8 (c :: rest) = shared ++ behind) (second : utf8 (d :: rest') = shared ++ behind')
    (whole : c.utf8Size ≤ shared.length) : d = c := by
  rw [utf8_cons] at first second
  obtain ⟨middle, rfl⟩ : String.utf8EncodeChar c <+: shared :=
    List.prefix_of_prefix_length_le ⟨utf8 rest, first⟩ ⟨behind, rfl⟩
      (by rwa [String.length_utf8EncodeChar])
  rw [List.append_assoc] at second
  exact eq_of_encode_append_eq second

/-- First characters that agree on some bytes are the same, or else the agreement
ends inside of both. -/
theorem Fronts.same_or_wide {c d : Char} {rest rest' : Text}
    (fronts : Fronts left right c rest d rest') :
    (d = c ∧ Agree left right rest rest') ∨
      c.utf8Size ≠ 1 ∧ d.utf8Size ≠ 1 ∧ byteSize rest < left := by
  obtain ⟨agree, seen⟩ := fronts
  rw [byteSize_cons] at seen
  by_cases same : d = c
  · subst same
    by_cases within : left ≤ byteSize rest
    · have behind : Agree left right ([d] ++ rest) ([d] ++ rest') := agree
      exact .inl ⟨rfl, behind.of_append_append within⟩
    · exact .inr ⟨by omega, by omega, by omega⟩
  · obtain ⟨shared, behind, behind', first, second, hleft, -⟩ := agree
    have counted := congrArg List.length first
    rw [utf8_length, List.length_append, hleft, byteSize_cons] at counted
    have short : shared.length < c.utf8Size :=
      Nat.lt_of_not_le fun whole => same (eq_of_shared first second whole)
    have short' : shared.length < d.utf8Size :=
      Nat.lt_of_not_le fun whole => same (eq_of_shared second first whole).symm
    exact .inr ⟨by omega, by omega, by omega⟩

/-- A front of which all bytes are shared stands in both texts. -/
theorem Agree.exists_append {front rest : Text} (agree : Agree left right (front ++ rest) other)
    (within : left ≤ byteSize rest) :
    ∃ rest', other = front ++ rest' ∧ Agree left right rest rest' := by
  induction front generalizing other with
  | nil => exact ⟨other, rfl, agree⟩
  | cons c front ih =>
      rw [List.cons_append] at agree
      have wide := Char.utf8Size_pos c
      have shared : left < byteSize (c :: (front ++ rest)) := by
        rw [byteSize_cons, byteSize_append]
        omega
      obtain ⟨d, behind, rfl, fronts⟩ := agree.exists_fronts shared
      rcases fronts.same_or_wide with ⟨rfl, later⟩ | ⟨-, -, beyond⟩
      · obtain ⟨rest', rfl, behind⟩ := ih later
        exact ⟨rest', rfl, behind⟩
      · rw [byteSize_append] at beyond
        omega

/-- Texts that start with the same bytes agree on them. -/
theorem agree_of_take_eq {shared : Nat}
    (same : (utf8 other).take shared = (utf8 text).take shared) :
    Agree (byteSize text - shared) (byteSize other - shared) text other := by
  refine ⟨(utf8 text).take shared, (utf8 text).drop shared, (utf8 other).drop shared,
    (List.take_append_drop shared _).symm, ?_, ?_, ?_⟩
  · rw [← same, List.take_append_drop]
  · rw [List.length_drop, utf8_length]
  · rw [List.length_drop, utf8_length]

end Text

end SampleLine
