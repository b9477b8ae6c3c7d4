/-
Displayed text that is read back in parts.  The parts give what the whole gives, unless
a token lies across the seam between them: the whole exchanges it, and the parts keep
its two halves.
-/
import SampleLine.Proofs.Hyphen.Plain

namespace SampleLine

namespace Display

open Text

/-- A token lies across the seam of two texts: the end of the first one and the front of
the second make it up. -/
def Across (first second : Text) : Prop :=
  ∃ exchange ∈ exchanges, ∃ front back, front ≠ [] ∧ back ≠ [] ∧
    exchange.1 = front ++ back ∧ front <:+ first ∧ back <+: second

theorem Across.append_left {first second : Text} (across : Across first second) (kept : Text) :
    Across (kept ++ first) second := by
  obtain ⟨exchange, member, front, back, hfront, hback, split, ends, starts⟩ := across
  exact ⟨exchange, member, front, back, hfront, hback, split,
    ends.trans (List.suffix_append kept first), starts⟩

/-- A text at whose front no token starts still has none there when more follows, unless
that makes up the rest of one. -/
theorem unmarked_append {text more : Text} (unmarked : Unmarked text) (nonempty : text ≠ [])
    (apart : ¬ Across text more) : Unmarked (text ++ more) := by
  intro exchange member starts
  rcases List.prefix_or_prefix_of_prefix starts (List.prefix_append text more) with within | beyond
  · exact unmarked exchange member within
  · obtain ⟨back, split⟩ := beyond
    have rest : back <+: more := by rwa [← split, List.prefix_append_right_inj] at starts
    have hback : back ≠ [] := by
      rintro rfl
      exact unmarked exchange member (by simp [← split])
    exact apart ⟨exchange, member, text, back, nonempty, hback, split.symm, List.suffix_rfl, rest⟩

theorem plain_append {first second : Text} (apart : ¬ Across first second) :
    plain (first ++ second) = plain first ++ plain second := by
  induction first using exchange_induction with
  | nil => rfl
  | token exchange member rest ih =>
      have apart' : ¬ Across rest second := fun across => apart (across.append_left exchange.1)
      rw [List.append_assoc, plain_token_append member, plain_token_append member, ih apart',
        List.append_assoc]
  | other c rest unmarked ih =>
      have apart' : ¬ Across rest second := fun across => apart (across.append_left [c])
      have unmarked' : Unmarked (c :: rest ++ second) :=
        unmarked_append unmarked (List.cons_ne_nil c rest) apart
      rw [List.cons_append] at unmarked' ⊢
      rw [plain_cons_of_unmarked unmarked', plain_cons_of_unmarked unmarked, ih apart',
        List.cons_append]

/-- The characters that open a token of several characters. -/
def openers : List Char := ['\r', '&']

/-- A token that can be cut starts with a character that comes in no other place of a
token that can be cut. -/
theorem exists_opener {exchange : Text × Text} (member : exchange ∈ exchanges)
    {front back : Text} (hfront : front ≠ []) (hback : back ≠ [])
    (split : exchange.1 = front ++ back) :
    ∃ c ∈ openers, ∃ later, front = c :: later ∧ ∀ d ∈ openers, d ∉ later ++ back := by
  have opened : ∀ exchange ∈ exchanges, exchange.1.tail ≠ [] →
      ∃ c ∈ openers, exchange.1.head? = some c ∧ ∀ d ∈ openers, d ∉ exchange.1.tail := by
    simp [exchanges, openers, HyphenForm.mark]
  obtain ⟨c, later, rfl⟩ := List.exists_cons_of_ne_nil hfront
  have behind : exchange.1.tail ≠ [] := by simp [split, hback]
  obtain ⟨d, opener, head, apart⟩ := opened exchange member behind
  rw [split, List.cons_append, List.head?_cons, Option.some.injEq] at head
  rw [split, List.cons_append, List.tail_cons] at apart
  exact ⟨c, head ▸ opener, later, rfl, apart⟩

theorem not_across_opener {c : Char} (opener : c ∈ openers) (first rest : Text) :
    ¬ Across first (c :: rest) := by
  rintro ⟨exchange, member, front, back, hfront, hback, split, -, starts⟩
  obtain ⟨-, -, later, -, apart⟩ := exists_opener member hfront hback split
  obtain ⟨d, behind, rfl⟩ := List.exists_cons_of_ne_nil hback
  obtain ⟨rfl, -⟩ := List.cons_prefix_cons.1 starts
  exact apart d opener (List.mem_append_right later List.mem_cons_self)

theorem not_across_of_not_mem {first : Text} (absent : ∀ c ∈ openers, c ∉ first)
    (second : Text) : ¬ Across first second := by
  rintro ⟨exchange, member, front, back, hfront, hback, split, ends, -⟩
  obtain ⟨c, opener, later, rfl, -⟩ := exists_opener member hfront hback split
  exact absent c opener (ends.subset List.mem_cons_self)

theorem plain_ne_nil {text : Text} (nonempty : text ≠ []) : plain text ≠ [] := by
  have pieces : ∀ exchange ∈ exchanges, exchange.2 ≠ [] := by decide
  cases text using exchange_induction with
  | nil => exact absurd rfl nonempty
  | token exchange member rest _ =>
      rw [plain_token_append member]
      exact List.append_ne_nil_of_left_ne_nil (pieces exchange member) _
  | other c rest unmarked _ =>
      rw [plain_cons_of_unmarked unmarked]
      exact List.cons_ne_nil c _

/-- A token that lies across the seam becomes one character of the whole, and at least
one in each of the parts. -/
theorem plain_append_ne_of_across {first second : Text} (across : Across first second) :
    plain (first ++ second) ≠ plain first ++ plain second := by
  obtain ⟨exchange, member, front, back, hfront, hback, split, ⟨before, rfl⟩, ⟨behind, rfl⟩⟩ :=
    across
  have single : ∀ exchange ∈ exchanges, exchange.2.length = 1 := by decide
  have ofFront := List.length_pos_iff.2 (plain_ne_nil hfront)
  have ofBack := List.length_pos_iff.2 (plain_ne_nil hback)
  obtain ⟨c, opener, later, rfl, apart⟩ := exists_opener member hfront hback split
  have joined : before ++ c :: later ++ (back ++ behind) =
      before ++ (exchange.1 ++ behind) := by simp [split]
  have whole : plain (before ++ (exchange.1 ++ behind)) =
      plain before ++ (exchange.2 ++ plain behind) := by
    rw [← plain_token_append member, plain_append]
    rw [split]
    exact not_across_opener opener before _
  have halves : plain (before ++ c :: later) ++ plain (back ++ behind) =
      plain before ++ (plain (c :: later) ++ plain back ++ plain behind) := by
    rw [plain_append (not_across_opener opener before later),
      plain_append (not_across_of_not_mem (fun d hd member => apart d hd
        (List.mem_append_right later member)) behind)]
    simp only [List.append_assoc]
  rw [joined, whole, halves]
  intro same
  have piece : exchange.2 = plain (c :: later) ++ plain back :=
    List.append_cancel_right (List.append_cancel_left same)
  have lengths := congrArg List.length piece
  rw [single exchange member, List.length_append] at lengths
  omega

/-- Only a line end of two characters and an entity can lie across a seam. -/
theorem across_iff (first second : Text) :
    Across first second ↔
      (['\r'] <:+ first ∧ ['\n'] <+: second) ∨
        ∃ front back, front ≠ [] ∧ back ≠ [] ∧ HyphenForm.mark .entity = front ++ back ∧
          front <:+ first ∧ back <+: second := by
  constructor
  · rintro ⟨exchange, member, front, back, hfront, hback, split, ends, starts⟩
    simp only [exchanges, List.mem_cons, List.not_mem_nil, or_false] at member
    rcases member with rfl | rfl | rfl | rfl
    · obtain ⟨rfl, rfl⟩ : front = ['\r'] ∧ back = ['\n'] := by
        simpa [List.cons_eq_append_iff, hfront, hback] using split
      exact .inl ⟨ends, starts⟩
    · simp [List.cons_eq_append_iff, hfront, hback] at split
    · exact .inr ⟨front, back, hfront, hback, split, ends, starts⟩
    · simp [HyphenForm.mark, List.cons_eq_append_iff, hfront, hback] at split
  · rintro (⟨ends, starts⟩ | ⟨front, back, hfront, hback, split, ends, starts⟩)
    · exact ⟨(['\r', '\n'], [' ']), by simp [exchanges], ['\r'], ['\n'], by simp, by simp, rfl,
        ends, starts⟩
    · exact ⟨_, mark_mem_exchanges .entity, front, back, hfront, hback, split, ends, starts⟩

/-- Two texts are read back one by one as they are read back together, unless the first
ends in a carriage return and the second starts with a line feed, or the seam between
them cuts an entity. -/
theorem plain_append_iff (first second : Text) :
    plain (first ++ second) = plain first ++ plain second ↔
      ¬ (['\r'] <:+ first ∧ ['\n'] <+: second) ∧
        ¬ ∃ front back, front ≠ [] ∧ back ≠ [] ∧ HyphenForm.mark .entity = front ++ back ∧
          front <:+ first ∧ back <+: second := by
  rw [← not_or, ← across_iff]
  constructor
  · intro same across
    exact plain_append_ne_of_across across same
  · exact plain_append

end Display

end SampleLine
