/-
What display and reading back do to counts and sizes.  Each pass over a text takes away
and puts in the same at every find, so the passes balance for any weight of the
characters, and none of them moves what a later one finds.
-/
import SampleLine.Proofs.Hyphen.Marks
import SampleLine.Proofs.Text.Count

namespace SampleLine

namespace HyphenForm

/-- The bytes that a mark takes beyond the one of a hyphen. -/
def surplus : HyphenForm → Nat
  | .entity => 6
  | .character => 2

theorem byteSize_mark (form : HyphenForm) : Text.byteSize form.mark = form.surplus + 1 := by
  cases form <;> decide

end HyphenForm

namespace Display

open Text

/-- A replacement keeps the count of marks that share no character with the token and
with the new piece. -/
theorem markCount_replaceAll {form : HyphenForm} {first start : Char} {later final : Text}
    (ofToken : ∀ c ∈ form.mark, c ∉ first :: later)
    (ofPiece : ∀ c ∈ form.mark, c ∉ start :: final) (text : Text) :
    markCount form (replaceAll (first :: later) (start :: final) text) = markCount form text := by
  cases form with
  | entity => exact countAll_replaceAll_of_apart (by decide) ofToken ofPiece text
  | character => exact countAll_replaceAll_of_apart (by decide) ofToken ofPiece text

/-- Display adds a mark of its own form for each hyphen. -/
theorem markCount_render (form : HyphenForm) (text : Text) :
    markCount form (render form text) = markCount form text + text.count '-' := by
  have ofPiece : ∀ rest, countAll form.mark (form.mark ++ rest) = countAll form.mark rest + 1 :=
    countAll_token_append (mark_ne_nil form)
  have ofToken := mark_apart_hyphen form
  rw [← countAll_singleton, ← Nat.one_mul (countAll ['-'] text)]
  cases form with
  | entity => exact countAll_replaceAll (by decide) ofToken (by decide) ofPiece text
  | character => exact countAll_replaceAll (by decide) ofToken (by decide) ofPiece text

theorem markCount_other_render (form : HyphenForm) (text : Text) :
    markCount form.other (render form text) = markCount form.other text := by
  have ofToken := mark_apart_hyphen form.other
  have ofPiece := mark_apart form
  cases form with
  | entity => exact markCount_replaceAll ofToken ofPiece text
  | character => exact markCount_replaceAll ofToken ofPiece text

theorem byteSize_render (form : HyphenForm) (text : Text) :
    byteSize (render form text) = byteSize text + form.surplus * text.count '-' := by
  have moved := sum_replaceAll (List.cons_ne_nil '-' []) Char.utf8Size form.mark text
  have hyphen : byteSize ['-'] = 1 := by decide
  simp only [sum_map_utf8Size, hyphen, HyphenForm.byteSize_mark, countAll_singleton,
    Nat.add_mul] at moved
  rw [render]
  omega

/-- A mark is found wherever one stands, and no two marks of a form share a character. -/
theorem markCount_eq_length_starts (form : HyphenForm) (text : Text) :
    markCount form text = (starts form.mark text).length ∧
      (starts form.mark text).Pairwise fun place next => place + form.mark.length ≤ next := by
  cases form with
  | entity =>
      exact ⟨countAll_eq_length_starts (by decide) text, pairwise_starts (by decide) text⟩
  | character =>
      exact ⟨countAll_eq_length_starts (by decide) text, pairwise_starts (by decide) text⟩

/-- A display holds no hyphen.  Each hyphen has become one mark of its form, with the
bytes of that mark for its one byte, the marks of the other form are as many as before,
and another display changes nothing.  Marks are counted at every place at which one
stands, and these places lie apart. -/
theorem render_turns_hyphens_to_marks (form : HyphenForm) (text : Text) :
    '-' ∉ render form text ∧
      markCount form (render form text) = markCount form text + text.count '-' ∧
      markCount form.other (render form text) = markCount form.other text ∧
      byteSize (render form text) = byteSize text + form.surplus * text.count '-' ∧
      (∀ again, render again (render form text) = render form text) ∧
      ∀ counted shown, markCount counted shown = (starts counted.mark shown).length ∧
        (starts counted.mark shown).Pairwise fun place next =>
          place + counted.mark.length ≤ next := by
  have noHyphen := hyphen_not_mem_render form text
  exact ⟨noHyphen, markCount_render form text, markCount_other_render form text,
    byteSize_render form text, render_of_not_mem noHyphen, markCount_eq_length_starts⟩

/-- A text with its line ends written as spaces. -/
def unbroken (text : Text) : Text :=
  replaceAll ['\n'] [' '] (replaceAll ['\r', '\n'] [' '] text)

theorem plain_eq_unmark_unbroken (text : Text) :
    plain text = unmark .character (unmark .entity (unbroken text)) := rfl

/-- Line ends written as spaces neither make nor break a mark. -/
theorem markCount_unbroken (form : HyphenForm) (text : Text) :
    markCount form (unbroken text) = markCount form text := by
  have ofPair : ∀ c ∈ form.mark, c ∉ ['\r', '\n'] := by
    cases form <;> simp [HyphenForm.mark]
  have ofFeed : ∀ c ∈ form.mark, c ∉ ['\n'] := by
    cases form <;> simp [HyphenForm.mark]
  have ofSpace : ∀ c ∈ form.mark, c ∉ [' '] := by
    cases form <;> simp [HyphenForm.mark]
  rw [unbroken, markCount_replaceAll ofFeed ofSpace, markCount_replaceAll ofPair ofSpace]

theorem markCount_unmark (text : Text) :
    markCount .character (unmark .entity text) = markCount .character text :=
  markCount_replaceAll (mark_apart .entity) (mark_apart_hyphen .character) text

/-- Every line feed gives way to a space, and a carriage return before it goes with it. -/
theorem sum_unbroken (weight : Char → Nat) (text : Text) :
    ((unbroken text).map weight).sum +
        (weight '\r' * countAll ['\r', '\n'] text + weight '\n' * text.count '\n') =
      (text.map weight).sum + weight ' ' * text.count '\n' := by
  have pairs := sum_replaceAll (List.cons_ne_nil '\r' ['\n']) weight [' '] text
  have feeds := sum_replaceAll (List.cons_ne_nil '\n' []) weight [' ']
    (replaceAll ['\r', '\n'] [' '] text)
  -- The first pass takes one line feed for each pair, so the second finds the others.
  have left := count_replaceAll (List.cons_ne_nil '\r' ['\n']) '\n' [' '] text
  have inPair : List.count '\n' ['\r', '\n'] = 1 := by decide
  have inSpace : List.count '\n' [' '] = 0 := by decide
  rw [inPair, inSpace, Nat.one_mul, Nat.zero_mul, Nat.add_zero] at left
  simp only [List.map_cons, List.map_nil, List.sum_cons, List.sum_nil, Nat.add_zero, Nat.add_mul,
    countAll_singleton] at pairs feeds
  rw [unbroken, ← left, Nat.mul_add, Nat.mul_add]
  omega

theorem sum_unmark (form : HyphenForm) (weight : Char → Nat) (text : Text) :
    ((unmark form text).map weight).sum + (form.mark.map weight).sum * markCount form text =
      (text.map weight).sum + weight '-' * markCount form text :=
  sum_replaceAll (mark_ne_nil form) weight ['-'] text

/-- The balance of reading back, with all finds counted in the text that is read. -/
theorem sum_plain (weight : Char → Nat) (text : Text) :
    ((plain text).map weight).sum +
        (weight '\r' * countAll ['\r', '\n'] text + weight '\n' * text.count '\n' +
          ((HyphenForm.mark .entity).map weight).sum * markCount .entity text +
          weight '\u2011' * markCount .character text) =
      (text.map weight).sum + weight ' ' * text.count '\n' +
        weight '-' * (markCount .entity text + markCount .character text) := by
  have lines := sum_unbroken weight text
  have entities := sum_unmark .entity weight (unbroken text)
  have characters := sum_unmark .character weight (unmark .entity (unbroken text))
  have mark : ((HyphenForm.mark .character).map weight).sum = weight '\u2011' := rfl
  rw [markCount_unbroken] at entities
  rw [markCount_unmark, markCount_unbroken, mark] at characters
  rw [plain_eq_unmark_unbroken, Nat.mul_add]
  omega

theorem count_plain (c : Char) (text : Text) :
    (plain text).count c +
        ((if '\r' = c then 1 else 0) * countAll ['\r', '\n'] text +
          (if '\n' = c then 1 else 0) * text.count '\n' +
          (HyphenForm.mark .entity).count c * markCount .entity text +
          (if '\u2011' = c then 1 else 0) * markCount .character text) =
      text.count c + (if ' ' = c then 1 else 0) * text.count '\n' +
        (if '-' = c then 1 else 0) * (markCount .entity text + markCount .character text) := by
  have balance := sum_plain (fun d => if d = c then 1 else 0) text
  simpa only [sum_map_eq_count] using balance

theorem byteSize_plain (text : Text) :
    byteSize (plain text) + countAll ['\r', '\n'] text + 6 * markCount .entity text +
      2 * markCount .character text = byteSize text := by
  have balance := sum_plain Char.utf8Size text
  have widths : '\r'.utf8Size = 1 ∧ '\n'.utf8Size = 1 ∧ ' '.utf8Size = 1 ∧ '-'.utf8Size = 1 ∧
      '\u2011'.utf8Size = 3 := by decide
  obtain ⟨carriage, feed, space, hyphen, mark⟩ := widths
  simp only [sum_map_utf8Size, HyphenForm.byteSize_mark, HyphenForm.surplus, carriage, feed, space,
    hyphen, mark] at balance
  omega

/-- What reading back keeps, takes and puts in, told by the text that is read: each mark
of either form becomes a hyphen and each line feed a space, a carriage return goes only
before a line feed, and no other character is touched but those of entities. -/
theorem plain_conserves (text : Text) :
    (plain text).count '-' =
        text.count '-' + markCount .entity text + markCount .character text ∧
      (plain text).count ' ' = text.count ' ' + text.count '\n' ∧
      (plain text).count '\r' + (starts ['\r', '\n'] text).length = text.count '\r' ∧
      (∀ c ∉ ['-', ' ', '\r', '\n', '\u2011'] ++ HyphenForm.mark .entity,
        (plain text).count c = text.count c) ∧
      byteSize (plain text) + (starts ['\r', '\n'] text).length + 6 * markCount .entity text +
        2 * markCount .character text = byteSize text := by
  have unlike : '\r' ∉ ['\n'] := by decide
  rw [← countAll_eq_length_starts unlike]
  refine ⟨?_, ?_, ?_, ?_, byteSize_plain text⟩
  · have balance := count_plain '-' text
    simpa [HyphenForm.mark, Nat.add_assoc] using balance
  · simpa [HyphenForm.mark] using count_plain ' ' text
  · simpa [HyphenForm.mark] using count_plain '\r' text
  · intro c other
    have balance := count_plain c text
    simp only [List.mem_append, List.mem_cons, List.not_mem_nil, or_false, not_or] at other
    obtain ⟨⟨noHyphen, noSpace, noReturn, noFeed, noMark⟩, noEntity⟩ := other
    rw [if_neg (Ne.symm noHyphen), if_neg (Ne.symm noSpace), if_neg (Ne.symm noReturn),
      if_neg (Ne.symm noFeed), if_neg (Ne.symm noMark), List.count_eq_zero.2 noEntity] at balance
    omega

end Display

end SampleLine
