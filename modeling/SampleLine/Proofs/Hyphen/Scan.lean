/-
Displayed text read back in one scan.  The four passes come to the exchange of one
token after another from left to right.  What they leave is bare, whatever is next
to each other then, so reading it back once more changes nothing.
-/
import SampleLine.Proofs.Hyphen.Plain

namespace SampleLine

namespace Display

open Text

theorem scan_token_append {exchange : Text × Text} (member : exchange ∈ exchanges)
    (rest : Text) : scan (exchange.1 ++ rest) = exchange.2 ++ scan rest := by
  simp only [exchanges, HyphenForm.mark, List.mem_cons, List.not_mem_nil, or_false] at member
  rcases member with rfl | rfl | rfl | rfl
  · rfl
  · rfl
  · rfl
  · rfl

theorem scan_cons_of_unmarked {c : Char} {rest : Text} (unmarked : Unmarked (c :: rest)) :
    scan (c :: rest) = c :: scan rest := by
  obtain ⟨noPair, noFeed, noEntity, noMark⟩ := (unmarked_cons_iff c rest).1 unmarked
  rw [scan]
  · rintro later rfl rfl
    exact noPair ⟨rfl, List.prefix_append ['\n'] later⟩
  · exact noFeed
  · rintro later rfl rfl
    exact noEntity ⟨rfl, List.prefix_append ['#', '8', '2', '0', '9', ';'] later⟩
  · exact noMark

/-- The four passes over the whole text are one scan from left to right. -/
theorem plain_eq_scan (text : Text) : plain text = scan text := by
  induction text using exchange_induction with
  | nil => rfl
  | token exchange member rest ih =>
      rw [plain_token_append member, scan_token_append member, ih]
  | other c rest unmarked ih =>
      rw [plain_cons_of_unmarked unmarked, scan_cons_of_unmarked unmarked, ih]

/-- Reading back neither makes nor breaks a word at the front that holds no first
character of a token or of what takes its place. -/
theorem prefix_plain_iff {word : Text}
    (apart : ∀ c ∈ ['\r', '\n', '&', '\u2011', ' ', '-'], c ∉ word) (text : Text) :
    word <+: plain text ↔ word <+: text := by
  simp only [List.forall_mem_cons, List.not_mem_nil, false_implies, implies_true,
    and_true] at apart
  obtain ⟨noReturn, noFeed, noEntity, noMark, noSpace, noHyphen⟩ := apart
  rw [plain_eq, prefix_replaceAll_iff noMark noHyphen, prefix_replaceAll_iff noEntity noHyphen,
    prefix_replaceAll_iff noFeed noSpace, prefix_replaceAll_iff noReturn noSpace]

/-- The rest of an entity comes behind a character only if it was there before, and a
line feed does not come at all. -/
theorem unmarked_cons_plain {c : Char} {rest : Text} (unmarked : Unmarked (c :: rest))
    (noFeed : '\n' ∉ plain rest) : Unmarked (c :: plain rest) := by
  have entity : ['#', '8', '2', '0', '9', ';'] <+: plain rest ↔
      ['#', '8', '2', '0', '9', ';'] <+: rest := prefix_plain_iff (by simp) rest
  have feed : ¬ ['\n'] <+: plain rest := fun found =>
    noFeed (found.subset List.mem_cons_self)
  rw [unmarked_cons_iff] at unmarked ⊢
  rw [entity]
  exact ⟨fun pair => feed pair.2, unmarked.2⟩

/-- What takes the place of a token starts none. -/
theorem exists_unmarked_piece {exchange : Text × Text} (member : exchange ∈ exchanges) :
    ∃ c, exchange.2 = [c] ∧ ∀ rest, Unmarked (c :: rest) := by
  have pieces : ∀ exchange ∈ exchanges, exchange.2 = [' '] ∨ exchange.2 = ['-'] := by decide
  rcases pieces exchange member with space | hyphen
  · exact ⟨' ', space, fun rest => (unmarked_cons_iff ' ' rest).2 (by simp)⟩
  · exact ⟨'-', hyphen, fun rest => (unmarked_cons_iff '-' rest).2 (by simp)⟩

theorem bare_plain (text : Text) : Bare (plain text) := by
  induction text using exchange_induction with
  | nil => exact (plain_eq_self_iff []).1 rfl
  | token exchange member rest ih =>
      obtain ⟨c, piece, unmarked⟩ := exists_unmarked_piece member
      rw [plain_token_append member, piece, List.singleton_append, bare_cons_iff (unmarked _)]
      exact ih
  | other c rest unmarked ih =>
      rw [plain_cons_of_unmarked unmarked, bare_cons_iff (unmarked_cons_plain unmarked ih.1)]
      exact ih

/-- What is read back holds no line feed and no mark of either form, and is read back
as it is.  The texts that reading back gives are exactly those without these. -/
theorem plain_gives_bare (text : Text) :
    ('\n' ∉ plain text ∧ '\u2011' ∉ plain text ∧ ¬ HyphenForm.mark .entity <:+: plain text) ∧
      plain (plain text) = plain text ∧
      ((∃ displayed, plain displayed = text) ↔
        '\n' ∉ text ∧ '\u2011' ∉ text ∧ ¬ HyphenForm.mark .entity <:+: text) := by
  refine ⟨bare_plain text, (plain_eq_self_iff _).2 (bare_plain text), ?_, ?_⟩
  · rintro ⟨displayed, rfl⟩
    exact bare_plain displayed
  · intro bare
    exact ⟨text, (plain_eq_self_iff text).2 bare⟩

example : plain "&#8209&#8209;;\r\r\n".toList = "&#8209-;\r ".toList := by decide

end Display

end SampleLine
