/-
Displayed text read back as a plain line.  The four passes do not disturb each
other: at each place they act as one exchange of the token that starts there.
So a text and its display read back alike, and exactly the texts without tokens
are read back as they are.
-/
import Mathlib.Data.List.Basic
import SampleLine.Hyphen.Display
import SampleLine.Proofs.Text.Replace

namespace SampleLine

namespace Display

open Text

/-- The tokens that reading back exchanges, each with what takes its place. -/
def exchanges : List (Text × Text) :=
  [(['\r', '\n'], [' ']), (['\n'], [' ']), (HyphenForm.mark .entity, ['-']),
   (HyphenForm.mark .character, ['-'])]

/-- No token starts at the front of a text. -/
def Unmarked (text : Text) : Prop := ∀ exchange ∈ exchanges, ¬ exchange.1 <+: text

theorem unmarked_cons_iff (c : Char) (rest : Text) :
    Unmarked (c :: rest) ↔
      ¬ (c = '\r' ∧ ['\n'] <+: rest) ∧ c ≠ '\n' ∧
        ¬ (c = '&' ∧ ['#', '8', '2', '0', '9', ';'] <+: rest) ∧ c ≠ '\u2011' := by
  simp only [Unmarked, exchanges, HyphenForm.mark, List.forall_mem_cons, List.cons_prefix_cons,
    List.nil_prefix, and_true, eq_comm (b := c), List.not_mem_nil, false_implies, implies_true, Ne]

/-- A text is empty, or starts with a token, or with a character of its own. -/
theorem exchange_induction {motive : Text → Prop} (nil : motive [])
    (token : ∀ exchange ∈ exchanges, ∀ rest, motive rest → motive (exchange.1 ++ rest))
    (other : ∀ c rest, Unmarked (c :: rest) → motive rest → motive (c :: rest))
    (text : Text) : motive text := by
  have shorter : ∀ exchange ∈ exchanges, exchange.1 ≠ [] := by decide
  -- A token is longer than one character, so the induction is on the length.
  induction hlength : text.length using Nat.strongRecOn generalizing text with
  | ind n ih =>
      cases text with
      | nil => exact nil
      | cons c rest =>
          by_cases unmarked : Unmarked (c :: rest)
          · exact other c rest unmarked (ih rest.length (by simp [← hlength]) rest rfl)
          · simp only [Unmarked, not_forall, not_not] at unmarked
            obtain ⟨exchange, member, behind, hbehind⟩ := unmarked
            have nonempty := List.length_pos_iff.2 (shorter exchange member)
            rw [← hbehind, List.length_append] at hlength
            rw [← hbehind]
            exact token exchange member behind (ih behind.length (by omega) behind rfl)

theorem plain_eq (text : Text) :
    plain text =
      replaceAll ['\u2011'] ['-']
        (replaceAll ['&', '#', '8', '2', '0', '9', ';'] ['-']
          (replaceAll ['\n'] [' '] (replaceAll ['\r', '\n'] [' '] text))) := rfl

/-- A token at the front of a text is exchanged. -/
theorem plain_token_append {exchange : Text × Text} (member : exchange ∈ exchanges)
    (rest : Text) : plain (exchange.1 ++ rest) = exchange.2 ++ plain rest := by
  simp only [exchanges, HyphenForm.mark, List.mem_cons, List.not_mem_nil, or_false] at member
  rcases member with rfl | rfl | rfl | rfl
  · rw [plain_eq, plain_eq, replaceAll_token_append (by decide),
      replaceAll_append_of_not_mem (by decide), replaceAll_append_of_not_mem (by decide),
      replaceAll_append_of_not_mem (by decide)]
  · rw [plain_eq, plain_eq, replaceAll_append_of_not_mem (by decide),
      replaceAll_token_append (by decide), replaceAll_append_of_not_mem (by decide),
      replaceAll_append_of_not_mem (by decide)]
  · rw [plain_eq, plain_eq, replaceAll_append_of_not_mem (by decide),
      replaceAll_append_of_not_mem (by decide), replaceAll_token_append (by decide),
      replaceAll_append_of_not_mem (by decide)]
  · rw [plain_eq, plain_eq, replaceAll_append_of_not_mem (by decide),
      replaceAll_append_of_not_mem (by decide), replaceAll_append_of_not_mem (by decide),
      replaceAll_token_append (by decide)]

/-- A character that starts no token is kept.  The passes for line ends neither
make nor break the rest of an entity behind it. -/
theorem plain_cons_of_unmarked {c : Char} {rest : Text} (unmarked : Unmarked (c :: rest)) :
    plain (c :: rest) = c :: plain rest := by
  have absent : ∀ exchange ∈ exchanges, ¬ exchange.1 <+: c :: rest := unmarked
  simp only [exchanges, HyphenForm.mark, List.forall_mem_cons, List.not_mem_nil, false_implies,
    implies_true, and_true] at absent
  obtain ⟨noPair, noFeed, noEntity, noMark⟩ := absent
  have noFeed' : ∀ later : Text, ¬ ['\n'] <+: c :: later := by
    simpa [List.cons_prefix_cons] using noFeed
  have noMark' : ∀ later : Text, ¬ ['\u2011'] <+: c :: later := by
    simpa [List.cons_prefix_cons] using noMark
  have noEntity' : ¬ ['&', '#', '8', '2', '0', '9', ';'] <+:
      c :: replaceAll ['\n'] [' '] (replaceAll ['\r', '\n'] [' '] rest) := by
    rwa [List.cons_prefix_cons, prefix_replaceAll_iff (by decide) (by decide),
      prefix_replaceAll_iff (by decide) (by decide), ← List.cons_prefix_cons]
  rw [plain_eq, plain_eq, replaceAll_cons_of_absent noPair,
    replaceAll_cons_of_absent (noFeed' _), replaceAll_cons_of_absent noEntity',
    replaceAll_cons_of_absent (noMark' _)]

theorem render_append_of_not_mem {form : HyphenForm} {kept : Text} (absent : '-' ∉ kept)
    (rest : Text) : render form (kept ++ rest) = kept ++ render form rest :=
  replaceAll_append_of_not_mem absent [] form.mark rest

/-- What is displayed holds the text without its hyphens, and the marks for these. -/
theorem mem_render_iff (form : HyphenForm) (c : Char) (text : Text) :
    c ∈ render form text ↔ (c ∈ text ∧ c ≠ '-') ∨ ('-' ∈ text ∧ c ∈ form.mark) := by
  rw [render_eq_flatMap, List.mem_flatMap]
  constructor
  · rintro ⟨d, within, written⟩
    by_cases hyphen : d = '-'
    · rw [if_pos hyphen] at written
      exact Or.inr ⟨hyphen ▸ within, written⟩
    · rw [if_neg hyphen, List.mem_singleton] at written
      rw [written]
      exact Or.inl ⟨within, hyphen⟩
  · rintro (⟨within, other⟩ | ⟨within, written⟩)
    · refine ⟨c, within, ?_⟩
      rw [if_neg other]
      exact List.mem_singleton_self c
    · exact ⟨'-', within, written⟩

theorem mem_of_mem_render {form : HyphenForm} {text : Text} {c : Char} (unmarked : c ∉ form.mark)
    (member : c ∈ render form text) : c ∈ text := by
  rcases (mem_render_iff form c text).1 member with kept | marked
  · exact kept.1
  · exact absurd marked.2 unmarked

theorem prefix_render_iff {word : Text} (noHyphen : '-' ∉ word) (noEntity : '&' ∉ word)
    (noMark : '\u2011' ∉ word) (form : HyphenForm) (text : Text) :
    word <+: render form text ↔ word <+: text := by
  cases form with
  | entity => exact prefix_replaceAll_iff noHyphen noEntity [] _ text
  | character => exact prefix_replaceAll_iff noHyphen noMark [] _ text

/-- Displaying the text behind a character makes no token start at it. -/
theorem unmarked_cons_render_iff (form : HyphenForm) (c : Char) (rest : Text) :
    Unmarked (c :: render form rest) ↔ Unmarked (c :: rest) := by
  have feed : ['\n'] <+: render form rest ↔ ['\n'] <+: rest :=
    prefix_render_iff (by decide) (by decide) (by decide) form rest
  have entity : ['#', '8', '2', '0', '9', ';'] <+: render form rest ↔
      ['#', '8', '2', '0', '9', ';'] <+: rest :=
    prefix_render_iff (by decide) (by decide) (by decide) form rest
  rw [unmarked_cons_iff, unmarked_cons_iff, feed, entity]

theorem mark_mem_exchanges (form : HyphenForm) : (form.mark, ['-']) ∈ exchanges := by
  cases form <;> decide

/-- A text and its display are read back alike. -/
theorem plain_render (form : HyphenForm) (text : Text) :
    plain (render form text) = plain text := by
  have noHyphen : ∀ exchange ∈ exchanges, '-' ∉ exchange.1 := by decide
  induction text using exchange_induction with
  | nil => rfl
  | token exchange member rest ih =>
      rw [render_append_of_not_mem (noHyphen exchange member), plain_token_append member,
        plain_token_append member, ih]
  | other c rest unmarked ih =>
      by_cases hyphen : c = '-'
      · have mark : plain (form.mark ++ render form rest) = ['-'] ++ plain (render form rest) :=
          plain_token_append (mark_mem_exchanges form) (render form rest)
        rw [render_cons, if_pos hyphen, mark, ih, plain_cons_of_unmarked unmarked, hyphen,
          List.singleton_append]
      · have unmarked' := (unmarked_cons_render_iff form c rest).2 unmarked
        rw [render_cons, if_neg hyphen, List.singleton_append, plain_cons_of_unmarked unmarked', ih,
          plain_cons_of_unmarked unmarked]

/-- A text is free of line feeds and of marks of both forms. -/
def Bare (text : Text) : Prop :=
  '\n' ∉ text ∧ '\u2011' ∉ text ∧ ¬ HyphenForm.mark .entity <:+: text

theorem not_bare_token_append {exchange : Text × Text} (member : exchange ∈ exchanges)
    (rest : Text) : ¬ Bare (exchange.1 ++ rest) := by
  intro h
  rcases h with ⟨noFeed, noMark, noEntity⟩
  simp only [exchanges, List.mem_cons, List.not_mem_nil, or_false] at member
  rcases member with rfl | rfl | rfl | rfl
  · exact noFeed (by simp)
  · exact noFeed (by simp)
  · exact noEntity (List.prefix_append _ rest).isInfix
  · exact noMark (by simp [HyphenForm.mark])

theorem bare_cons_iff {c : Char} {rest : Text} (unmarked : Unmarked (c :: rest)) :
    Bare (c :: rest) ↔ Bare rest := by
  obtain ⟨-, noFeed, -, noMark⟩ := (unmarked_cons_iff c rest).1 unmarked
  have noEntity : ¬ HyphenForm.mark .entity <+: c :: rest :=
    unmarked (HyphenForm.mark .entity, ['-']) (mark_mem_exchanges .entity)
  simp only [Bare, List.mem_cons, List.infix_cons_iff, noEntity, Ne.symm noFeed, Ne.symm noMark,
    false_or]

/-- What takes the place of a token differs from it at the front. -/
theorem plain_token_append_ne {exchange : Text × Text} (member : exchange ∈ exchanges)
    (rest : Text) : plain (exchange.1 ++ rest) ≠ exchange.1 ++ rest := by
  have heads : ∀ exchange ∈ exchanges,
      exchange.1 ≠ [] ∧ exchange.2 ≠ [] ∧ exchange.1.head? ≠ exchange.2.head? := by decide
  obtain ⟨nonempty, nonempty', differ⟩ := heads exchange member
  intro same
  have sameHead := congrArg List.head? same
  rw [plain_token_append member, List.head?_append_of_ne_nil _ nonempty',
    List.head?_append_of_ne_nil _ nonempty] at sameHead
  exact differ sameHead.symm

/-- The texts that are read back as they are. -/
theorem plain_eq_self_iff (text : Text) : plain text = text ↔ Bare text := by
  induction text using exchange_induction with
  | nil => exact iff_of_true rfl ⟨by simp, by simp, by decide⟩
  | token exchange member rest ih =>
      exact iff_of_false (plain_token_append_ne member rest) (not_bare_token_append member rest)
  | other c rest unmarked ih =>
      rw [plain_cons_of_unmarked unmarked, bare_cons_iff unmarked, ← ih, List.cons_inj_right]

/-- What is read back from a display is what is read back from the text itself,
and it is the text itself exactly if the text is free of line feeds and of
marks of both forms. -/
theorem plain_render_round_trip (form : HyphenForm) (text : Text) :
    plain (render form text) = plain text ∧
      (plain (render form text) = text ↔
        '\n' ∉ text ∧ '\u2011' ∉ text ∧ ¬ HyphenForm.mark .entity <:+: text) := by
  refine ⟨plain_render form text, ?_⟩
  rw [plain_render]
  exact plain_eq_self_iff text

end Display

end SampleLine
