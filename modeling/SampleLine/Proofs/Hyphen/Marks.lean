/-
Marks written as hyphens.  Display says no more of a text than what is left of it once
its marks of that form are hyphens too, so this tells which texts are displayed alike.
It is also all that reading back does to a display, and a display is what comes out
again when it is read back and displayed once more.
-/
import Mathlib.Data.List.Infix
import Mathlib.Data.Set.Operations
import SampleLine.Proofs.Hyphen.Scan

namespace SampleLine

namespace Display

open Text

/-- A text with its marks of one form written as hyphens. -/
def unmark (form : HyphenForm) (text : Text) : Text :=
  replaceAll form.mark ['-'] text

theorem mark_ne_nil (form : HyphenForm) : form.mark ≠ [] := by
  cases form <;> decide

theorem hyphen_not_mem_mark (form : HyphenForm) : '-' ∉ form.mark := by
  cases form <;> decide

theorem mark_apart_hyphen (form : HyphenForm) : ∀ c ∈ form.mark, c ∉ ['-'] := by
  cases form <;> simp [HyphenForm.mark]

/-- The marks of the two forms share no character. -/
theorem mark_apart (form : HyphenForm) : ∀ c ∈ form.other.mark, c ∉ form.mark := by
  cases form <;> simp [HyphenForm.other, HyphenForm.mark]

/-- Displaying the text behind a character makes no mark start at it. -/
theorem mark_prefix_cons_render_iff (sought form : HyphenForm) (c : Char) (rest : Text) :
    sought.mark <+: c :: render form rest ↔ sought.mark <+: c :: rest := by
  cases sought with
  | entity =>
      rw [HyphenForm.mark, List.cons_prefix_cons, List.cons_prefix_cons,
        prefix_render_iff (by decide) (by decide) (by decide)]
  | character =>
      rw [HyphenForm.mark, List.cons_prefix_cons, List.cons_prefix_cons,
        prefix_render_iff (by decide) (by decide) (by decide)]

theorem unmark_mark_append (form : HyphenForm) (rest : Text) :
    unmark form (form.mark ++ rest) = '-' :: unmark form rest :=
  replaceAll_token_append (mark_ne_nil form) ['-'] rest

theorem unmark_cons_of_absent {form : HyphenForm} {c : Char} {rest : Text}
    (absent : ¬ form.mark <+: c :: rest) : unmark form (c :: rest) = c :: unmark form rest :=
  replaceAll_cons_of_absent absent ['-']

/-- Marks that are written as hyphens come back as marks in the display. -/
theorem render_unmark (form : HyphenForm) (text : Text) :
    render form (unmark form text) = render form text := by
  induction text using token_induction (mark_ne_nil form) with
  | nil => rfl
  | found rest ih =>
      rw [unmark_mark_append, render_cons, if_pos rfl, ih,
        render_append_of_not_mem (hyphen_not_mem_mark form)]
  | absent c rest other ih => rw [unmark_cons_of_absent other, render_cons, render_cons, ih]

/-- The marks that display puts in join with nothing next to them, so they are all found
again. -/
theorem unmark_render (form : HyphenForm) (text : Text) :
    unmark form (render form text) = unmark form text := by
  induction text using token_induction (mark_ne_nil form) with
  | nil => rfl
  | found rest ih =>
      rw [render_append_of_not_mem (hyphen_not_mem_mark form), unmark_mark_append,
        unmark_mark_append, ih]
  | absent c rest other ih =>
      rw [unmark_cons_of_absent other, render_cons]
      by_cases hyphen : c = '-'
      · rw [if_pos hyphen, unmark_mark_append, ih, hyphen]
      · have other' : ¬ form.mark <+: c :: render form rest := by
          rwa [mark_prefix_cons_render_iff]
        rw [if_neg hyphen, List.singleton_append, unmark_cons_of_absent other', ih]

theorem render_eq_render_iff (form : HyphenForm) (text other : Text) :
    render form text = render form other ↔ unmark form text = unmark form other := by
  constructor
  · intro same
    rw [← unmark_render, same, unmark_render]
  · intro same
    rw [← render_unmark, same, render_unmark]

/-- Two texts are displayed alike exactly if they are the same once the marks of that
form are hyphens in both.  So display keeps texts apart that hold no such mark. -/
theorem render_collides_iff (form : HyphenForm) :
    (∀ text other, render form text = render form other ↔
      replaceAll form.mark ['-'] text = replaceAll form.mark ['-'] other) ∧
      Set.InjOn (render form) {text | ¬ form.mark <:+: text} := by
  refine ⟨render_eq_render_iff form, ?_⟩
  intro text unmarked other unmarked' same
  have merged : unmark form text = unmark form other :=
    (render_eq_render_iff form text other).1 same
  rwa [unmark, unmark, replaceAll_eq_self_of_absent unmarked,
    replaceAll_eq_self_of_absent unmarked'] at merged

example : render .entity "a-b&#8209;c\n".toList = render .entity "a&#8209;b-c\n".toList := by
  decide

theorem hyphen_not_mem_render (form : HyphenForm) (text : Text) : '-' ∉ render form text := by
  rw [mem_render_iff]
  rintro (⟨-, other⟩ | ⟨-, marked⟩)
  · exact other rfl
  · exact hyphen_not_mem_mark form marked

theorem render_of_not_mem {text : Text} (noHyphen : '-' ∉ text) (form : HyphenForm) :
    render form text = text := by
  have absent : ¬ ['-'] <:+: text := by rwa [List.singleton_infix_iff]
  exact replaceAll_eq_self_of_absent absent form.mark

/-- Display neither makes nor breaks a word that shares no character with the hyphen and
the mark. -/
theorem infix_render_iff {word : Text} {form : HyphenForm} (ofHyphen : ∀ c ∈ word, c ∉ ['-'])
    (ofMark : ∀ c ∈ word, c ∉ form.mark) (text : Text) :
    word <:+: render form text ↔ word <:+: text := by
  cases form with
  | entity => exact infix_replaceAll_iff ofHyphen ofMark text
  | character => exact infix_replaceAll_iff ofHyphen ofMark text

/-- Where nothing but marks of one form is read back, reading back writes them as hyphens. -/
theorem plain_eq_unmark {form : HyphenForm} {text : Text} (noFeed : '\n' ∉ text)
    (noOther : ¬ form.other.mark <:+: text) : plain text = unmark form text := by
  have pair : ¬ ['\r', '\n'] <:+: text := fun found =>
    noFeed (found.subset (List.mem_cons_of_mem '\r' List.mem_cons_self))
  have feed : ¬ ['\n'] <:+: text := by rwa [List.singleton_infix_iff]
  rw [plain_eq, replaceAll_eq_self_of_absent pair, replaceAll_eq_self_of_absent feed]
  cases form with
  | entity =>
      have kept : HyphenForm.mark .character <:+: unmark .entity text ↔
          HyphenForm.mark .character <:+: text :=
        infix_replaceAll_iff (mark_apart .entity) (mark_apart_hyphen .character) text
      exact replaceAll_eq_self_of_absent (fun found => noOther (kept.1 found)) ['-']
  | character =>
      rw [HyphenForm.other, HyphenForm.mark] at noOther
      rw [replaceAll_eq_self_of_absent noOther]
      rfl

/-- A text comes out again when it is read back and displayed if it is a display of a
single line in which no mark of the other form stands. -/
theorem render_plain_eq_self_iff (form : HyphenForm) (text : Text) :
    render form (plain text) = text ↔
      '-' ∉ text ∧ '\n' ∉ text ∧ ¬ form.other.mark <:+: text := by
  constructor
  · intro same
    obtain ⟨noFeed, noMark, noEntity⟩ := bare_plain text
    have noOther : ¬ form.other.mark <:+: plain text := by
      cases form with
      | entity => exact fun found => noMark ((List.singleton_infix_iff _ _).1 found)
      | character => exact noEntity
    have feedUnmarked : '\n' ∉ form.mark := by
      cases form <;> decide
    rw [← same]
    refine ⟨hyphen_not_mem_render form _, ?_, ?_⟩
    · exact fun member => noFeed (mem_of_mem_render feedUnmarked member)
    · rwa [infix_render_iff (mark_apart_hyphen form.other) (mark_apart form)]
  · rintro ⟨noHyphen, noFeed, noOther⟩
    rw [plain_eq_unmark noFeed noOther, render_unmark, render_of_not_mem noHyphen]

/-- The displays that come out again when they are read back and displayed in the same
form: no hyphen, no line feed and no mark of the other form stands in them. -/
theorem render_undoes_plain_iff (text : Text) :
    (render .entity (plain text) = text ↔ '-' ∉ text ∧ '\n' ∉ text ∧ '\u2011' ∉ text) ∧
      (render .character (plain text) = text ↔
        '-' ∉ text ∧ '\n' ∉ text ∧ ¬ HyphenForm.mark .entity <:+: text) := by
  constructor
  · rw [render_plain_eq_self_iff, HyphenForm.other, HyphenForm.mark, List.singleton_infix_iff]
  · rw [render_plain_eq_self_iff, HyphenForm.other]

end Display

end SampleLine
