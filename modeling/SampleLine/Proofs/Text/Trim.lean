/-
What trimming leaves of a text.  It takes away blank characters at both ends and
leaves a text without any there, and there is only one way to do that.
-/
import Mathlib.Data.List.DropRight
import Mathlib.Data.List.TakeWhile
import SampleLine.Text.Basic

namespace SampleLine

namespace Text

def Padding (text : Text) : Prop := ∀ c ∈ text, isBlank c = true

instance (text : Text) : Decidable (Padding text) :=
  decidable_of_iff (text.all isBlank = true) List.all_eq_true

theorem Padding.nil : Padding [] := List.forall_mem_nil _

theorem Padding.append {first second : Text} (hfirst : Padding first) (hsecond : Padding second) :
    Padding (first ++ second) :=
  List.forall_mem_append.2 ⟨hfirst, hsecond⟩

structure Trimmed (text : Text) : Prop where
  front : ∀ c rest, text = c :: rest → isBlank c = false
  back : ∀ init c, text = init ++ [c] → isBlank c = false

theorem trimmed_trim (text : Text) : Trimmed (trim text) := by
  have cut : trim text <+: text.dropWhile isBlank := List.rdropWhile_prefix isBlank _
  constructor
  · intro c rest split
    obtain ⟨behind, whole⟩ := cut
    have solid := List.head?_dropWhile_not isBlank text
    rw [← whole, split, List.cons_append, List.head?_cons] at solid
    exact solid
  · intro init c split
    have nonempty : trim text ≠ [] := by simp [split]
    have solid : ¬ isBlank ((trim text).getLast nonempty) = true :=
      List.rdropWhile_last_not isBlank _ nonempty
    simpa [split] using solid

theorem exists_padding_trim (text : Text) :
    ∃ before after, Padding before ∧ Padding after ∧ text = before ++ trim text ++ after := by
  refine ⟨text.takeWhile isBlank, (text.dropWhile isBlank).rtakeWhile isBlank,
    fun c => List.mem_takeWhile_imp, fun c => List.mem_rtakeWhile_imp, ?_⟩
  have back : trim text ++ (text.dropWhile isBlank).rtakeWhile isBlank = text.dropWhile isBlank :=
    List.rdropWhile_append_rtakeWhile
  rw [List.append_assoc, back, List.takeWhile_append_dropWhile]

theorem trimEnd_append {text after : Text} (trimmed : Trimmed text) (padding : Padding after) :
    trimEnd (text ++ after) = text := by
  have blanks : ∀ c ∈ after.reverse, isBlank c = true :=
    fun c member => padding c (List.mem_reverse.1 member)
  rw [trimEnd, List.reverse_append, List.dropWhile_append_of_pos blanks]
  have last : text.rdropWhile isBlank = text := by
    rcases List.eq_nil_or_concat' text with rfl | ⟨init, c, rfl⟩
    · rfl
    · exact List.rdropWhile_concat_neg isBlank init c (by simp [trimmed.back init c rfl])
  exact last

/-- What stands between blank characters is what trimming leaves. -/
theorem trim_append {before text after : Text} (hbefore : Padding before)
    (trimmed : Trimmed text) (hafter : Padding after) : trim (before ++ text ++ after) = text := by
  rw [trim, List.append_assoc, List.dropWhile_append_of_pos hbefore]
  cases text with
  | nil =>
      rw [List.nil_append, List.dropWhile_eq_nil_iff.2 hafter]
      rfl
  | cons c rest =>
      rw [List.cons_append, List.dropWhile_cons_of_neg (by simp [trimmed.front c rest rfl]),
        ← List.cons_append, trimEnd_append trimmed hafter]

@[simp] theorem trim_trim (text : Text) : trim (trim text) = trim text := by
  simpa using trim_append Padding.nil (trimmed_trim text) Padding.nil

/-- Blank characters around a text do not show once it is trimmed. -/
theorem trim_pad {before after : Text} (hbefore : Padding before) (hafter : Padding after)
    (text : Text) : trim (before ++ text ++ after) = trim text := by
  obtain ⟨front, back, hfront, hback, whole⟩ := exists_padding_trim text
  have regroup : before ++ text ++ after = before ++ front ++ trim text ++ (back ++ after) := by
    conv_lhs => rw [whole]
    simp only [List.append_assoc]
  rw [regroup, trim_append (hbefore.append hfront) (trimmed_trim text) (hback.append hafter)]

/-- A text is made up of blank characters around a core that has none at its ends. -/
structure Framed (text before core after : Text) : Prop where
  before_blank : Padding before
  trimmed : Trimmed core
  after_blank : Padding after
  whole : text = before ++ core ++ after

variable {text before core after before' core' after' : Text}

theorem exists_framed (text : Text) : ∃ before after, Framed text before (trim text) after := by
  obtain ⟨before, after, hbefore, hafter, whole⟩ := exists_padding_trim text
  exact ⟨before, after, hbefore, trimmed_trim text, hafter, whole⟩

theorem Framed.trim_eq (framed : Framed text before core after) : trim text = core := by
  rw [framed.whole]
  exact trim_append framed.before_blank framed.trimmed framed.after_blank

/-- The first character of the core ends the blank ones before it. -/
theorem Framed.takeWhile_eq (framed : Framed text before core after) (nonempty : core ≠ []) :
    text.takeWhile isBlank = before := by
  obtain ⟨c, rest, rfl⟩ := List.exists_cons_of_ne_nil nonempty
  have solid : ¬ isBlank c = true := by simp [framed.trimmed.front c rest rfl]
  rw [framed.whole, List.append_assoc, List.takeWhile_append_of_pos framed.before_blank,
    List.cons_append, List.takeWhile_cons_of_neg solid, List.append_nil]

/-- A text has one core, and one way to put it between blanks unless it is blank. -/
theorem Framed.unique (framed : Framed text before core after)
    (framed' : Framed text before' core' after') :
    core' = core ∧ (core ≠ [] → before' = before ∧ after' = after) := by
  have same : core' = core := framed'.trim_eq.symm.trans framed.trim_eq
  refine ⟨same, fun nonempty => ?_⟩
  subst same
  have front : before' = before :=
    (framed'.takeWhile_eq nonempty).symm.trans (framed.takeWhile_eq nonempty)
  subst front
  exact ⟨rfl, List.append_cancel_left (framed'.whole.symm.trans framed.whole)⟩

/-- A blank character that is left stood in front of the last character. -/
theorem mem_dropLast_of_mem_trim {text : Text} {c : Char} (blank : isBlank c = true)
    (member : c ∈ trim text) : c ∈ text.dropLast := by
  obtain ⟨before, after, -, -, whole⟩ := exists_padding_trim text
  rcases List.eq_nil_or_concat' (trim text) with empty | ⟨init, last, split⟩
  · simp [empty] at member
  · have solid := (trimmed_trim text).back init last split
    have inside : c ∈ init := by
      rw [split, List.mem_append, List.mem_singleton] at member
      rcases member with member | rfl
      · exact member
      · rw [blank] at solid
        cases solid
    have split' : text = (before ++ init) ++ last :: after := by
      rw [whole, split]
      simp
    rw [split', List.dropLast_append_of_ne_nil (List.cons_ne_nil last after)]
    exact List.mem_append_left _ (List.mem_append_right _ inside)

end Text

end SampleLine
