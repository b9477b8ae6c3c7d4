/-
The sample on display.  It is read back as it was, and still recognised.  The entry
point shares no character with what display and reading back exchange, so neither
makes a text into the sample or keeps it from being recognised.
-/
import SampleLine.Page.Step
import SampleLine.Proofs.Hyphen.Plain

namespace SampleLine

namespace Sample

open Display

/-- The entry point shares no character with a token or with what takes its place. -/
theorem entryPoint_apart : ∀ exchange ∈ exchanges, ∀ c ∈ entryPoint,
    c ∉ exchange.1 ∧ c ∉ exchange.2 := by
  have apart : exchanges.all (fun exchange =>
      entryPoint.all fun c => c ∉ exchange.1 ∧ c ∉ exchange.2) = true := by decide +kernel
  simpa only [List.all_eq_true, decide_eq_true_eq] using apart

theorem isInvokedBy_replaceAll {first start : Char} {later final : Text}
    (apart : ∀ c ∈ entryPoint, c ∉ first :: later ∧ c ∉ start :: final) (text : Text) :
    isInvokedBy (Text.replaceAll (first :: later) (start :: final) text) = isInvokedBy text := by
  rw [Bool.eq_iff_iff, isInvokedBy, isInvokedBy, Text.occursIn_iff, Text.occursIn_iff]
  exact Text.infix_replaceAll_iff (fun c member => (apart c member).1)
    (fun c member => (apart c member).2) text

theorem isInvokedBy_plain (text : Text) : isInvokedBy (plain text) = isInvokedBy text := by
  have apart := entryPoint_apart
  simp only [exchanges, HyphenForm.mark, List.forall_mem_cons, List.not_mem_nil, false_implies,
    implies_true, and_true] at apart
  obtain ⟨pair, feed, entity, mark⟩ := apart
  rw [plain_eq, isInvokedBy_replaceAll mark, isInvokedBy_replaceAll entity,
    isInvokedBy_replaceAll feed, isInvokedBy_replaceAll pair]

/-- A text and its display are recognised alike. -/
theorem isInvokedBy_render_eq (form : HyphenForm) (text : Text) :
    isInvokedBy (render form text) = isInvokedBy text := by
  rw [← isInvokedBy_plain, plain_render, isInvokedBy_plain]

theorem isInvokedBy_render {text : Text} (invoked : isInvokedBy text = true)
    (form : HyphenForm) : isInvokedBy (render form text) = true := by
  rw [isInvokedBy_render_eq, invoked]

/-- A text is the sample when the entry point occurs in it, and it is so alike before
and behind display, before and behind reading back, and for a page that is asked. -/
theorem recognised_alike (form : HyphenForm) (text : Text) :
    (isInvokedBy text = true ↔ entryPoint <:+: text) ∧
      isInvokedBy (plain text) = isInvokedBy text ∧
      isInvokedBy (render form text) = isInvokedBy text ∧
      ∀ page : Page, page.step (.recognise text) = page.quiet (.flag (isInvokedBy text)) := by
  refine ⟨Text.occursIn_iff entryPoint text, isInvokedBy_plain text,
    isInvokedBy_render_eq form text, ?_⟩
  intro page
  rw [Page.step, isInvokedBy_plain]

/-- The sample names its own entry point, and it holds nothing that is read back as
something else.  These are decided together: what costs is the spelling out of its
letters. -/
theorem line_spelling :
    (line.all fun c => c != '\n' && c != '\u2011') = true ∧
      Text.occursIn (HyphenForm.mark .entity) line = false ∧ isInvokedBy line = true := by
  decide +kernel

theorem isInvokedBy_line : isInvokedBy line = true := line_spelling.2.2

theorem bare_line : Bare line := by
  obtain ⟨kept, noEntity, -⟩ := line_spelling
  have differs : ∀ c ∈ line, c ≠ '\n' ∧ c ≠ '\u2011' := by
    simpa only [List.all_eq_true, Bool.and_eq_true, bne_iff_ne] using kept
  refine ⟨fun member => (differs _ member).1 rfl, fun member => (differs _ member).2 rfl, ?_⟩
  rw [← Text.occursIn_iff, noEntity]
  exact Bool.false_ne_true

theorem plain_render_line (form : HyphenForm) : plain (render form line) = line := by
  rw [plain_render]
  exact (plain_eq_self_iff line).2 bare_line

end Sample

end SampleLine
