/-
Verbose and silent panels.  Two scripts that differ only in which of their panels are
verbose do the same to the elements of a page and get the same answers.
-/
import Mathlib.Data.List.Forall2
import Mathlib.Data.Option.Basic
import SampleLine.Proofs.Page.Effect

namespace SampleLine

def Options.SameButVerbose (options other : Options) : Prop :=
  other = { options with verbose := other.verbose }

structure Panel.SameButVerbose (panel other : Panel) : Prop where
  element_eq : other.element = panel.element
  options : panel.options.SameButVerbose other.options

theorem Options.SameButVerbose.refl (options : Options) : options.SameButVerbose options := rfl

theorem Options.SameButVerbose.target_eq {options other : Options}
    (same : options.SameButVerbose other) : other.target = options.target := by
  rw [same]

theorem Options.SameButVerbose.form_eq {options other : Options}
    (same : options.SameButVerbose other) : other.form = options.form := by
  rw [same]

namespace Page

/-- Steps that are the same, or that ask for panels which differ at most in whether they
report. -/
inductive Step.SameButVerbose : Step → Step → Prop
  | same (step : Step) : SameButVerbose step step
  | asks {step other : Step} {name : Text} {options others : Options}
      (first : step.Asks name options) (second : other.Asks name others)
      (same : options.SameButVerbose others) : SameButVerbose step other

/-- Pages with the same elements under the same names, and with panels under the same
names that differ at most in whether they report. -/
structure SameButVerbose (page other : Page) : Prop where
  window_eq : other.window = page.window
  document_eq : other.document = page.document
  contents_eq : other.contents = page.contents
  mounted_eq : other.mounted = page.mounted
  panels : ∀ name,
    Option.Rel Panel.SameButVerbose (page.panels.get? name) (other.panels.get? name)

/-- Outcomes with the same answer on such pages.  What was reported may differ. -/
structure Outcome.SameButReports (outcome other : Outcome) : Prop where
  page : outcome.page.SameButVerbose other.page
  reply_eq : other.reply = outcome.reply

theorem SameButVerbose.refl (page : Page) : page.SameButVerbose page := by
  refine ⟨rfl, rfl, rfl, rfl, ?_⟩
  intro name
  cases page.panels.get? name with
  | none => exact .none
  | some panel => exact .some ⟨rfl, .refl panel.options⟩

namespace SameButVerbose

variable {page other : Page}

theorem locate_eq (same : page.SameButVerbose other) (target : Text) :
    other.locate target = page.locate target := by
  rw [locate, locate, same.window_eq, same.document_eq, same.mounted_eq]

theorem textOf_eq (same : page.SameButVerbose other) (element : Element) :
    other.textOf element = page.textOf element := by
  rw [textOf, textOf, same.contents_eq]

theorem elements_eq (same : page.SameButVerbose other) : other.elements = page.elements := by
  rw [elements, elements, same.mounted_eq]
  simp only [same.textOf_eq]

theorem quiet (same : page.SameButVerbose other) (reply : Reply) :
    Outcome.SameButReports (page.quiet reply) (other.quiet reply) :=
  ⟨same, rfl⟩

theorem mount (same : page.SameButVerbose other) (target content : Text) :
    (page.mount target content).SameButVerbose (other.mount target content) := by
  refine ⟨same.window_eq, same.document_eq, ?_, ?_, same.panels⟩
  · rw [Page.mount, Page.mount, same.contents_eq]
  · rw [Page.mount, Page.mount, same.mounted_eq, same.contents_eq]

theorem unmount (same : page.SameButVerbose other) (target : Text) :
    (page.unmount target).SameButVerbose (other.unmount target) := by
  refine ⟨same.window_eq, same.document_eq, same.contents_eq, ?_, same.panels⟩
  rw [Page.unmount, Page.unmount, same.mounted_eq]

theorem bind (same : page.SameButVerbose other) (name : Text) {options others : Options}
    (alike : options.SameButVerbose others) :
    Outcome.SameButReports (page.bind name options) (other.bind name others) := by
  rw [Page.bind, Page.bind, same.locate_eq, alike.target_eq]
  cases page.locate options.target with
  | error error => exact same.quiet _
  | ok element =>
      refine ⟨⟨same.window_eq, same.document_eq, same.contents_eq, same.mounted_eq, ?_⟩, rfl⟩
      intro asked
      simp only [Registry.get?_set]
      split
      · exact .some ⟨rfl, alike⟩
      · exact same.panels asked

theorem perform (same : page.SameButVerbose other) {panel panel' : Panel}
    (alike : panel.SameButVerbose panel') (action : Action) :
    Outcome.SameButReports (page.perform panel action) (other.perform panel' action) := by
  refine ⟨⟨same.window_eq, same.document_eq, ?_, same.mounted_eq, same.panels⟩, rfl⟩
  simp only [Page.perform, write, same.contents_eq, alike.element_eq, alike.options.form_eq]

/-- A step that turns to the panel of a name. -/
theorem ofHeld (same : page.SameButVerbose other) (name : Text) {first second : Panel → Outcome}
    (turn : ∀ panel panel', panel.SameButVerbose panel' →
      Outcome.SameButReports (first panel) (second panel')) :
    Outcome.SameButReports
      (match page.panels.get? name with
        | none => page.quiet .done
        | some panel => first panel)
      (match other.panels.get? name with
        | none => other.quiet .done
        | some panel => second panel) := by
  have alike := same.panels name
  generalize page.panels.get? name = held at alike ⊢
  generalize other.panels.get? name = held' at alike ⊢
  cases alike with
  | none => exact same.quiet .done
  | some alike => exact turn _ _ alike

/-- A step that is the same on both pages. -/
theorem step_same (same : page.SameButVerbose other) (step : Step) :
    Outcome.SameButReports (page.step step) (other.step step) := by
  cases step with
  | mount target content => exact (same.mount target content).quiet .done
  | unmount target => exact (same.unmount target).quiet .done
  | act action =>
      simp only [Page.step, performDefault, same.locate_eq]
      cases page.locate Options.defaultTarget with
      | error error => exact same.quiet .done
      | ok element => exact same.perform ⟨rfl, .refl Options.default⟩ action
  | plain text => exact same.quiet _
  | recognise text => exact same.quiet _
  | build name supplied =>
      simp only [Page.step]
      cases supplied.options? with
      | none => exact same.quiet _
      | some options => exact same.bind name (.refl options)
  | buildWritten name written =>
      simp only [Page.step]
      cases Options.ofJson written with
      | error diagnosis => exact same.quiet _
      | ok options => exact same.bind name (.refl options)
  | actOn name action => exact same.ofHeld name fun _ _ alike => same.perform alike action
  | content name =>
      refine same.ofHeld name fun panel panel' alike => ?_
      rw [same.textOf_eq, alike.element_eq]
      exact same.quiet _
  | target name =>
      refine same.ofHeld name fun panel panel' alike => ?_
      rw [alike.options.target_eq]
      exact same.quiet _

theorem step (same : page.SameButVerbose other) {step step' : Step}
    (alike : step.SameButVerbose step') :
    Outcome.SameButReports (page.step step) (other.step step') := by
  cases alike with
  | same => exact same.step_same step
  | asks first second alike =>
      rw [step_of_asks first, step_of_asks second]
      exact same.bind _ alike

theorem run (same : page.SameButVerbose other) {steps others : List Step}
    (alike : List.Forall₂ Step.SameButVerbose steps others) :
    List.Forall₂ Outcome.SameButReports (page.run steps) (other.run others) := by
  induction alike generalizing page other with
  | nil => exact .nil
  | cons first later ih =>
      have outcome := same.step first
      exact .cons outcome (ih outcome.page)

end SameButVerbose

/-- Two scripts whose panels differ at most in whether they report show the same elements
after every step and get the same answers, refusals with their reasons included. -/
theorem run_sameButVerbose (window document : Bool) {steps others : List Step}
    (alike : List.Forall₂ Step.SameButVerbose steps others) :
    List.Forall₂
      (fun outcome other : Outcome =>
        other.page.elements = outcome.page.elements ∧
          other.page.contents = outcome.page.contents ∧ other.reply = outcome.reply)
      ((blank window document).run steps) ((blank window document).run others) := by
  refine ((SameButVerbose.refl (blank window document)).run alike).imp ?_
  intro outcome other same
  exact ⟨same.page.elements_eq, same.page.contents_eq, same.reply_eq⟩

/-- A silent panel and a verbose one in its place show the sample alike. -/
theorem run_sameButVerbose_sample :
    let verbose : Json.Value := .object [(Options.Field.name .verbose, .boolean true)]
    let script (supplied : Options.Supplied) : List Step :=
      [.mount Options.defaultTarget [], .build ['p'] supplied, .actOn ['p'] .sample]
    List.Forall₂ Step.SameButVerbose (script .absent) (script (.given verbose)) ∧
      List.Forall₂
        (fun outcome other : Outcome =>
          other.page.elements = outcome.page.elements ∧
            other.page.contents = outcome.page.contents ∧ other.reply = outcome.reply)
        ((blank true true).run (script .absent))
        ((blank true true).run (script (.given verbose))) := by
  intro verbose script
  have silent : Step.Asks ['p'] Options.default (.build ['p'] .absent) := .build rfl
  have loud : Step.Asks ['p'] { Options.default with verbose := true }
      (.build ['p'] (.given verbose)) := .build rfl
  have alike : List.Forall₂ Step.SameButVerbose (script .absent) (script (.given verbose)) :=
    .cons (.same _) (.cons (.asks silent loud rfl) (.cons (.same _) .nil))
  exact ⟨alike, run_sameButVerbose true true alike⟩

end Page

end SampleLine
