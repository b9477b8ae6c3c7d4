/-
The building of a panel.  It needs options that can be made out, a document and an
element, and is refused for the first of these that is missing.  A panel that is
refused leaves no trace on the page.
-/
import SampleLine.Proofs.Page.History

namespace SampleLine

namespace Page

/-- What a script builds a panel from: options that it supplies, or written ones. -/
inductive Plan where
  | supplied (options : Options.Supplied)
  | written (options : Text)
deriving Repr

def Plan.step (name : Text) : Plan → Step
  | .supplied options => .build name options
  | .written options => .buildWritten name options

/-- The options of a plan, or why they cannot be made out. -/
def Plan.options : Plan → Except PanelError Options
  | .supplied value =>
      match value.options? with
      | none => .error .unfitOptions
      | some options => .ok options
  | .written text =>
      match Options.ofJson text with
      | .error diagnosis => .error (.unreadableOptions diagnosis)
      | .ok options => .ok options

/-- Why a plan fails after a history, and what the user reads about it.  Each cause
counts only where those before it do not hold. -/
inductive FailsAfter (shown : Bool) (steps : List Step) : Plan → PanelError → Option Text → Prop
  | unfit {supplied : Options.Supplied} (unfit : supplied.options? = none) :
      FailsAfter shown steps (.supplied supplied) .unfitOptions none
  | unreadable {written : Text} {diagnosis : Json.Diagnosis}
      (unreadable : Options.ofJson written = .error diagnosis) :
      FailsAfter shown steps (.written written) (.unreadableOptions diagnosis)
        (some (Options.refusal diagnosis))
  | noDocument {plan : Plan} {options : Options} (decoded : plan.options = .ok options)
      (hidden : shown = false) :
      FailsAfter shown steps plan (.unlocated .noDocument)
        (some "no document, not running in a page?".toList)
  | notMounted {plan : Plan} {options : Options} (decoded : plan.options = .ok options)
      (visible : shown = true)
      (absent : ∀ element, ¬ MountedAfter steps options.target element) :
      FailsAfter shown steps plan (.unlocated (.notMounted options.target))
        (some ("display surface '".toList ++ options.target ++ "' not found".toList))

theorem step_plan (page : Page) (name : Text) (plan : Plan) :
    page.step (plan.step name) =
      match plan.options with
      | .error error => page.quiet (.refused error)
      | .ok options => page.bind name options := by
  cases plan with
  | supplied value =>
      cases decoded : value.options? with
      | none => simp only [Plan.step, Page.step, Plan.options, decoded]
      | some options => simp only [Plan.step, Page.step, Plan.options, decoded]
  | written text =>
      cases decoded : Options.ofJson text with
      | error diagnosis => simp only [Plan.step, Page.step, Plan.options, decoded]
      | ok options => simp only [Plan.step, Page.step, Plan.options, decoded]

variable {shown : Bool} {steps : List Step} {page : Page} {plan : Plan}

theorem step_plan_of_options {options : Options} (decoded : plan.options = .ok options)
    (name : Text) : page.step (plan.step name) = page.bind name options := by
  simp only [step_plan, decoded]

/-- A panel that was just built is kept. -/
theorem keeps_step_plan {options : Options} {element : Element}
    (decoded : plan.options = .ok options) (located : page.Locates options.target element)
    (name : Text) : (page.step (plan.step name)).page.Keeps name ⟨element, options⟩ := by
  rw [step_plan_of_options decoded, bind_of_locates located, Keeps, Registry.get?_set, if_pos rfl]

theorem FailsAfter.message_eq {error : PanelError} {message : Option Text}
    (fails : FailsAfter shown steps plan error message) : error.message? = message := by
  cases fails <;> rfl

theorem exists_failsAfter_of_options_eq_error {error : PanelError}
    (undecoded : plan.options = .error error) :
    ∃ error message, FailsAfter shown steps plan error message := by
  cases plan with
  | supplied value =>
      cases decoded : value.options? with
      | none => exact ⟨_, _, .unfit decoded⟩
      | some options => simp only [Plan.options, decoded, reduceCtorEq] at undecoded
  | written text =>
      cases decoded : Options.ofJson text with
      | error diagnosis => exact ⟨_, _, .unreadable decoded⟩
      | ok options => simp only [Plan.options, decoded, reduceCtorEq] at undecoded

/-- Where options can be made out, only the page is to blame for a failure. -/
theorem failsAfter_of_not_located {options : Options} (decoded : plan.options = .ok options)
    (missing : ∀ element, ¬ LocatedAfter shown steps options.target element) :
    ∃ error message, FailsAfter shown steps plan error (some message) := by
  cases visible : shown with
  | false => exact ⟨_, _, .noDocument decoded rfl⟩
  | true =>
      refine ⟨_, _, .notMounted decoded rfl ?_⟩
      intro element mounted
      exact missing element ⟨visible, mounted⟩

/-- A plan for which nothing is found is one that fails. -/
theorem located_or_failsAfter (shown : Bool) (steps : List Step) (plan : Plan) :
    (∃ options element, plan.options = .ok options ∧
      LocatedAfter shown steps options.target element) ∨
      ∃ error message, FailsAfter shown steps plan error message := by
  cases decoded : plan.options with
  | error error => exact .inr (exists_failsAfter_of_options_eq_error decoded)
  | ok options =>
      by_cases located : ∃ element, LocatedAfter shown steps options.target element
      · obtain ⟨element, located⟩ := located
        exact .inl ⟨options, element, rfl, located⟩
      · obtain ⟨error, message, fails⟩ :=
          failsAfter_of_not_located decoded (not_exists.1 located)
        exact .inr ⟨error, message, fails⟩

theorem Follows.locate_of_hidden (follows : Follows shown steps page) (hidden : shown = false)
    (target : Text) : page.locate target = .error .noDocument := by
  have dark : ¬ (page.window = true ∧ page.document = true) := by
    rw [← Bool.and_eq_true, follows.shown_eq, hidden]
    exact Bool.false_ne_true
  rw [locate, if_neg dark]

theorem Follows.locate_of_absent (follows : Follows shown steps page) (visible : shown = true)
    {target : Text} (absent : ∀ element, ¬ MountedAfter steps target element) :
    page.locate target = .error (.notMounted target) := by
  have lit : page.window = true ∧ page.document = true := by
    rw [← Bool.and_eq_true, follows.shown_eq, visible]
  have nothing : page.mounted.get? target = none := by
    rw [Option.eq_none_iff_forall_ne_some]
    intro element found
    exact absent element ((follows.mounted_iff target element).1 found)
  simp only [locate, if_pos lit, nothing]

/-- A plan for which an element is found builds its panel, and does nothing else to the page. -/
theorem Follows.step_of_locatedAfter (follows : Follows shown steps page) (name : Text)
    {options : Options} {element : Element} (decoded : plan.options = .ok options)
    (located : LocatedAfter shown steps options.target element) :
    (page.step (plan.step name)).reply = .done ∧
      (page.step (plan.step name)).page =
        { page with panels := page.panels.set name ⟨element, options⟩ } := by
  rw [← follows.locates_eq] at located
  rw [step_plan_of_options decoded, bind_of_locates located]
  exact ⟨rfl, rfl⟩

/-- A panel that is built is kept under its name, with the element that was found and
the options that were made out.  Under other names the page keeps what it kept. -/
theorem Follows.keeps_of_locatedAfter (follows : Follows shown steps page) (name : Text)
    {options : Options} {element : Element} (decoded : plan.options = .ok options)
    (located : LocatedAfter shown steps options.target element) :
    (page.step (plan.step name)).page.Keeps name ⟨element, options⟩ ∧
      ∀ other panel, other ≠ name →
        ((page.step (plan.step name)).page.Keeps other panel ↔ page.Keeps other panel) := by
  have found : page.Locates options.target element := by rwa [follows.locates_eq]
  refine ⟨keeps_step_plan decoded found name, ?_⟩
  intro other panel distinct
  rw [(follows.step_of_locatedAfter name decoded located).2, Keeps, Keeps, Registry.get?_set,
    if_neg distinct]

/-- A plan that fails leaves the page alone and reports nothing. -/
theorem Follows.step_of_failsAfter (follows : Follows shown steps page) (name : Text)
    {error : PanelError} {message : Option Text}
    (fails : FailsAfter shown steps plan error message) :
    page.step (plan.step name) = page.quiet (.refused error) := by
  rw [step_plan]
  cases fails with
  | unfit unfit => simp only [Plan.options, unfit]
  | unreadable unreadable => simp only [Plan.options, unreadable]
  | noDocument decoded hidden =>
      simp only [decoded, bind, follows.locate_of_hidden hidden]
  | notMounted decoded visible absent =>
      simp only [decoded, bind, follows.locate_of_absent visible absent]

theorem Follows.reply_eq_done_iff (follows : Follows shown steps page) (name : Text) (plan : Plan) :
    (page.step (plan.step name)).reply = .done ↔ ∃ options element, plan.options = .ok options ∧
      LocatedAfter shown steps options.target element := by
  constructor
  · intro done
    rcases located_or_failsAfter shown steps plan with located | ⟨error, message, fails⟩
    · exact located
    · rw [follows.step_of_failsAfter name fails] at done
      cases done
  · rintro ⟨options, element, decoded, located⟩
    exact (follows.step_of_locatedAfter name decoded located).1

/-- A plan is refused for one cause only, as a page answers it once. -/
theorem Follows.failsAfter_iff (follows : Follows shown steps page) (name : Text) (plan : Plan)
    (error : PanelError) (message : Option Text) :
    FailsAfter shown steps plan error message ↔
      (page.step (plan.step name)).reply = .refused error ∧ error.message? = message := by
  constructor
  · intro fails
    rw [follows.step_of_failsAfter name fails]
    exact ⟨rfl, fails.message_eq⟩
  · rintro ⟨refused, rfl⟩
    rcases located_or_failsAfter shown steps plan with located | ⟨first, message, fails⟩
    · rw [(follows.reply_eq_done_iff name plan).2 located] at refused
      cases refused
    · rw [follows.step_of_failsAfter name fails] at refused
      cases refused
      rwa [fails.message_eq]

theorem Follows.step_eq_quiet (follows : Follows shown steps page) {name : Text}
    (undone : (page.step (plan.step name)).reply ≠ .done) :
    page.step (plan.step name) = page.quiet (page.step (plan.step name)).reply := by
  rcases located_or_failsAfter shown steps plan with located | ⟨error, message, fails⟩
  · exact absurd ((follows.reply_eq_done_iff name plan).2 located) undone
  · rw [follows.step_of_failsAfter name fails]
    rfl

/-- Whether or not a panel is built, the elements and the names of a page stay as they are. -/
theorem Follows.page_step_plan (follows : Follows shown steps page) (name : Text) (plan : Plan) :
    (page.step (plan.step name)).page =
      { page with panels := (page.step (plan.step name)).page.panels } := by
  rcases located_or_failsAfter shown steps plan with
    ⟨options, element, decoded, located⟩ | ⟨error, message, fails⟩
  · rw [(follows.step_of_locatedAfter name decoded located).2]
  · rw [follows.step_of_failsAfter name fails]
    rfl

theorem options_eq_default {value : Options.Supplied}
    (member : value ∈ [.absent, .undefined, .given .null]) :
    (Plan.supplied value).options = .ok Options.default := by
  simp only [List.mem_cons, List.not_mem_nil, or_false] at member
  rcases member with rfl | rfl | rfl <;> rfl

/-- A panel is built when its options can be made out, a document is shown and an
element is mounted under the name that they give.  The page then keeps it under its
name, with those options and that element, and keeps the other panels.  Otherwise it
is refused for the first of these that is missing, the page is as it was before and
nothing is reported.  Either way nothing but the panels of the page can change. -/
theorem run_builds_or_refuses (window document : Bool) (steps : List Step) (name : Text)
    (plan : Plan) (later : List Step) :
    let shown := window && document
    let page := (blank window document).final steps
    let outcome := page.step (plan.step name)
    ((blank window document).run (steps ++ plan.step name :: later))[steps.length]? =
        some outcome ∧
      (outcome.reply = .done ↔ ∃ options element, plan.options = .ok options ∧ shown = true ∧
        MountedAfter steps options.target element) ∧
      (∀ options element, plan.options = .ok options → shown = true →
        MountedAfter steps options.target element →
          outcome.page.Keeps name ⟨element, options⟩ ∧
            ∀ other panel, other ≠ name →
              (outcome.page.Keeps other panel ↔ page.Keeps other panel)) ∧
      (∀ error message, FailsAfter shown steps plan error message ↔
        outcome.reply = .refused error ∧ error.message? = message) ∧
      (outcome.reply ≠ .done → outcome = page.quiet outcome.reply) ∧
      outcome.page = { page with panels := outcome.page.panels } ∧
      ∀ value ∈ [.absent, .undefined, .given .null],
        (Plan.supplied value).options = .ok Options.default := by
  intro shown page outcome
  have follows : Follows shown steps page := follows_final window document steps
  refine ⟨getElem?_run _ steps _ later, ?_, ?_, ?_, ?_, ?_, ?_⟩
  · exact follows.reply_eq_done_iff name plan
  · intro options element decoded visible mounted
    exact follows.keeps_of_locatedAfter name decoded ⟨visible, mounted⟩
  · exact follows.failsAfter_iff name plan
  · exact follows.step_eq_quiet
  · exact follows.page_step_plan name plan
  · intro value member
    exact options_eq_default member

example :
    ((blank true true).final [.mount ['a'] ['b'], .build ['p'] .absent]) =
      (blank true true).mount ['a'] ['b'] := by decide

end Page

end SampleLine
