/-
Actions on the default element.  Where one is mounted, such an action does what a
panel with the default options does that is built for it.  Where none is, it does
nothing, and no such panel is built.
-/
import SampleLine.Proofs.Page.Construction

namespace SampleLine

namespace Page

variable {page : Page} {plan : Plan} {element : Element}

theorem step_act_of_locates (located : page.Locates Options.defaultTarget element)
    (action : Action) :
    page.step (.act action) = page.perform ⟨element, Options.default⟩ action := by
  have found : page.locate Options.defaultTarget = .ok element := located
  simp only [Page.step, performDefault, found]

theorem step_act_of_not_locates (missing : ∀ element, ¬ page.Locates Options.defaultTarget element)
    (action : Action) : page.step (.act action) = page.quiet .done := by
  cases found : page.locate Options.defaultTarget with
  | ok element => exact absurd found (missing element)
  | error error => simp only [Page.step, performDefault, found]

/-- An action on the default element is the building of a panel with the default options
and the action of that panel, taken together and without the panel. -/
theorem step_act_eq (decoded : plan.options = .ok Options.default)
    (located : page.Locates Options.defaultTarget element) (name : Text) (action : Action) :
    let built := page.step (plan.step name)
    let acted := built.page.step (.actOn name action)
    built.reply = .done ∧ acted.reply = .done ∧
      page.step (.act action) =
        { page := { acted.page with panels := page.panels }
          reply := .done
          reports := built.reports ++ acted.reports } := by
  intro built acted
  have built_eq : built = page.bind name Options.default := step_plan_of_options decoded name
  have acted_eq : acted = built.page.perform ⟨element, Options.default⟩ action :=
    step_actOn_of_keeps (keeps_step_plan decoded located name) action
  refine ⟨?_, ?_, ?_⟩
  · rw [built_eq, bind_of_locates located]
  · rw [acted_eq]
    rfl
  · rw [step_act_of_locates located, acted_eq, built_eq, bind_of_locates located]
    rfl

/-- Where an element is mounted under the default name, an action on it is answered,
leaves the page and is reported like a panel with the default options that is built and
then acts, but for the panel itself.  Everywhere else the action does nothing at all, and
such a panel is refused with a message and leaves the page alone.  Nothing, undefined and
null give the default options. -/
theorem run_act_like_default_panel (window document : Bool) (steps : List Step) (name : Text)
    {plan : Plan} (decoded : plan.options = .ok Options.default) (action : Action)
    (later : List Step) :
    let shown := window && document
    let start := blank window document
    let page := start.final steps
    let free := page.step (.act action)
    let built := page.step (plan.step name)
    let acted := built.page.step (.actOn name action)
    start.run (steps ++ .act action :: later) =
        start.run steps ++ free :: free.page.run later ∧
      start.run (steps ++ plan.step name :: .actOn name action :: later) =
        start.run steps ++ built :: acted :: acted.page.run later ∧
      (∀ element, LocatedAfter shown steps Options.defaultTarget element →
        free.reply = .done ∧ built.reply = .done ∧ acted.reply = .done ∧
          free.page = { acted.page with panels := page.panels } ∧
          free.page.elements = acted.page.elements ∧
          free.reports = built.reports ++ acted.reports) ∧
      ((∀ element, ¬ LocatedAfter shown steps Options.defaultTarget element) →
        free = page.quiet .done ∧
          ∃ error message, FailsAfter shown steps plan error (some message) ∧
            error.message? = some message ∧ built = page.quiet (.refused error)) ∧
      ∀ value ∈ [.absent, .undefined, .given .null],
        (Plan.supplied value).options = .ok Options.default := by
  intro shown start page free built acted
  have follows : Follows shown steps page := follows_final window document steps
  refine ⟨run_append start steps _, run_append start steps _, ?_, ?_, ?_⟩
  · intro element located
    rw [← follows.locates_eq] at located
    obtain ⟨builtDone, actedDone, same⟩ := step_act_eq decoded located name action
    have same : free =
        { page := { acted.page with panels := page.panels }
          reply := .done
          reports := built.reports ++ acted.reports } := same
    rw [same]
    exact ⟨rfl, builtDone, actedDone, rfl, rfl, rfl⟩
  · intro missing
    obtain ⟨error, message, fails⟩ := failsAfter_of_not_located decoded missing
    rw [← follows.locates_eq] at missing
    exact ⟨step_act_of_not_locates missing action, error, message, fails, fails.message_eq,
      follows.step_of_failsAfter name fails⟩
  · intro value member
    exact options_eq_default member

/-- An empty object gives the default options.  A panel that is built from it shows the
sample like an action on the default element, and is refused on a blank page. -/
theorem run_act_like_default_panel_empty_object :
    let plan := Plan.written "\x7b\x7d".toList
    let mounted : List Step := [.mount Options.defaultTarget ['a']]
    let page := (blank true true).final mounted
    let built := page.step (plan.step ['p'])
    let acted := built.page.step (.actOn ['p'] .sample)
    plan.options = .ok Options.default ∧
      LocatedAfter true mounted Options.defaultTarget 0 ∧
      (page.step (.act .sample)).page.elements = acted.page.elements ∧
      (page.step (.act .sample)).reports = built.reports ++ acted.reports ∧
      (∀ element, ¬ LocatedAfter true [] Options.defaultTarget element) ∧
      (blank true true).step (.act .sample) = (blank true true).quiet .done ∧
      ∃ error, (blank true true).step (plan.step ['p']) =
        (blank true true).quiet (.refused error) := by
  intro plan mounted page built acted
  have decoded : plan.options = .ok Options.default := by cbv
  have located : LocatedAfter true mounted Options.defaultTarget 0 := by
    refine ⟨rfl, [], .mount Options.defaultTarget ['a'], [], rfl, .mount ['a'], ?_⟩
    intro middle step behind nothing
    simp at nothing
  have missing : ∀ element, ¬ LocatedAfter true [] Options.defaultTarget element := by
    intro element located
    exact not_newest_nil _ located.2
  obtain ⟨-, -, alike, -, -⟩ :=
    run_act_like_default_panel true true mounted ['p'] decoded .sample []
  obtain ⟨-, -, -, apart, -⟩ :=
    run_act_like_default_panel true true [] ['p'] decoded .sample []
  obtain ⟨-, -, -, -, elements, reports⟩ := alike 0 located
  obtain ⟨nothing, error, -, -, -, refused⟩ := apart missing
  exact ⟨decoded, located, elements, reports, missing, nothing, error, refused⟩

end Page

end SampleLine
