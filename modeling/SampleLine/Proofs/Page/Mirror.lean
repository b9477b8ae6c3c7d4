/-
A panel on a page and a session in memory.  As long as nothing else writes the element
of the panel, it holds what a session holds that began with the same text and was asked
for the same actions, whatever else happens on the page.
-/
import SampleLine.Proofs.Page.Construction
import SampleLine.Proofs.Session.Effects

namespace SampleLine

namespace Page

/-- The action that a step asks of the panel under a name. -/
def Step.asked? (name : Text) : Step → Option Action
  | .actOn panel action => if panel = name then some action else none
  | _ => none

def asked (name : Text) (steps : List Step) : List Action := steps.filterMap (Step.asked? name)

/-- A step leaves a panel to itself: it writes the element of that panel only by letting
that panel act, and it puts no other in its place, as the name would stand for that one
from then on. -/
structure Step.Spares (page : Page) (name : Text) (element : Element) (step : Step) : Prop where
  unbuilt : ∀ panel, ¬ step.Builds page.Locates name panel
  own : ∀ text, step.Writes page.Locates page.Keeps element text →
    ∃ action, step = .actOn name action

/-- Every step of a script leaves a panel to itself, on the page that it comes to. -/
def Spares (name : Text) (element : Element) : Page → List Step → Prop
  | _, [] => True
  | page, step :: steps =>
      step.Spares page name element ∧ Spares name element (page.step step).page steps

/-- A panel is kept under a name, and its element holds what a session holds. -/
structure Mirrors (name : Text) (panel : Panel) (page : Page) (session : Session) : Prop where
  kept : page.Keeps name panel
  held : page.contents[panel.element]? = some session.content
  form_eq : session.form = panel.options.form

theorem Step.asked?_eq_some_iff {name : Text} {step : Step} {action : Action} :
    step.asked? name = some action ↔ step = .actOn name action := by
  cases step with
  | actOn panel other =>
      by_cases same : panel = name
      · simp [asked?, same]
      · simp [asked?, same]
  | _ => simp [asked?]

theorem asked_cons (name : Text) (step : Step) (steps : List Step) :
    asked name (step :: steps) = (step.asked? name).toList ++ asked name steps := by
  rw [asked, List.filterMap_cons]
  cases step.asked? name with
  | none => rfl
  | some action => rfl

theorem asked_append (name : Text) (steps later : List Step) :
    asked name (steps ++ later) = asked name steps ++ asked name later :=
  List.filterMap_append

namespace Mirrors

variable {name : Text} {panel : Panel} {page : Page} {session : Session}

theorem old (mirrors : Mirrors name panel page session) :
    panel.element < page.contents.length :=
  (List.getElem?_eq_some_iff.1 mirrors.held).1

/-- The panel itself acts. -/
theorem actOn (mirrors : Mirrors name panel page session) (action : Action) :
    Mirrors name panel (page.step (.actOn name action)).page (session.perform action) := by
  have content : (session.perform action).content = action.content panel.options.form := by
    rw [Session.perform, mirrors.form_eq]
  rw [step_actOn_of_keeps mirrors.kept]
  refine ⟨mirrors.kept, ?_, mirrors.form_eq⟩
  rw [content]
  exact List.getElem?_set_self mirrors.old

/-- Something else happens on the page. -/
theorem rest (mirrors : Mirrors name panel page session) {step : Step}
    (spares : step.Spares page name panel.element) (idle : step.asked? name = none) :
    Mirrors name panel (page.step step).page session := by
  have effect := effect_step page step
  refine ⟨?_, ?_, mirrors.form_eq⟩
  · rw [Keeps, effect.get?_panels_iff, renewed_of_none spares.unbuilt]
    exact mirrors.kept
  · rw [effect.getElem?_of_unwritten mirrors.old]
    · exact mirrors.held
    · intro text writes
      obtain ⟨action, acts⟩ := spares.own text writes
      rw [Step.asked?_eq_some_iff.2 acts] at idle
      cases idle

theorem step (mirrors : Mirrors name panel page session) {step : Step}
    (spares : step.Spares page name panel.element) :
    Mirrors name panel (page.step step).page
      (session.final ((step.asked? name).toList.map .act)) := by
  cases asks : step.asked? name with
  | none => exact mirrors.rest spares asks
  | some action =>
      rw [Step.asked?_eq_some_iff.1 asks]
      exact mirrors.actOn action

theorem final (mirrors : Mirrors name panel page session) {steps : List Step}
    (spares : Spares name panel.element page steps) :
    Mirrors name panel (page.final steps) (session.final ((asked name steps).map .act)) := by
  induction steps generalizing page session with
  | nil => exact mirrors
  | cons step steps ih =>
      obtain ⟨first, later⟩ := spares
      rw [asked_cons, List.map_append, Session.final, List.foldl_append]
      exact ih (mirrors.step first) later

theorem reply_content (mirrors : Mirrors name panel page session) :
    (page.step (.content name)).reply = .text session.content := by
  rw [step_content_of_keeps mirrors.kept, textOf, List.getD_eq_getElem?_getD, mirrors.held]
  rfl

end Mirrors

/-- A panel that was just built mirrors a session that begins with the text it found. -/
theorem mirrors_of_built {page : Page} {plan : Plan} {options : Options} {element : Element}
    {initial : Text} (name : Text) (decoded : plan.options = .ok options)
    (located : page.Locates options.target element)
    (held : page.contents[element]? = some initial) :
    Mirrors name ⟨element, options⟩ (page.step (plan.step name)).page
      (Session.start options initial) := by
  refine ⟨keeps_step_plan decoded located name, ?_, rfl⟩
  rw [step_plan_of_options decoded, bind_of_locates located]
  exact held

/-- In the session an action of the panel comes behind those that were asked before it. -/
theorem getElem?_run_asked (session : Session) (name : Text) (before : List Step)
    (action : Action) (after : List Step) :
    let script := before ++ .actOn name action :: after
    (session.run ((asked name script).map .act))[(asked name before).length]? =
      some ((session.final ((asked name before).map .act)).step (.act action)) := by
  intro script
  have asks : (Step.actOn name action).asked? name = some action :=
    Step.asked?_eq_some_iff.2 rfl
  have split : asked name script = asked name before ++ action :: asked name after := by
    rw [asked_append, asked_cons, asks]
    rfl
  have counted := Session.getElem?_run session ((asked name before).map .act) (.act action)
    ((asked name after).map .act)
  rw [List.length_map] at counted
  rw [split, List.map_append]
  exact counted

/-- Build a panel on a page, with options whose target is mounted there and holds a text.
For any steps after that which leave the panel to itself, its element holds what a session
does that began with this text and was asked for the same actions.  In particular the
answers behind the actions of the panel are, one by one, the contents behind the steps of
that session. -/
theorem run_mirrors_session {page : Page} {plan : Plan} {options : Options} {element : Element}
    {initial : Text} (name : Text) (decoded : plan.options = .ok options)
    (located : page.Locates options.target element)
    (held : page.contents[element]? = some initial) {before : List Step}
    (spares : Spares name element (page.step (plan.step name)).page before) (action : Action)
    (after : List Step) :
    let built := page.step (plan.step name)
    let session := Session.start options initial
    let script := before ++ .actOn name action :: .content name :: after
    built.reply = .done ∧
      ((built.page.final before).step (.content name)).reply =
        .text (session.final ((asked name before).map .act)).content ∧
      ∃ outcome answer,
        (session.run ((asked name script).map .act))[(asked name before).length]? =
            some outcome ∧
          (page.run (plan.step name :: script))[before.length + 2]? = some answer ∧
          answer.reply = .text outcome.1.content := by
  intro built session script
  have start : Mirrors name ⟨element, options⟩ built.page session :=
    mirrors_of_built name decoded located held
  have mirrors : Mirrors name ⟨element, options⟩ (built.page.final before)
      (session.final ((asked name before).map .act)) := start.final spares
  have acted : Mirrors name ⟨element, options⟩
      (built.page.final (before ++ [.actOn name action]))
      ((session.final ((asked name before).map .act)).perform action) := by
    rw [final_append_singleton]
    exact mirrors.actOn action
  have answered := getElem?_run page (plan.step name :: before ++ [.actOn name action])
    (.content name) after
  rw [List.append_assoc, List.length_append] at answered
  refine ⟨?_, mirrors.reply_content, _, _,
    getElem?_run_asked session name before action (.content name :: after), answered,
    acted.reply_content⟩
  simp only [built, step_plan_of_options decoded, bind_of_locates located]

/-- The element goes on mirroring when another one is mounted in its place and cleared. -/
theorem run_mirrors_session_remounted :
    let page := (blank true true).mount Options.defaultTarget ['a']
    let plan := Plan.supplied .absent
    let before : List Step := [.mount Options.defaultTarget ['b'], .act .clear]
    let session := Session.start Options.default ['a']
    plan.options = .ok Options.default ∧ page.Locates Options.defaultTarget 0 ∧
      page.contents[0]? = some ['a'] ∧
      Spares ['p'] 0 (page.step (plan.step ['p'])).page before ∧
      ∃ outcome answer,
        (session.run [.act .sample, .act .clear])[0]? = some outcome ∧
          (page.run (plan.step ['p'] :: before ++
            [.actOn ['p'] .sample, .content ['p'], .actOn ['p'] .clear]))[4]? = some answer ∧
          answer.reply = .text outcome.1.content := by
  intro page plan before session
  have decoded : plan.options = .ok Options.default := rfl
  have located : page.Locates Options.defaultTarget 0 := rfl
  have held : page.contents[0]? = some ['a'] := rfl
  have spares : Spares ['p'] 0 (page.step (plan.step ['p'])).page before := by
    refine ⟨⟨fun _ builds => (nomatch builds.1), nofun⟩,
      ⟨fun _ builds => (nomatch builds.1), ?_⟩, trivial⟩
    intro text writes
    cases writes with
    | free action located => cases located
  obtain ⟨-, -, alike⟩ :=
    run_mirrors_session ['p'] decoded located held spares .sample [.actOn ['p'] .clear]
  exact ⟨decoded, located, held, spares, alike⟩

end Page

end SampleLine
