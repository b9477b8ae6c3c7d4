/-
What a session holds, told from the actions that its steps come to.  The last of
them decides the content, and their number is the number of writes.
-/
import Mathlib.Data.List.Induction
import SampleLine.Proofs.Sample.Recognition
import SampleLine.Session

namespace SampleLine

namespace Session

/-- The action that a step comes to.  A name that stands for none comes to nothing,
and neither does reading back. -/
def Step.effect? : Step → Option Action
  | .act action => some action
  | .named name => (Action.resolve name).toOption
  | .readBack => none

def effects (steps : List Step) : List Action := steps.filterMap Step.effect?

theorem effects_append_of_some {step : Step} {action : Action} (effect : step.effect? = some action)
    (steps : List Step) : effects (steps ++ [step]) = effects steps ++ [action] := by
  simp [effects, effect]

theorem effects_append_of_none {step : Step} (nothing : step.effect? = none) (steps : List Step) :
    effects (steps ++ [step]) = effects steps := by
  simp [effects, nothing]

theorem step_named_of_ok {name : Text} {action : Action}
    (resolved : Action.resolve name = .ok action) (session : Session) :
    session.step (.named name) = (session.perform action, .fired action) := by
  simp only [Session.step, resolved]

theorem step_named_of_error {name : Text} {error : NameError}
    (refused : Action.resolve name = .error error) (session : Session) :
    session.step (.named name) = (session, .refused error) := by
  simp only [Session.step, refused]

theorem step_fst_of_some {step : Step} {action : Action} (effect : step.effect? = some action)
    (session : Session) : (session.step step).1 = session.perform action := by
  cases step with
  | act other =>
      cases effect
      rfl
  | named name =>
      cases resolved : Action.resolve name with
      | ok other =>
          simp only [Step.effect?, resolved, Except.toOption, Option.some.injEq] at effect
          rw [step_named_of_ok resolved, effect]
      | error error => simp [Step.effect?, resolved, Except.toOption] at effect
  | readBack => cases effect

theorem step_fst_of_none {step : Step} (nothing : step.effect? = none) (session : Session) :
    (session.step step).1 = session := by
  cases step with
  | act action => cases nothing
  | named name =>
      cases resolved : Action.resolve name with
      | ok action => simp [Step.effect?, resolved, Except.toOption] at nothing
      | error error => rw [step_named_of_error resolved]
  | readBack => rfl

/-- What a session is after some actions. -/
structure Shows (form : HyphenForm) (initial : Text) (done : List Action) (session : Session) :
    Prop where
  form_eq : session.form = form
  content_eq : session.content = (done.getLast?.map (Action.content form)).getD initial
  writes_eq : session.writes = done.length

variable {form : HyphenForm} {initial : Text}

theorem shows_start (options : Options) (initial : Text) :
    Shows options.form initial [] (start options initial) :=
  ⟨rfl, rfl, rfl⟩

theorem Shows.perform {done : List Action} {session : Session}
    (shows : Shows form initial done session) (action : Action) :
    Shows form initial (done ++ [action]) (session.perform action) := by
  refine ⟨shows.form_eq, ?_, ?_⟩
  · rw [List.getLast?_concat, Option.map_some, Option.getD_some, ← shows.form_eq]
    rfl
  · rw [List.length_append, ← shows.writes_eq]
    rfl

theorem Shows.step {steps : List Step} {session : Session}
    (shows : Shows form initial (effects steps) session) (step : Step) :
    Shows form initial (effects (steps ++ [step])) (session.step step).1 := by
  cases effect : step.effect? with
  | none =>
      rw [effects_append_of_none effect, step_fst_of_none effect]
      exact shows
  | some action =>
      rw [effects_append_of_some effect, step_fst_of_some effect]
      exact shows.perform action

theorem final_append_singleton (session : Session) (steps : List Step) (step : Step) :
    session.final (steps ++ [step]) = ((session.final steps).step step).1 := by
  rw [final, List.foldl_append]
  rfl

theorem shows_final (options : Options) (initial : Text) (steps : List Step) :
    Shows options.form initial (effects steps) ((start options initial).final steps) := by
  induction steps using List.reverseRecOn with
  | nil => exact shows_start options initial
  | append_singleton steps step ih =>
      rw [final_append_singleton]
      exact ih.step step

/-- The outcome of a step among others is its outcome in the session before it. -/
theorem getElem?_run (session : Session) (steps : List Step) (step : Step) (later : List Step) :
    (session.run (steps ++ step :: later))[steps.length]? =
      some ((session.final steps).step step) := by
  induction steps generalizing session with
  | nil => rfl
  | cons first steps ih =>
      rw [List.cons_append, run, List.length_cons, List.getElem?_cons_succ, ih]
      rfl

/-- Each outcome of a run is that of one of its steps in some session. -/
theorem exists_step_of_mem_run {session : Session} {steps : List Step} {outcome : Session × Reply}
    (member : outcome ∈ session.run steps) :
    ∃ step ∈ steps, ∃ before : Session, outcome = before.step step := by
  induction steps generalizing session with
  | nil => cases member
  | cons step steps ih =>
      rcases List.mem_cons.1 member with rfl | member
      · exact ⟨step, List.mem_cons_self, session, rfl⟩
      · obtain ⟨other, among, before, same⟩ := ih member
        exact ⟨other, List.mem_cons_of_mem step among, before, same⟩

def withVerbose (session : Session) (verbose : Bool) : Session :=
  { session with verbose }

theorem step_withVerbose (session : Session) (verbose : Bool) (step : Step) :
    (session.withVerbose verbose).step step =
      ((session.step step).1.withVerbose verbose, (session.step step).2) := by
  cases step with
  | act action => rfl
  | named name =>
      cases resolved : Action.resolve name with
      | ok action =>
          rw [step_named_of_ok resolved, step_named_of_ok resolved]
          rfl
      | error error => rw [step_named_of_error resolved, step_named_of_error resolved]
  | readBack => rfl

theorem run_withVerbose (session : Session) (verbose : Bool) (steps : List Step) :
    (session.withVerbose verbose).run steps =
      (session.run steps).map fun outcome => (outcome.1.withVerbose verbose, outcome.2) := by
  induction steps generalizing session with
  | nil => rfl
  | cons step steps ih => rw [run, run, List.map_cons, step_withVerbose, ih]

theorem start_withVerbose {options other : Options} (same : other.form = options.form)
    (content : Text) :
    start other content = (start options content).withVerbose other.verbose := by
  rw [start, start, withVerbose, same]

/-- After each step the content is what the last action wrote, or the first content
without one, and the writes are as many as the actions.  A step that comes to no
action leaves the session alone.  The sample on display is read back as it was and
is recognised.  Under other options with the same form of the hyphens every step leaves
the same content and the same count and is answered alike: only the flag differs. -/
theorem run_shows_last_effect (options : Options) (initial : Text) (steps : List Step)
    (step : Step) (later : List Step) :
    let before := (start options initial).final steps
    let after := (before.step step).1
    let done := effects (steps ++ [step])
    ((start options initial).run (steps ++ step :: later))[steps.length]? =
        some (before.step step) ∧
      (done = [] → after.content = initial) ∧
      (done.getLast? = some .clear → after.content = [] ∧ Display.plain after.content = []) ∧
      (done.getLast? = some .sample →
        after.content = Display.render options.form Sample.line ∧
          Display.plain after.content = Sample.line ∧ Sample.isInvokedBy after.content = true) ∧
      after.writes = done.length ∧
      (step.effect? = none → after = before) ∧
      ∀ other : Options, other.form = options.form →
        (start other initial).run (steps ++ step :: later) =
          ((start options initial).run (steps ++ step :: later)).map fun outcome =>
            (outcome.1.withVerbose other.verbose, outcome.2) := by
  intro before after done
  have shows : Shows options.form initial done after :=
    (shows_final options initial steps).step step
  have content := shows.content_eq
  refine ⟨getElem?_run _ steps step later, ?_, ?_, ?_, shows.writes_eq, ?_, ?_⟩
  · intro nothing
    rw [content, nothing]
    rfl
  · intro cleared
    rw [content, cleared]
    exact ⟨rfl, rfl⟩
  · intro shown
    rw [content, shown]
    exact ⟨rfl, Sample.plain_render_line options.form,
      Sample.isInvokedBy_render Sample.isInvokedBy_line options.form⟩
  · intro nothing
    exact step_fst_of_none nothing before
  · intro other same
    rw [start_withVerbose same, run_withVerbose]

example :
    (start Options.default ['a']).final
        [.act .sample, .named ['x'], .named ['c', 'l', 'e', 'a', 'r']] =
      ⟨.entity, [], 2, false⟩ := by decide +kernel

end Session

end SampleLine
