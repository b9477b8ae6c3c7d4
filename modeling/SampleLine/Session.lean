/-
A session with one surface held in memory: a `DisplayController` of a
`BufferSurface`.  Every action replaces the whole content, and each replacement
counts as one write.
-/
import SampleLine.Action
import SampleLine.Options.Basic

namespace SampleLine

/-- A surface with the form of its hyphens and the number of writes so far.  Nobody
listens to what a session reports, so the flag is kept and no step reads it. -/
structure Session where
  form : HyphenForm
  content : Text
  writes : Nat
  verbose : Bool
deriving DecidableEq, Repr

namespace Session

inductive Step where
  | act (action : Action)
  | named (name : Text)
  | readBack
deriving DecidableEq, Repr

inductive Reply where
  | acted
  | fired (action : Action)
  | refused (error : NameError)
  | plain (text : Text)
deriving DecidableEq, Repr

/-- A session whose surface holds `content` and has not been written yet. -/
def start (options : Options) (content : Text) : Session :=
  ⟨options.form, content, 0, options.verbose⟩

def perform (session : Session) (action : Action) : Session :=
  { session with content := action.content session.form, writes := session.writes + 1 }

def step (session : Session) : Step → Session × Reply
  | .act action => (session.perform action, .acted)
  | .named name =>
      match Action.resolve name with
      | .ok action => (session.perform action, .fired action)
      | .error error => (session, .refused error)
  | .readBack => (session, .plain (Display.plain session.content))

def run (session : Session) : List Step → List (Session × Reply)
  | [] => []
  | step :: steps =>
      let next := session.step step
      next :: run next.1 steps

def final (session : Session) (steps : List Step) : Session :=
  steps.foldl (fun current step => (current.step step).1) session

theorem run_length (session : Session) (steps : List Step) :
    (session.run steps).length = steps.length := by
  induction steps generalizing session with
  | nil => rfl
  | cons step steps ih => simp [run, ih]

end Session

end SampleLine
