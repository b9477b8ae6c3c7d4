/-
What a script does with a page, what it gets back, and what the panels report.
Only an action of a panel, or one on the default element, writes an element.  `bind`
is `build` of `ExamplePanel`, and `performDefault` is `with_default_panel`.
-/
import SampleLine.Options.Reader
import SampleLine.Options.Supplied
import SampleLine.Page.Basic

namespace SampleLine

inductive Level where
  | info
  | debug
deriving DecidableEq, Repr

structure Report where
  level : Level
  text : Text
deriving DecidableEq, Repr

/-- The tag before every report. -/
def Report.tag : Text := "[panel]".toList

inductive PanelError where
  | unfitOptions
  | unreadableOptions (diagnosis : Json.Diagnosis)
  | unlocated (error : LocateError)
deriving DecidableEq, Repr

/-- What the user reads when a panel could not be built.  Options that do not
fit are refused without a word. -/
def PanelError.message? : PanelError → Option Text
  | .unfitOptions => none
  | .unreadableOptions diagnosis => some (Options.refusal diagnosis)
  | .unlocated error => some error.message

namespace Page

/-- What a script does. -/
inductive Step where
  /-- Mount a new element. -/
  | mount (target content : Text)
  /-- Take an element away. -/
  | unmount (target : Text)
  /-- Act on the element that is mounted under the default name. -/
  | act (action : Action)
  /-- Turn displayed text back into plain text. -/
  | plain (text : Text)
  /-- Ask whether displayed text is the sample. -/
  | recognise (text : Text)
  /-- Build a panel with options that the script supplies. -/
  | build (panel : Text) (options : Options.Supplied)
  /-- Build a panel with written options. -/
  | buildWritten (panel : Text) (options : Text)
  /-- Act on the element of a panel. -/
  | actOn (panel : Text) (action : Action)
  /-- Ask for the text of a panel's element. -/
  | content (panel : Text)
  /-- Ask for the name that a panel was built with. -/
  | target (panel : Text)
deriving Repr

inductive Reply where
  | done
  | text (text : Text)
  | flag (flag : Bool)
  | refused (error : PanelError)
deriving DecidableEq, Repr

/-- The page after a step, with the answer and the reports of that step. -/
structure Outcome where
  page : Page
  reply : Reply
  reports : List Report
deriving DecidableEq, Repr

def quiet (page : Page) (reply : Reply) : Outcome := ⟨page, reply, []⟩

/-- Build a panel and keep it under its name, in the place of an older one. -/
def bind (page : Page) (name : Text) (options : Options) : Outcome :=
  match page.locate options.target with
  | .error error => page.quiet (.refused (.unlocated error))
  | .ok element =>
      { page := { page with panels := page.panels.set name ⟨element, options⟩ }
        reply := .done
        reports :=
          if options.verbose then [⟨.info, "panel bound to #".toList ++ options.target⟩] else [] }

def perform (page : Page) (panel : Panel) (action : Action) : Outcome :=
  { page := page.write panel.element (action.content panel.options.form)
    reply := .done
    reports :=
      if panel.options.verbose then [⟨.debug, action.report panel.options.form⟩] else [] }

/-- Act on the element under the default name.  Without one nothing happens. -/
def performDefault (page : Page) (action : Action) : Outcome :=
  match page.locate Options.defaultTarget with
  | .error _ => page.quiet .done
  | .ok element => page.perform ⟨element, Options.default⟩ action

/-- One step of a script.  A panel that was never built does nothing. -/
def step (page : Page) : Step → Outcome
  | .mount target content => (page.mount target content).quiet .done
  | .unmount target => (page.unmount target).quiet .done
  | .act action => page.performDefault action
  | .plain text => page.quiet (.text (Display.plain text))
  | .recognise text => page.quiet (.flag (Sample.isInvokedBy (Display.plain text)))
  | .build name supplied =>
      match supplied.options? with
      | none => page.quiet (.refused .unfitOptions)
      | some options => page.bind name options
  | .buildWritten name written =>
      match Options.ofJson written with
      | .error diagnosis => page.quiet (.refused (.unreadableOptions diagnosis))
      | .ok options => page.bind name options
  | .actOn name action =>
      match page.panels.get? name with
      | none => page.quiet .done
      | some panel => page.perform panel action
  | .content name =>
      match page.panels.get? name with
      | none => page.quiet .done
      | some panel => page.quiet (.text (page.textOf panel.element))
  | .target name =>
      match page.panels.get? name with
      | none => page.quiet .done
      | some panel => page.quiet (.text panel.options.target)

def run (page : Page) : List Step → List Outcome
  | [] => []
  | step :: steps =>
      let outcome := page.step step
      outcome :: run outcome.page steps

def final (page : Page) (steps : List Step) : Page :=
  steps.foldl (fun current step => (current.step step).page) page

theorem run_length (page : Page) (steps : List Step) : (page.run steps).length = steps.length := by
  induction steps generalizing page with
  | nil => rfl
  | cons step steps ih => simp [run, ih]

end Page

end SampleLine
