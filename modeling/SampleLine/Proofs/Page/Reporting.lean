/-
What the panels of a page report.  A verbose panel reports when it is built and
when it acts, each time with one call, and nothing else is ever reported.  Whether
a panel is verbose was settled when it was built.
-/
import SampleLine.Proofs.Page.History

namespace SampleLine

/-- The call by which a report reaches the console: its level, the tag and the text. -/
def Report.call (report : Report) : Level × Text × Text :=
  (report.level, Report.tag, report.text)

namespace Page

/-- The reports of a step: that of a panel which is built, that of a panel which acts,
or none. -/
inductive Reports (page : Page) : Step → List Report → Prop
  | built {step : Step} {name : Text} {panel : Panel} :
      step.Builds page.Locates name panel →
        Reports page step
          (if panel.options.verbose then
            [⟨.info, "panel bound to #".toList ++ panel.options.target⟩] else [])
  | acted {name : Text} {panel : Panel} (action : Action) :
      page.Keeps name panel →
        Reports page (.actOn name action)
          (if panel.options.verbose then [⟨.debug, action.report panel.options.form⟩] else [])
  | none {step : Step} :
      (∀ name panel, ¬ step.Builds page.Locates name panel) →
      (∀ name panel action, page.Keeps name panel → step ≠ .actOn name action) →
        Reports page step []

theorem Step.Asks.ne_actOn {step : Step} {name : Text} {options : Options}
    (asks : step.Asks name options) (other : Text) (action : Action) :
    step ≠ .actOn other action := by
  cases asks <;> nofun

theorem reports_of_asks {page : Page} {step : Step} {name : Text} {options : Options}
    (asks : step.Asks name options) : Reports page step (page.step step).reports := by
  rw [step_of_asks asks]
  cases found : page.locate options.target with
  | ok element =>
      have builds : step.Builds page.Locates name ⟨element, options⟩ := ⟨asks, found⟩
      rw [bind_of_locates found]
      exact Reports.built builds
  | error error =>
      simp only [bind, found, quiet]
      refine Reports.none ?_ (fun other _ action _ => asks.ne_actOn other action)
      intro other panel builds
      obtain ⟨asks', located⟩ := builds
      rw [(asks.unique asks').2, Locates, found] at located
      contradiction

/-- An action on the default element is never reported. -/
theorem reports_performDefault (page : Page) (action : Action) :
    (page.performDefault action).reports = [] := by
  rw [performDefault]
  split <;> rfl

/-- A step that neither asks for a panel nor lets one act reports nothing. -/
theorem reports_of_silent {page : Page} {step : Step}
    (asks : ∀ name options, ¬ step.Asks name options)
    (acts : ∀ name panel action, page.Keeps name panel → step ≠ .actOn name action) :
    (page.step step).reports = [] := by
  cases step with
  | mount target content => rfl
  | unmount target => rfl
  | act action => exact reports_performDefault page action
  | plain text => rfl
  | recognise text => rfl
  | build name supplied =>
      cases decoded : supplied.options? with
      | some options => exact absurd (Step.Asks.build decoded) (asks name options)
      | none => simp only [Page.step, decoded, quiet]
  | buildWritten name written =>
      cases decoded : Options.ofJson written with
      | ok options => exact absurd (Step.Asks.buildWritten decoded) (asks name options)
      | error diagnosis => simp only [Page.step, decoded, quiet]
  | actOn name action =>
      cases held : page.panels.get? name with
      | some panel => exact absurd rfl (acts name panel action held)
      | none => simp only [Page.step, held, quiet]
  | content name =>
      rw [Page.step]
      split <;> rfl
  | target name =>
      rw [Page.step]
      split <;> rfl

theorem reports_step (page : Page) (step : Step) : Reports page step (page.step step).reports := by
  by_cases asks : ∃ name options, step.Asks name options
  · obtain ⟨name, options, asks⟩ := asks
    exact reports_of_asks asks
  · by_cases acts : ∃ name panel action, page.Keeps name panel ∧ step = .actOn name action
    · obtain ⟨name, panel, action, kept, rfl⟩ := acts
      rw [step_actOn_of_keeps kept]
      exact Reports.acted action kept
    · simp only [not_exists] at asks
      simp only [not_exists, not_and] at acts
      rw [reports_of_silent asks acts]
      exact Reports.none (fun name panel builds => asks name panel.options builds.1) acts

/-- A step after a history makes a call.  What a panel that acts reports about the sample
is the number of bytes that its element holds then. -/
inductive CallsAfter (shown : Bool) (steps : List Step) : Step → Level × Text × Text → Prop
  | bound {step : Step} {name : Text} {panel : Panel}
      (builds : step.Builds (LocatedAfter shown steps) name panel)
      (verbose : panel.options.verbose = true) :
      CallsAfter shown steps step
        (.info, "[panel]".toList, "panel bound to #".toList ++ panel.options.target)
  | cleared {name : Text} {panel : Panel} (held : HeldAfter shown steps name panel)
      (verbose : panel.options.verbose = true) :
      CallsAfter shown steps (.actOn name .clear) (.debug, "[panel]".toList, "cleared".toList)
  | written {name : Text} {panel : Panel} {text : Text} (held : HeldAfter shown steps name panel)
      (verbose : panel.options.verbose = true)
      (holds : HoldsAfter shown (steps ++ [.actOn name .sample]) panel.element text) :
      CallsAfter shown steps (.actOn name .sample)
        (.debug, "[panel]".toList,
          "example written (".toList ++ Nat.toDigits 10 (Text.byteSize text) ++
            " bytes)".toList)

variable {shown : Bool} {steps : List Step} {page : Page}

/-- The element of a panel that acts holds the content of the action then. -/
theorem Follows.holdsAfter_actOn_iff (follows : Follows shown steps page) {name : Text}
    {panel : Panel} (held : HeldAfter shown steps name panel) (action : Action) (text : Text) :
    HoldsAfter shown (steps ++ [.actOn name action]) panel.element text ↔
      text = action.content panel.options.form := by
  have writes : WritesAfter shown steps (.actOn name action) panel.element
      (action.content panel.options.form) := Step.Writes.bound action held
  rw [← (follows.append_singleton (.actOn name action)).contents_iff,
    follows.getElem?_of_writesAfter writes, Option.some.injEq, eq_comm]

theorem Follows.held_unique (follows : Follows shown steps page) {name : Text}
    {panel other : Panel} (held : HeldAfter shown steps name panel)
    (held' : HeldAfter shown steps name other) : other = panel := by
  rw [← follows.panels_iff] at held held'
  exact Option.some.inj (held'.symm.trans held)

/-- The one call of a panel that acts. -/
theorem Follows.callsAfter_actOn_iff (follows : Follows shown steps page) {name : Text}
    {panel : Panel} (held : HeldAfter shown steps name panel) (action : Action)
    (call : Level × Text × Text) :
    CallsAfter shown steps (.actOn name action) call ↔
      panel.options.verbose = true ∧
        call = Report.call ⟨.debug, action.report panel.options.form⟩ := by
  constructor
  · intro calls
    cases calls with
    | bound builds => cases builds.1
    | cleared held' verbose =>
        rw [← follows.held_unique held held']
        exact ⟨verbose, rfl⟩
    | written held' verbose holds =>
        rw [← follows.held_unique held held']
        rw [follows.holdsAfter_actOn_iff held'] at holds
        exact ⟨verbose, by rw [holds]; rfl⟩
  · rintro ⟨verbose, rfl⟩
    cases action with
    | clear => exact CallsAfter.cleared held verbose
    | sample =>
        exact CallsAfter.written held verbose ((follows.holdsAfter_actOn_iff held _ _).2 rfl)

/-- The one call of a panel that is built. -/
theorem Follows.callsAfter_of_builds_iff (follows : Follows shown steps page) {step : Step}
    {name : Text} {panel : Panel} (builds : step.Builds page.Locates name panel)
    (call : Level × Text × Text) :
    CallsAfter shown steps step call ↔
      panel.options.verbose = true ∧
        call = Report.call ⟨.info, "panel bound to #".toList ++ panel.options.target⟩ := by
  constructor
  · intro calls
    cases calls with
    | bound builds' verbose =>
        rw [← follows.locates_eq] at builds'
        rw [← (builds.unique builds').2]
        exact ⟨verbose, rfl⟩
    | cleared => exact absurd rfl (builds.1.ne_actOn _ _)
    | written => exact absurd rfl (builds.1.ne_actOn _ _)
  · rintro ⟨verbose, rfl⟩
    rw [follows.locates_eq] at builds
    exact CallsAfter.bound builds verbose

/-- A page calls what its history says. -/
theorem Follows.mem_calls_iff (follows : Follows shown steps page) (step : Step)
    (call : Level × Text × Text) :
    call ∈ (page.step step).reports.map Report.call ↔ CallsAfter shown steps step call := by
  have reported (verbose : Bool) (report : Report) :
      call ∈ (if verbose then [report] else []).map Report.call ↔
        verbose = true ∧ call = report.call := by
    cases verbose <;> simp
  have reports := reports_step page step
  generalize (page.step step).reports = told at reports
  cases reports with
  | built builds => rw [reported, follows.callsAfter_of_builds_iff builds]
  | acted action kept =>
      rw [follows.keeps_eq] at kept
      rw [reported, follows.callsAfter_actOn_iff kept]
  | none builds acts =>
      rw [follows.locates_eq] at builds
      rw [follows.keeps_eq] at acts
      refine iff_of_false List.not_mem_nil ?_
      intro calls
      cases calls with
      | bound builds' => exact builds _ _ builds'
      | cleared held => exact acts _ _ _ held rfl
      | written held => exact acts _ _ _ held rfl

theorem length_reports_le_one (page : Page) (step : Step) :
    (page.step step).reports.length ≤ 1 := by
  have reports := reports_step page step
  generalize (page.step step).reports = told at reports
  cases reports with
  | built => split <;> simp
  | acted => split <;> simp
  | none => exact Nat.zero_le 1

theorem reply_of_builds {page : Page} {step : Step} {name : Text} {panel : Panel}
    (builds : step.Builds page.Locates name panel) : (page.step step).reply = .done := by
  rw [step_of_asks builds.1, bind_of_locates builds.2]

/-- A step that is refused reports nothing. -/
theorem reports_of_refused {page : Page} {step : Step} {error : PanelError}
    (refused : (page.step step).reply = .refused error) : (page.step step).reports = [] := by
  have reports := reports_step page step
  generalize (page.step step).reports = told at reports
  cases reports with
  | built builds =>
      rw [reply_of_builds builds] at refused
      cases refused
  | @acted name panel action kept =>
      rw [step_actOn_of_keeps kept] at refused
      cases refused
  | none => rfl

/-- A panel that acts is held as before. -/
theorem HeldAfter.append_actOn {name : Text} {panel : Panel}
    (held : HeldAfter shown steps name panel) (other : Text) (action : Action) :
    HeldAfter shown (steps ++ [.actOn other action]) name panel := by
  rw [HeldAfter, newest_append_singleton_iff, renewed_of_none]
  · exact held
  · intro panel' builds
    cases builds.1

/-- A panel answers with what its element holds. -/
theorem Follows.reply_content_iff (follows : Follows shown steps page) {name : Text}
    {panel : Panel} (held : HeldAfter shown steps name panel) (text : Text) :
    (page.step (.content name)).reply = .text text ↔
      HoldsAfter shown steps panel.element text := by
  have kept : page.Keeps name panel := (follows.panels_iff name panel).2 held
  have old : panel.element < page.contents.length := by
    rw [follows.length_eq]
    exact held.lt_made
  have holds := follows.holdsAfter_textOf old
  rw [← follows.contents_iff] at holds
  rw [← follows.contents_iff, holds, step_content_of_keeps kept, quiet, Reply.text.injEq,
    Option.some.injEq]

/-- Each step of a script makes at most one call.  A verbose panel calls when it is built,
and when it acts, with the number of bytes that its element holds then.  No other step
calls: none on the default element, none of a panel that was not built verbose, and none
that is refused. -/
theorem run_calls (window document : Bool) (steps : List Step) (step : Step)
    (later : List Step) :
    let shown := window && document
    let page := (blank window document).final steps
    let outcome := page.step step
    ((blank window document).run (steps ++ step :: later))[steps.length]? = some outcome ∧
      outcome.reports.length ≤ 1 ∧
      (∀ call, call ∈ outcome.reports.map Report.call ↔ CallsAfter shown steps step call) ∧
      (∀ action, step = .act action → outcome.reports = []) ∧
      (∀ name panel action, HeldAfter shown steps name panel → panel.options.verbose = false →
        step = .actOn name action → outcome.reports = []) ∧
      (∀ error, outcome.reply = .refused error → outcome.reports = []) ∧
      ∀ name panel text, HeldAfter shown steps name panel → step = .actOn name .sample →
        (HoldsAfter shown (steps ++ [step]) panel.element text ↔
          (outcome.page.step (.content name)).reply = .text text) := by
  intro shown page outcome
  have follows : Follows shown steps page := follows_final window document steps
  refine ⟨getElem?_run _ steps step later, length_reports_le_one page step,
    follows.mem_calls_iff step, ?_, ?_, ?_, ?_⟩
  · rintro action rfl
    exact reports_performDefault page action
  · rintro name panel action held silent rfl
    rw [← List.map_eq_nil_iff, List.eq_nil_iff_forall_not_mem]
    intro call calls
    rw [follows.mem_calls_iff, follows.callsAfter_actOn_iff held, silent] at calls
    exact Bool.false_ne_true calls.1
  · intro error refused
    exact reports_of_refused refused
  · rintro name panel text held rfl
    have follows := follows.append_singleton (.actOn name .sample)
    exact (follows.reply_content_iff (held.append_actOn name .sample) text).symm

end Page

end SampleLine
