/-
The two routes to a panel: options that a script supplies as an object, and options that
are written as a text of that object.  Both build the same panel or none.
-/
import SampleLine.Proofs.Options.Order
import SampleLine.Proofs.Page.Construction

namespace SampleLine

namespace Page

theorem options?_object (entries : List (Text × Json.Value)) :
    Options.Supplied.options? (.given (.object entries)) = Options.ofValue? (.object entries) :=
  rfl

theorem Plan.options_object_eq_ok_iff (entries : List (Text × Json.Value)) (options : Options) :
    (Plan.supplied (.given (.object entries))).options = .ok options ↔
      options.GivenBy (.object entries) := by
  rw [← Options.ofValue?_eq_some_iff, Plan.options, options?_object]
  cases Options.ofValue? (.object entries) <;> simp

theorem Plan.options_written_eq_ok_iff (text : Text) (options : Options) :
    (Plan.written text).options = .ok options ↔ Options.ofJson text = .ok options := by
  rw [Plan.options]
  cases Options.ofJson text <;> simp

/-- Plans of which the same options are made out, if any. -/
def Plan.Alike (first second : Plan) : Prop :=
  ∀ options, first.options = .ok options ↔ second.options = .ok options

namespace Plan.Alike

variable {first second : Plan}

/-- Only refused options tell the plans apart. -/
theorem step_eq (alike : first.Alike second) {options : Options}
    (decoded : first.options = .ok options) (page : Page) (name : Text) :
    page.step (second.step name) = page.step (first.step name) := by
  rw [step_plan_of_options decoded, step_plan_of_options ((alike options).1 decoded)]

theorem reply_eq_done_iff (alike : first.Alike second) {shown : Bool} {steps : List Step}
    {page : Page} (follows : Follows shown steps page) (name : Text) :
    (page.step (first.step name)).reply = .done ↔ (page.step (second.step name)).reply = .done := by
  rw [follows.reply_eq_done_iff, follows.reply_eq_done_iff]
  simp only [alike _]

end Plan.Alike

/-- An object and each of its texts are alike, however its entries are ordered, spaced and
spelled. -/
theorem alike_of_isTextOf {entries written : List (Text × Json.Value)} {text : Text}
    (same : Json.SameButOrder (.object entries) (.object written))
    (denotes : Json.IsTextOf (.object written) text) :
    (Plan.supplied (.given (.object entries))).Alike (.written text) := by
  intro options
  rw [Plan.options_object_eq_ok_iff, Plan.options_written_eq_ok_iff,
    Options.ofJson_eq_ok_iff_of_sameButOrder same denotes, Options.ofValue?_eq_some_iff]

theorem prefix_refusal (diagnosis : Json.Diagnosis) :
    "invalid panel options: ".toList <+: Options.refusal diagnosis :=
  List.prefix_append _ _

/-- A step can be exchanged in a script for one with the same outcome. -/
theorem run_eq_of_step_eq {page : Page} {steps : List Step} {step other : Step}
    (same : (page.final steps).step other = (page.final steps).step step) (later : List Step) :
    page.run (steps ++ other :: later) = page.run (steps ++ step :: later) := by
  rw [run_append, run_append, run, run, same]

/-- An object that gives no options is refused on both routes. -/
theorem exists_step_eq_of_not_givenBy (page : Page) (name : Text)
    {entries : List (Text × Json.Value)} {text : Text}
    (alike : (Plan.supplied (.given (.object entries))).Alike (.written text))
    (unfit : ∀ options : Options, ¬ options.GivenBy (.object entries)) :
    page.step (.build name (.given (.object entries))) = page.quiet (.refused .unfitOptions) ∧
      ∃ diagnosis, page.step (.buildWritten name text) =
        page.quiet (.refused (.unreadableOptions diagnosis)) := by
  have nothing : Options.Supplied.options? (.given (.object entries)) = none := by
    rw [options?_object, Option.eq_none_iff_forall_ne_some]
    intro options found
    exact unfit options ((Options.ofValue?_eq_some_iff _ options).1 found)
  refine ⟨by rw [Page.step, nothing], ?_⟩
  cases read : Options.ofJson text with
  | error diagnosis => exact ⟨diagnosis, by rw [Page.step, read]⟩
  | ok options =>
      have decoded := (alike options).2 ((Plan.options_written_eq_ok_iff text options).2 read)
      exact absurd ((Plan.options_object_eq_ok_iff entries options).1 decoded) (unfit options)

/-- A panel is built from an object exactly when one is built from a text of it, however
the entries are ordered, spaced and spelled.  Then both routes bind the same element with the
options of the object, report the same and cannot be told apart by what follows.  An
object that gives no options is refused, without a word or with what is wrong with the text.
Where it gives options and no element is found, both routes are refused with the same
words.  Whatever is refused leaves the page alone. -/
theorem run_builds_alike (window document : Bool) (steps : List Step) (name : Text)
    {entries written : List (Text × Json.Value)} {text : Text}
    (same : Json.SameButOrder (.object entries) (.object written))
    (denotes : Json.IsTextOf (.object written) text) :
    let shown := window && document
    let start := blank window document
    let page := start.final steps
    let supply : Step := .build name (.given (.object entries))
    let write : Step := .buildWritten name text
    ((page.step supply).reply = .done ↔ (page.step write).reply = .done) ∧
      ((page.step supply).reply = .done →
        page.step write = page.step supply ∧
          (∃ options element, options.GivenBy (.object entries) ∧
            LocatedAfter shown steps options.target element ∧
              (page.step supply).page.Keeps name ⟨element, options⟩) ∧
          ∀ later, start.run (steps ++ write :: later) = start.run (steps ++ supply :: later)) ∧
      ((∀ options : Options, ¬ options.GivenBy (.object entries)) →
        page.step supply = page.quiet (.refused .unfitOptions) ∧
          ∃ diagnosis message, page.step write =
              page.quiet (.refused (.unreadableOptions diagnosis)) ∧
            (PanelError.unreadableOptions diagnosis).message? = some message ∧
              "invalid panel options: ".toList <+: message) ∧
      ∀ options : Options, options.GivenBy (.object entries) →
        (∀ element, ¬ LocatedAfter shown steps options.target element) →
          ∃ error message, error.message? = some message ∧
            page.step supply = page.quiet (.refused error) ∧
              page.step write = page.quiet (.refused error) := by
  intro shown start page supply write
  have follows : Follows shown steps page := follows_final window document steps
  have alike := alike_of_isTextOf same denotes
  refine ⟨alike.reply_eq_done_iff follows name, ?_, ?_, ?_⟩
  · intro done
    obtain ⟨options, element, decoded, located⟩ :=
      (follows.reply_eq_done_iff name (.supplied (.given (.object entries)))).1 done
    have given := (Plan.options_object_eq_ok_iff entries options).1 decoded
    have kept : (page.step supply).page.Keeps name ⟨element, options⟩ :=
      (follows.keeps_of_locatedAfter name decoded located).1
    have step_eq : page.step write = page.step supply := alike.step_eq decoded page name
    exact ⟨step_eq, ⟨options, element, given, located, kept⟩, run_eq_of_step_eq step_eq⟩
  · intro unfit
    obtain ⟨supplied, diagnosis, read⟩ := exists_step_eq_of_not_givenBy page name alike unfit
    exact ⟨supplied, diagnosis, _, read, rfl, prefix_refusal diagnosis⟩
  · intro options given missing
    have decoded := (Plan.options_object_eq_ok_iff entries options).2 given
    obtain ⟨error, message, fails⟩ := failsAfter_of_not_located decoded missing
    have refused := follows.step_of_failsAfter name fails
    exact ⟨error, message, fails.message_eq, refused,
      (alike.step_eq decoded page name).trans refused⟩

/-- The fields of an object in the other order, with blanks and an escaped letter, build the
same verbose panel. -/
theorem run_builds_alike_reordered :
    let target : Text × Json.Value := (Options.Field.target.name, .text ['a'])
    let verbose : Text × Json.Value := (Options.Field.verbose.name, .boolean true)
    let text : Text := "\x7b\"verbose\": true,\"target_id\":\"\\u0061\"\x7d".toList
    let page := (blank true true).final [.mount ['a'] ['b']]
    Json.SameButOrder (.object [target, verbose]) (.object [verbose, target]) ∧
      Json.IsTextOf (.object [verbose, target]) text ∧
      page.step (.buildWritten ['p'] text) =
        page.step (.build ['p'] (.given (.object [target, verbose]))) ∧
      (page.step (.build ['p'] (.given (.object [target, verbose])))).reply = .done := by
  intro target verbose text page
  have same : Json.SameButOrder (.object [target, verbose]) (.object [verbose, target]) :=
    .reorder (List.Perm.swap verbose target [])
  have space : Json.Blank [' '] := by decide
  have nothing := Json.Blank.nil
  have letter : Json.Spelling ['a'] "\\u0061".toList :=
    .cons (.unit (.mk rfl rfl rfl rfl rfl)) .nil
  have denotes : Json.IsTextOf (.object [verbose, target]) text :=
    ⟨[], text, [], nothing, .object (.more
      (.mk nothing (Options.Field.spelling_name .verbose) nothing space .trueWord nothing)
      (.last (.mk nothing (Options.Field.spelling_name .target) nothing nothing (.text letter)
        nothing))), nothing, by simp⟩
  have built : (page.step (.build ['p'] (.given (.object [target, verbose])))).reply = .done := by
    decide
  obtain ⟨-, alike, -⟩ := run_builds_alike true true [.mount ['a'] ['b']] ['p'] same denotes
  exact ⟨same, denotes, (alike built).1, built⟩

end Page

end SampleLine
