/-
What a page holds, told from its history alone.  The element under a name, the
panel under a name and the text of an element each rest on the newest step that
bears on them.  A panel goes on with the element that was there when it was
built, and an action on the default element looks for it anew.
-/
import Mathlib.Data.List.Induction
import SampleLine.Proofs.Page.Effect

namespace SampleLine

namespace Page

/-- A value was given by a step of a history, and by no later one anew. -/
def Newest {α : Type} (gives : List Step → Step → α → Prop) (steps : List Step) (value : α) :
    Prop :=
  ∃ before step after, steps = before ++ step :: after ∧ gives before step value ∧
    ∀ middle later behind, after = middle ++ later :: behind →
      ∀ other, ¬ gives (before ++ step :: middle) later other

section Newest

variable {α : Type} {gives : List Step → Step → α → Prop}

/-- A step of a longer history is its last one, or one of the history before. -/
theorem eq_or_of_append_singleton_eq {steps before after : List Step} {last step : Step}
    (split : steps ++ [last] = before ++ step :: after) :
    (before = steps ∧ step = last ∧ after = []) ∨
      ∃ front, after = front ++ [last] ∧ steps = before ++ step :: front := by
  rcases List.eq_nil_or_concat after with nothing | ⟨front, final, more⟩
  · rw [nothing] at split
    obtain ⟨first, second⟩ := List.append_inj' split rfl
    exact Or.inl ⟨first.symm, (List.singleton_inj.1 second).symm, nothing⟩
  · rw [List.concat_eq_append] at more
    have regrouped : steps ++ [last] = (before ++ step :: front) ++ [final] := by
      rw [split, more, List.append_assoc, List.cons_append]
    obtain ⟨first, second⟩ := List.append_inj' regrouped rfl
    exact Or.inr ⟨front, by rw [more, second], first⟩

theorem not_newest_nil (value : α) : ¬ Newest gives [] value := by
  intro newest
  rcases newest with ⟨before, step, after, split, -⟩
  simp at split

theorem newest_append_singleton_iff (steps : List Step) (step : Step) (value : α) :
    Newest gives (steps ++ [step]) value ↔
      Renewed (gives steps step) (Newest gives steps) value := by
  constructor
  · intro newest
    rcases newest with ⟨before, giver, after, split, given, last⟩
    rcases eq_or_of_append_singleton_eq split with ⟨rfl, rfl, rfl⟩ | ⟨front, rfl, rfl⟩
    · exact Or.inl given
    · refine Or.inr ⟨last front step [] rfl, before, giver, front, rfl, given, ?_⟩
      intro middle later behind hfront
      apply last middle later (behind ++ [step])
      rw [hfront, List.append_assoc, List.cons_append]
  · intro renewed
    rcases renewed with given | ⟨nothing, before, giver, after, rfl, given, last⟩
    · refine ⟨steps, step, [], rfl, given, ?_⟩
      intro middle later behind hafter
      simp at hafter
    · refine ⟨before, giver, after ++ [step], by simp, given, ?_⟩
      intro middle later behind hafter
      rcases eq_or_of_append_singleton_eq hafter with
        ⟨rfl, rfl, rfl⟩ | ⟨front, rfl, rfl⟩
      · exact nothing
      · exact last middle later front rfl

end Newest

/-- The texts with which a history makes elements, in order. -/
def made (steps : List Step) : List Text := steps.flatMap Step.made

/-- An element is mounted under a name after a history: the newest step that
mounts or unmounts that name made it. -/
def MountedAfter (steps : List Step) (target : Text) (element : Element) : Prop :=
  Newest (fun before step => step.Places target (made before).length) steps (some element)

/-- An element is found under a name after a history.  Nothing is found where no
document is shown. -/
def LocatedAfter (shown : Bool) (steps : List Step) (target : Text) (element : Element) : Prop :=
  shown = true ∧ MountedAfter steps target element

/-- A panel is held under a name after a history: the newest step that built one
for that name built it, with the element that was found at that moment. -/
def HeldAfter (shown : Bool) (steps : List Step) (name : Text) (panel : Panel) : Prop :=
  Newest (fun before step => step.Builds (LocatedAfter shown before) name) steps panel

/-- A step after a history writes a text to an element. -/
def WritesAfter (shown : Bool) (steps : List Step) (step : Step) (element : Element)
    (text : Text) : Prop :=
  step.Writes (LocatedAfter shown steps) (HeldAfter shown steps) element text

/-- The newest write to an element in a history wrote a text. -/
def WrittenAfter (shown : Bool) (steps : List Step) (element : Element) (text : Text) : Prop :=
  Newest (fun before step => WritesAfter shown before step element) steps text

/-- An element holds a text after a history: that of the newest write to it, or
without one that with which it was made. -/
def HoldsAfter (shown : Bool) (steps : List Step) (element : Element) (text : Text) : Prop :=
  Renewed (WrittenAfter shown steps element) (fun text => (made steps)[element]? = some text) text

variable {shown : Bool} {steps : List Step}

theorem made_append_singleton (steps : List Step) (step : Step) :
    made (steps ++ [step]) = made steps ++ step.made := by
  simp [made]

theorem length_made_le_append (before after : List Step) :
    (made before).length ≤ (made (before ++ after)).length := by
  rw [made, made, List.flatMap_append, List.length_append]
  exact Nat.le_add_right _ _

theorem MountedAfter.lt_made {target : Text} {element : Element}
    (mounted : MountedAfter steps target element) : element < (made steps).length := by
  obtain ⟨before, step, after, rfl, places, -⟩ := mounted
  cases places with
  | mount text =>
      have counted := length_made_le_append (before ++ [.mount target text]) after
      rw [made_append_singleton, List.length_append, List.append_assoc] at counted
      exact Nat.lt_of_succ_le counted

theorem HeldAfter.lt_made {name : Text} {panel : Panel}
    (held : HeldAfter shown steps name panel) : panel.element < (made steps).length := by
  obtain ⟨before, step, after, rfl, builds, -⟩ := held
  have found := builds.2.2.lt_made
  exact Nat.lt_of_lt_of_le found (length_made_le_append before (step :: after))

theorem WritesAfter.lt_made {step : Step} {element : Element} {text : Text}
    (writes : WritesAfter shown steps step element text) : element < (made steps).length := by
  cases writes with
  | bound action held => exact held.lt_made
  | free action located => exact located.2.lt_made

theorem WrittenAfter.lt_made {element : Element} {text : Text}
    (written : WrittenAfter shown steps element text) : element < (made steps).length := by
  obtain ⟨before, step, after, rfl, writes, -⟩ := written
  exact Nat.lt_of_lt_of_le writes.lt_made (length_made_le_append before (step :: after))

theorem holdsAfter_append_singleton_iff (step : Step) (element : Element) (text : Text) :
    HoldsAfter shown (steps ++ [step]) element text ↔
      Renewed (WritesAfter shown steps step element)
        (Renewed (WrittenAfter shown steps element)
          fun text => (made steps ++ step.made)[element]? = some text) text := by
  have written : WrittenAfter shown (steps ++ [step]) element =
      Renewed (WritesAfter shown steps step element) (WrittenAfter shown steps element) := by
    funext text
    exact propext (newest_append_singleton_iff steps step text)
  rw [HoldsAfter, written, renewed_renewed, made_append_singleton]

/-- A page is what its history says. -/
structure Follows (shown : Bool) (steps : List Step) (page : Page) : Prop where
  shown_eq : (page.window && page.document) = shown
  length_eq : page.contents.length = (made steps).length
  mounted_iff : ∀ target element,
    page.mounted.get? target = some element ↔ MountedAfter steps target element
  panels_iff : ∀ name panel,
    page.panels.get? name = some panel ↔ HeldAfter shown steps name panel
  contents_iff : ∀ element text,
    page.contents[element]? = some text ↔ HoldsAfter shown steps element text

theorem follows_blank (window document : Bool) :
    Follows (window && document) [] (blank window document) := by
  refine ⟨rfl, rfl, ?_, ?_, ?_⟩
  · intro target element
    exact iff_of_false nofun (not_newest_nil _)
  · intro name panel
    exact iff_of_false nofun (not_newest_nil _)
  · intro element text
    have unwritten (other : Text) : ¬ WrittenAfter (window && document) [] element other :=
      not_newest_nil other
    rw [HoldsAfter, renewed_of_none unwritten]
    exact Iff.rfl

namespace Follows

variable {page : Page}

theorem locates_eq (follows : Follows shown steps page) :
    page.Locates = LocatedAfter shown steps := by
  funext target element
  rw [locates_iff, follows.shown_eq, follows.mounted_iff, LocatedAfter]

theorem keeps_eq (follows : Follows shown steps page) : page.Keeps = HeldAfter shown steps := by
  funext name panel
  rw [Keeps, follows.panels_iff]

theorem writes_eq (follows : Follows shown steps page) (step : Step) :
    step.Writes page.Locates page.Keeps = WritesAfter shown steps step := by
  rw [follows.locates_eq, follows.keeps_eq]
  rfl

theorem inside (follows : Follows shown steps page) {step : Step} {element : Element} {text : Text}
    (writes : step.Writes page.Locates page.Keeps element text) :
    element < page.contents.length := by
  rw [follows.writes_eq] at writes
  rw [follows.length_eq]
  exact writes.lt_made

/-- Elements that are new are not written yet, so what they were made with is
what they hold. -/
theorem contents_append_iff (follows : Follows shown steps page) (more : List Text)
    (element : Element) (text : Text) :
    (page.contents ++ more)[element]? = some text ↔
      Renewed (WrittenAfter shown steps element)
        (fun text => (made steps ++ more)[element]? = some text) text := by
  by_cases inside : element < page.contents.length
  · have inside' : element < (made steps).length := by rwa [← follows.length_eq]
    simp only [List.getElem?_append_left inside, List.getElem?_append_left inside']
    exact follows.contents_iff element text
  · have outside : page.contents.length ≤ element := Nat.le_of_not_lt inside
    have unwritten (other : Text) : ¬ WrittenAfter shown steps element other := by
      intro written
      apply inside
      rw [follows.length_eq]
      exact written.lt_made
    rw [renewed_of_none unwritten, List.getElem?_append_right outside, follows.length_eq,
      List.getElem?_append_right (by rwa [← follows.length_eq])]

theorem append_singleton (follows : Follows shown steps page) (step : Step) :
    Follows shown (steps ++ [step]) (page.step step).page := by
  have effect := effect_step page step
  refine ⟨effect.shown_eq.trans follows.shown_eq, ?_, ?_, ?_, ?_⟩
  · rw [effect.length_contents, follows.length_eq, made_append_singleton, List.length_append]
  · intro target element
    rw [effect.get?_mounted_iff, MountedAfter, newest_append_singleton_iff, follows.length_eq]
    exact renewed_congr (follows.mounted_iff target element)
  · intro name panel
    rw [effect.get?_panels_iff, HeldAfter, newest_append_singleton_iff, follows.locates_eq]
    exact renewed_congr (follows.panels_iff name panel)
  · intro element text
    rw [effect.getElem?_contents_iff (fun _ _ writes => follows.inside writes),
      holdsAfter_append_singleton_iff, follows.writes_eq]
    exact renewed_congr (follows.contents_append_iff step.made element text)

theorem getElem?_of_writesAfter (follows : Follows shown steps page) {step : Step}
    {element : Element} {text : Text} (writes : WritesAfter shown steps step element text) :
    (page.step step).page.contents[element]? = some text := by
  apply ((follows.append_singleton step).contents_iff element text).2
  rw [holdsAfter_append_singleton_iff]
  exact Or.inl writes

theorem getElem?_of_not_writesAfter (follows : Follows shown steps page) {step : Step}
    {element : Element} (old : element < page.contents.length)
    (unwritten : ∀ text, ¬ WritesAfter shown steps step element text) :
    (page.step step).page.contents[element]? = page.contents[element]? := by
  rw [← follows.writes_eq] at unwritten
  exact (effect_step page step).getElem?_of_unwritten old unwritten

theorem holdsAfter_textOf (follows : Follows shown steps page) {element : Element}
    (old : element < page.contents.length) :
    HoldsAfter shown steps element (page.textOf element) := by
  apply (follows.contents_iff _ _).1
  rw [textOf, List.getD_eq_getElem?_getD, List.getElem?_eq_getElem old, Option.getD_some]

end Follows

theorem final_append_singleton (page : Page) (steps : List Step) (step : Step) :
    page.final (steps ++ [step]) = ((page.final steps).step step).page := by
  rw [final, List.foldl_append]
  rfl

/-- Every page that a script leads to is what the script says. -/
theorem follows_final (window document : Bool) (steps : List Step) :
    Follows (window && document) steps ((blank window document).final steps) := by
  -- The newest step is the last one, so the history grows at its end.
  induction steps using List.reverseRecOn with
  | nil => exact follows_blank window document
  | append_singleton steps step ih =>
      rw [final_append_singleton]
      exact ih.append_singleton step

theorem run_append (page : Page) (steps later : List Step) :
    page.run (steps ++ later) = page.run steps ++ (page.final steps).run later := by
  induction steps generalizing page with
  | nil => rfl
  | cons step steps ih =>
      rw [List.cons_append, run, run, ih]
      rfl

/-- The outcome of a step in a script is its outcome on the page before it. -/
theorem getElem?_run (page : Page) (steps : List Step) (step : Step) (later : List Step) :
    (page.run (steps ++ step :: later))[steps.length]? = some ((page.final steps).step step) := by
  have behind := Nat.le_of_eq (run_length page steps)
  rw [run_append, List.getElem?_append_right behind, run_length, Nat.sub_self]
  rfl

/-- An action of a panel writes the element that the panel was built with, and an
action on the default element the one that is found there at that moment.  No
other step changes a text.  So every element holds what was last written to it,
and a panel answers with that text and with the name it was built with. -/
theorem run_writes (window document : Bool) (steps : List Step) (step : Step)
    (later : List Step) :
    let shown := window && document
    let page := (blank window document).final steps
    let outcome := page.step step
    ((blank window document).run (steps ++ step :: later))[steps.length]? = some outcome ∧
      (∀ element text,
        page.contents[element]? = some text ↔ HoldsAfter shown steps element text) ∧
      (∀ element text, WritesAfter shown steps step element text →
        outcome.page.contents[element]? = some text) ∧
      (∀ element, element < page.contents.length →
        (∀ text, ¬ WritesAfter shown steps step element text) →
          outcome.page.contents[element]? = page.contents[element]?) ∧
      ∀ name panel, HeldAfter shown steps name panel →
        (step = .content name →
          ∃ text, HoldsAfter shown steps panel.element text ∧ outcome.reply = .text text) ∧
        (step = .target name → outcome.reply = .text panel.options.target) := by
  intro shown page outcome
  have follows : Follows shown steps page := follows_final window document steps
  refine ⟨getElem?_run _ steps step later, follows.contents_iff, ?_, ?_, ?_⟩
  · intro element text writes
    exact follows.getElem?_of_writesAfter writes
  · intro element old unwritten
    exact follows.getElem?_of_not_writesAfter old unwritten
  · intro name panel held
    have kept : page.panels.get? name = some panel := (follows.panels_iff name panel).2 held
    refine ⟨?_, ?_⟩
    · intro asks
      have old : panel.element < page.contents.length := by
        rw [follows.length_eq]
        exact held.lt_made
      refine ⟨page.textOf panel.element, follows.holdsAfter_textOf old, ?_⟩
      simp only [outcome, asks, Page.step, kept, quiet]
    · intro asks
      simp only [outcome, asks, Page.step, kept, quiet]

example :
    ((blank true true).final
      [.mount Options.defaultTarget ['a'], .build ['p'] .absent, .mount Options.defaultTarget ['b'],
        .actOn ['p'] .clear]).contents = [[], ['b']] := by decide

end Page

end SampleLine
