/-
What one step does to a page.  A step mounts, unmounts, builds a panel, writes
one element or leaves the page as it is, and what it builds or writes rests on
the names that it finds on the page alone.
-/
import SampleLine.Page.Step

namespace SampleLine

namespace Page

/-- What is given now, or else what was there before. -/
def Renewed {α : Type} (gives was : α → Prop) (value : α) : Prop :=
  gives value ∨ (∀ other, ¬ gives other) ∧ was value

section Renewed

variable {α : Type} {gives was : α → Prop}

theorem renewed_of_none (absent : ∀ other, ¬ gives other) (value : α) :
    Renewed gives was value ↔ was value := by
  rw [Renewed, or_iff_right (absent value), and_iff_right absent]

theorem renewed_of_unique {given : α} (gave : gives given)
    (unique : ∀ other, gives other → other = given) (value : α) :
    Renewed gives was value ↔ given = value := by
  constructor
  · intro renewed
    rcases renewed with again | ⟨absent, -⟩
    · exact (unique value again).symm
    · exact (absent given gave).elim
  · intro same
    rw [← same]
    exact Or.inl gave

theorem renewed_congr {before : α → Prop} {value : α} (same : was value ↔ before value) :
    Renewed gives was value ↔ Renewed gives before value := by
  rw [Renewed, Renewed, same]

theorem renewed_renewed (latest : α → Prop) (value : α) :
    Renewed (Renewed latest gives) was value ↔ Renewed latest (Renewed gives was) value := by
  by_cases absent : ∀ other, ¬ latest other
  · have same : Renewed latest gives = gives := by
      funext other
      rw [renewed_of_none absent]
    rw [same, renewed_of_none absent]
  · simp only [Renewed, absent, false_and, or_false]

end Renewed

/-- The texts of the elements that a step makes. -/
def Step.made : Step → List Text
  | .mount _ text => [text]
  | _ => []

/-- What a step puts under a name: the next element, or nothing. -/
inductive Step.Places (target : Text) (next : Element) : Step → Option Element → Prop
  | mount (text : Text) : Places target next (.mount target text) (some next)
  | unmount : Places target next (.unmount target) none

/-- A step asks for a panel of a name, with options that can be made out. -/
inductive Step.Asks (name : Text) (options : Options) : Step → Prop
  | build {supplied : Options.Supplied} :
      supplied.options? = some options → Asks name options (.build name supplied)
  | buildWritten {written : Text} :
      Options.ofJson written = .ok options → Asks name options (.buildWritten name written)

/-- A step builds a panel: it asks for one, and finds the element to write. -/
def Step.Builds (located : Text → Element → Prop) (step : Step) (name : Text) (panel : Panel) :
    Prop :=
  step.Asks name panel.options ∧ located panel.options.target panel.element

/-- A step writes a text to an element.  The element is that of a panel, or the
one that is found under the default name. -/
inductive Step.Writes (located : Text → Element → Prop) (held : Text → Panel → Prop) :
    Step → Element → Text → Prop
  | bound {name : Text} {panel : Panel} (action : Action) :
      held name panel →
        Writes located held (.actOn name action) panel.element
          (action.content panel.options.form)
  | free {element : Element} (action : Action) :
      located Options.defaultTarget element →
        Writes located held (.act action) element (action.content Options.default.form)

def Locates (page : Page) (target : Text) (element : Element) : Prop :=
  page.locate target = .ok element

def Keeps (page : Page) (name : Text) (panel : Panel) : Prop :=
  page.panels.get? name = some panel

theorem locates_iff (page : Page) (target : Text) (element : Element) :
    page.Locates target element ↔
      (page.window && page.document) = true ∧ page.mounted.get? target = some element := by
  rw [Locates, locate, Bool.and_eq_true]
  by_cases shown : page.window = true ∧ page.document = true
  · rw [if_pos shown]
    cases page.mounted.get? target with
    | none => simp
    | some found => simp [shown]
  · rw [if_neg shown]
    simp [shown]

theorem Step.Asks.unique {step : Step} {name other : Text} {options others : Options}
    (asks : step.Asks name options) (again : step.Asks other others) :
    other = name ∧ others = options := by
  cases asks with
  | build supplied =>
      cases again with
      | build resupplied =>
          rw [supplied, Option.some.injEq] at resupplied
          exact ⟨rfl, resupplied.symm⟩
  | buildWritten written =>
      cases again with
      | buildWritten rewritten =>
          rw [written, Except.ok.injEq] at rewritten
          exact ⟨rfl, rewritten.symm⟩

theorem Step.Asks.not_places {step : Step} {name : Text} {options : Options}
    (asks : step.Asks name options) (target : Text) (next : Element) (place : Option Element) :
    ¬ step.Places target next place := by
  intro places
  cases asks <;> cases places

theorem Step.Asks.made_eq {step : Step} {name : Text} {options : Options}
    (asks : step.Asks name options) : step.made = [] := by
  cases asks <;> rfl

theorem Step.Asks.not_writes {step : Step} {name : Text} {options : Options}
    (asks : step.Asks name options) (located : Text → Element → Prop)
    (held : Text → Panel → Prop) (element : Element) (text : Text) :
    ¬ step.Writes located held element text := by
  intro writes
  cases asks <;> cases writes

theorem step_of_asks {page : Page} {step : Step} {name : Text} {options : Options}
    (asks : step.Asks name options) : page.step step = page.bind name options := by
  cases asks with
  | build decoded => simp only [Page.step, decoded]
  | buildWritten decoded => simp only [Page.step, decoded]

/-- A panel is built for an element that is found. -/
theorem bind_of_locates {page : Page} {options : Options} {element : Element}
    (located : page.Locates options.target element) (name : Text) :
    page.bind name options =
      { page := { page with panels := page.panels.set name ⟨element, options⟩ }
        reply := .done
        reports :=
          if options.verbose then [⟨.info, "panel bound to #".toList ++ options.target⟩]
          else [] } := by
  have found : page.locate options.target = .ok element := located
  simp only [bind, found]

/-- A panel that is kept acts. -/
theorem step_actOn_of_keeps {page : Page} {name : Text} {panel : Panel}
    (kept : page.Keeps name panel) (action : Action) :
    page.step (.actOn name action) = page.perform panel action := by
  have held : page.panels.get? name = some panel := kept
  simp only [Page.step, held]

/-- A panel that is kept answers with the text of its element. -/
theorem step_content_of_keeps {page : Page} {name : Text} {panel : Panel}
    (kept : page.Keeps name panel) :
    page.step (.content name) = page.quiet (.text (page.textOf panel.element)) := by
  have held : page.panels.get? name = some panel := kept
  simp only [Page.step, held]

theorem Step.Builds.unique {page : Page} {step : Step} {name other : Text} {panel others : Panel}
    (builds : step.Builds page.Locates name panel) (again : step.Builds page.Locates other others) :
    other = name ∧ others = panel := by
  obtain ⟨element, options⟩ := panel
  obtain ⟨element', options'⟩ := others
  obtain ⟨asks, located⟩ := builds
  obtain ⟨asks', located'⟩ := again
  obtain ⟨same, rfl⟩ := asks.unique asks'
  have found : element = element' := by
    rw [Locates, located] at located'
    exact Except.ok.inj located'
  refine ⟨same, ?_⟩
  rw [found]

theorem Step.Writes.unique {page : Page} {step : Step} {element other : Element}
    {text others : Text} (writes : step.Writes page.Locates page.Keeps element text)
    (again : step.Writes page.Locates page.Keeps other others) :
    other = element ∧ others = text := by
  cases writes with
  | bound action held =>
      cases again with
      | bound _ held' =>
          rw [Keeps, held, Option.some.injEq] at held'
          rw [held']
          exact ⟨rfl, rfl⟩
  | free action located =>
      cases again with
      | free _ located' =>
          rw [Locates, located, Except.ok.injEq] at located'
          exact ⟨located'.symm, rfl⟩

inductive Effect (page : Page) : Step → Page → Prop
  | mounts (target content : Text) :
      Effect page (.mount target content) (page.mount target content)
  | unmounts (target : Text) : Effect page (.unmount target) (page.unmount target)
  | builds {step : Step} {name : Text} {panel : Panel} :
      step.Builds page.Locates name panel →
        Effect page step { page with panels := page.panels.set name panel }
  | writes {step : Step} {element : Element} {text : Text} :
      step.Writes page.Locates page.Keeps element text →
        Effect page step (page.write element text)
  | rests {step : Step} :
      step.made = [] →
      (∀ target next place, ¬ step.Places target next place) →
      (∀ name panel, ¬ step.Builds page.Locates name panel) →
      (∀ element text, ¬ step.Writes page.Locates page.Keeps element text) →
        Effect page step page

/-- Building a panel of given options takes effect if the element is there. -/
theorem effect_of_asks {page : Page} {step : Step} {name : Text} {options : Options}
    (asks : step.Asks name options) : Effect page step (page.step step).page := by
  rw [step_of_asks asks]
  cases found : page.locate options.target with
  | ok element =>
      have builds : step.Builds page.Locates name ⟨element, options⟩ := ⟨asks, found⟩
      rw [bind_of_locates found]
      exact Effect.builds builds
  | error error =>
      simp only [bind, found, quiet]
      refine Effect.rests asks.made_eq asks.not_places ?_ (asks.not_writes _ _)
      intro other panel builds
      obtain ⟨asks', located⟩ := builds
      obtain ⟨-, same⟩ := asks.unique asks'
      rw [same, Locates, found] at located
      contradiction

theorem effect_performDefault (page : Page) (action : Action) :
    Effect page (.act action) (page.performDefault action).page := by
  cases found : page.locate Options.defaultTarget with
  | ok element =>
      simp only [performDefault, found, perform]
      exact Effect.writes (Step.Writes.free action found)
  | error error =>
      simp only [performDefault, found, quiet]
      refine Effect.rests rfl ?_ ?_ ?_
      · intro target next place places
        cases places
      · intro name panel builds
        cases builds.1
      · intro element text writes
        cases writes with
        | free _ located =>
            rw [Locates, found] at located
            contradiction

/-- A step that only asks leaves the page as it is. -/
theorem effect_of_asks_nothing {page : Page} {step : Step} (made : step.made = [])
    (places : ∀ target next place, ¬ step.Places target next place)
    (asks : ∀ name options, ¬ step.Asks name options)
    (writes : ∀ element text, ¬ step.Writes page.Locates page.Keeps element text) :
    Effect page step page := by
  apply Effect.rests made places _ writes
  intro name panel builds
  exact asks name panel.options builds.1

theorem page_step_content (page : Page) (name : Text) :
    (page.step (.content name)).page = page := by
  rw [Page.step]
  split <;> rfl

theorem page_step_target (page : Page) (name : Text) :
    (page.step (.target name)).page = page := by
  rw [Page.step]
  split <;> rfl

theorem effect_step (page : Page) (step : Step) : Effect page step (page.step step).page := by
  cases step with
  | mount target content => exact Effect.mounts target content
  | unmount target => exact Effect.unmounts target
  | act action => exact effect_performDefault page action
  | plain text => exact effect_of_asks_nothing rfl nofun nofun nofun
  | recognise text => exact effect_of_asks_nothing rfl nofun nofun nofun
  | build name supplied =>
      cases decoded : supplied.options? with
      | some options => exact effect_of_asks (Step.Asks.build decoded)
      | none =>
          simp only [Page.step, decoded]
          refine effect_of_asks_nothing rfl nofun ?_ nofun
          intro other options asks
          cases asks with
          | build decoded' => exact nomatch decoded.symm.trans decoded'
  | buildWritten name written =>
      cases decoded : Options.ofJson written with
      | ok options => exact effect_of_asks (Step.Asks.buildWritten decoded)
      | error diagnosis =>
          simp only [Page.step, decoded]
          refine effect_of_asks_nothing rfl nofun ?_ nofun
          intro other options asks
          cases asks with
          | buildWritten decoded' => exact nomatch decoded.symm.trans decoded'
  | actOn name action =>
      cases held : page.panels.get? name with
      | some panel =>
          rw [step_actOn_of_keeps held]
          exact Effect.writes (Step.Writes.bound action held)
      | none =>
          simp only [Page.step, held]
          refine effect_of_asks_nothing rfl nofun nofun ?_
          intro element text writes
          cases writes with
          | bound _ held' => exact nomatch held.symm.trans held'
  | content name =>
      rw [page_step_content]
      exact effect_of_asks_nothing rfl nofun nofun nofun
  | target name =>
      rw [page_step_target]
      exact effect_of_asks_nothing rfl nofun nofun nofun

section Writes

variable {located : Text → Element → Prop} {held : Text → Panel → Prop} {step : Step}
  {element : Element} {text : Text}

theorem Step.Writes.not_places (writes : step.Writes located held element text)
    (target : Text) (next : Element) (place : Option Element) :
    ¬ step.Places target next place := by
  intro places
  cases writes <;> cases places

theorem Step.Writes.not_asks (writes : step.Writes located held element text) (name : Text)
    (options : Options) : ¬ step.Asks name options := by
  intro asks
  exact asks.not_writes located held element text writes

theorem Step.Writes.made_eq (writes : step.Writes located held element text) :
    step.made = [] := by
  cases writes <;> rfl

end Writes

variable {page next : Page} {step : Step}

theorem Effect.shown_eq (effect : Effect page step next) :
    (next.window && next.document) = (page.window && page.document) := by
  cases effect <;> rfl

theorem Effect.length_contents (effect : Effect page step next) :
    next.contents.length = page.contents.length + step.made.length := by
  cases effect with
  | mounts target content => exact List.length_append
  | unmounts target => rfl
  | builds builds => rw [builds.1.made_eq, List.length_nil, Nat.add_zero]
  | writes writes => rw [writes.made_eq, List.length_nil, Nat.add_zero, write, List.length_set]
  | rests made => rw [made, List.length_nil, Nat.add_zero]

theorem Effect.get?_mounted_iff (effect : Effect page step next) (target : Text)
    (place : Option Element) :
    next.mounted.get? target = place ↔
      Renewed (step.Places target page.contents.length)
        (fun place => page.mounted.get? target = place) place := by
  cases effect with
  | mounts other content =>
      rw [mount, Registry.get?_set]
      by_cases same : target = other
      · rw [if_pos same, same, renewed_of_unique (Step.Places.mount content)]
        intro place places
        cases places
        rfl
      · rw [if_neg same, renewed_of_none]
        intro place places
        cases places
        contradiction
  | unmounts other =>
      rw [unmount, Registry.get?_erase]
      by_cases same : target = other
      · rw [if_pos same, same, renewed_of_unique Step.Places.unmount]
        intro place places
        cases places
        rfl
      · rw [if_neg same, renewed_of_none]
        intro place places
        cases places
        contradiction
  | builds builds => rw [renewed_of_none (builds.1.not_places _ _)]
  | writes writes =>
      rw [renewed_of_none (writes.not_places _ _)]
      exact Iff.rfl
  | rests _ places => rw [renewed_of_none (places _ _)]

theorem Effect.get?_panels_iff (effect : Effect page step next) (name : Text) (panel : Panel) :
    next.panels.get? name = some panel ↔
      Renewed (step.Builds page.Locates name) (page.Keeps name) panel := by
  cases effect with
  | mounts target content =>
      rw [renewed_of_none (fun _ builds => nomatch builds.1)]
      exact Iff.rfl
  | unmounts target =>
      rw [renewed_of_none (fun _ builds => nomatch builds.1)]
      exact Iff.rfl
  | @builds _ built newest builds =>
      rw [Registry.get?_set]
      by_cases same : name = built
      · rw [if_pos same, same, Option.some.injEq,
          renewed_of_unique builds (fun other again => (builds.unique again).2)]
      · rw [if_neg same, renewed_of_none (fun other again => same (builds.unique again).1)]
        exact Iff.rfl
  | writes writes =>
      rw [renewed_of_none (fun other builds => writes.not_asks name other.options builds.1)]
      exact Iff.rfl
  | rests _ _ builds =>
      rw [renewed_of_none (builds name)]
      exact Iff.rfl

/-- An element that a step does not write holds what it held before. -/
theorem Effect.getElem?_of_unwritten (effect : Effect page step next) {element : Element}
    (old : element < page.contents.length)
    (unwritten : ∀ text, ¬ step.Writes page.Locates page.Keeps element text) :
    next.contents[element]? = page.contents[element]? := by
  cases effect with
  | mounts target content => exact List.getElem?_append_left old
  | unmounts target => rfl
  | builds builds => rfl
  | @writes _ written text writes =>
      have other : written ≠ element := by
        rintro rfl
        exact unwritten text writes
      exact List.getElem?_set_ne other
  | rests => rfl

/-- Behind a step an element holds what the step writes to it, or else what it
held before or was made with. -/
theorem Effect.getElem?_contents_iff (effect : Effect page step next)
    (inside : ∀ element text, step.Writes page.Locates page.Keeps element text →
      element < page.contents.length) (element : Element) (text : Text) :
    next.contents[element]? = some text ↔
      Renewed (step.Writes page.Locates page.Keeps element)
        (fun text => (page.contents ++ step.made)[element]? = some text) text := by
  cases effect with
  | mounts target content =>
      rw [renewed_of_none (fun _ writes => nomatch writes)]
      exact Iff.rfl
  | unmounts target =>
      have still : (Step.unmount target).made = [] := rfl
      rw [renewed_of_none (fun _ writes => nomatch writes), still, List.append_nil]
      exact Iff.rfl
  | builds builds =>
      rw [renewed_of_none (builds.1.not_writes _ _ element), builds.1.made_eq, List.append_nil]
  | @writes _ written content writes =>
      rw [write, writes.made_eq, List.append_nil]
      by_cases same : element = written
      · rw [same, List.getElem?_set_self (inside written content writes), Option.some.injEq,
          renewed_of_unique writes (fun other again => (writes.unique again).2)]
      · rw [List.getElem?_set_ne (Ne.symm same),
          renewed_of_none (fun other again => same (writes.unique again).1)]
  | rests made _ _ writes =>
      rw [renewed_of_none (writes element), made, List.append_nil]

end Page

end SampleLine
