/-
Names of actions, and what is printed about them.  Blank characters around a name
do not count, and a name that is refused is repeated to the user as it is without
them.
-/
import SampleLine.Action
import SampleLine.Proofs.Sample.Recognition
import SampleLine.Proofs.Text.Trim

namespace SampleLine

theorem NameError.unknown_message_ne (name : Text) :
    message (.unknown name) ≠ message .missing := by
  have heads : ("Trigger not found: ".toList ++ name).head? ≠
      NameError.missing.message.head? := by
    have nonempty : "Trigger not found: ".toList ≠ [] := by decide +kernel
    have other : "Trigger not found: ".toList.head? ≠ NameError.missing.message.head? := by
      decide +kernel
    rwa [List.head?_append_of_ne_nil _ nonempty]
  exact fun same => heads (congrArg List.head? same)

/-- What is read about a name tells all about why it stands for no action. -/
theorem NameError.message_inj {first second : NameError} :
    first.message = second.message ↔ first = second := by
  refine ⟨fun same => ?_, fun same => congrArg message same⟩
  cases first with
  | missing =>
      cases second with
      | missing => rfl
      | unknown name => exact absurd same.symm (unknown_message_ne name)
  | unknown name =>
      cases second with
      | missing => exact absurd same (unknown_message_ne name)
      | unknown other => rw [List.append_cancel_left same]

namespace Action

/-- Blank characters around a name do not count, however often they are trimmed. -/
@[simp] theorem resolve_trim (name : Text) : resolve (Text.trim name) = resolve name := by
  simp only [resolve, Text.trim_trim]

theorem error_of_resolve {name : Text} {error : NameError} (refused : resolve name = .error error) :
    (Text.trim name = [] ∧ error = .missing) ∨
      (Text.trim name ≠ [] ∧ error = .unknown (Text.trim name)) := by
  simp only [resolve] at refused
  split at refused
  · cases refused
  · split at refused
    · cases refused
    · split at refused
      · cases refused
        exact .inl ⟨‹_›, rfl⟩
      · cases refused
        exact .inr ⟨‹_›, rfl⟩

theorem resolve_eq_ok_iff (name : Text) (action : Action) :
    resolve name = .ok action ↔ Text.trim name ∈ names action := by
  have apart : ∀ word ∈ names .clear, word ∉ names .sample := by decide
  simp only [resolve]
  by_cases clear : Text.trim name ∈ names .clear
  · rw [if_pos clear]
    cases action with
    | clear => exact iff_of_true rfl clear
    | sample => exact iff_of_false (by simp) (apart _ clear)
  · rw [if_neg clear]
    by_cases sample : Text.trim name ∈ names .sample
    · rw [if_pos sample]
      cases action with
      | clear => exact iff_of_false (by simp) clear
      | sample => exact iff_of_true rfl sample
    · rw [if_neg sample]
      refine iff_of_false (by split <;> simp) ?_
      cases action with
      | clear => exact clear
      | sample => exact sample

/-- Two names come to the same if they are the same text once trimmed, or names of one
action. -/
theorem resolve_eq_resolve_iff (name other : Text) :
    resolve name = resolve other ↔
      Text.trim name = Text.trim other ∨
        ∃ action, Text.trim name ∈ names action ∧ Text.trim other ∈ names action := by
  simp only [← resolve_eq_ok_iff]
  constructor
  · intro same
    cases resolved : resolve name with
    | ok action => exact .inr ⟨action, rfl, same ▸ resolved⟩
    | error error =>
        left
        rcases error_of_resolve resolved with ⟨empty, rfl⟩ | ⟨named, rfl⟩
        · rcases error_of_resolve (same ▸ resolved) with ⟨empty', -⟩ | ⟨-, unlike⟩
          · rw [empty, empty']
          · cases unlike
        · rcases error_of_resolve (same ▸ resolved) with ⟨-, unlike⟩ | ⟨-, alike⟩
          · cases unlike
          · exact NameError.unknown.inj alike
  · rintro (same | ⟨action, resolved, resolved'⟩)
    · rw [← resolve_trim name, same, resolve_trim]
    · rw [resolved, resolved']

/-- No content is what is printed about a missing name. -/
theorem content_ne_missing (action : Action) (form : HyphenForm) :
    action.content form ≠ "Error: ".toList ++ NameError.missing.message := by
  intro same
  cases action with
  | clear =>
      have other : ([] : Text) ≠ "Error: ".toList ++ NameError.missing.message := by
        decide +kernel
      exact other same
  | sample =>
      have invoked : Sample.isInvokedBy (Action.content form .sample) = true :=
        Sample.isInvokedBy_render Sample.isInvokedBy_line form
      have other : Sample.isInvokedBy ("Error: ".toList ++ NameError.missing.message) = false := by
        decide +kernel
      rw [same, other] at invoked
      cases invoked

/-- What is read about a name is as free of line feeds as the name itself. -/
theorem lineFeed_not_mem_message {name : Text} {error : NameError}
    (refused : resolve name = .error error)
    (inside : '\n' ∉ Text.trim name) : '\n' ∉ error.message := by
  have missing : '\n' ∉ NameError.missing.message := by decide +kernel
  have unknown : '\n' ∉ "Trigger not found: ".toList := by decide +kernel
  rcases error_of_resolve refused with ⟨-, rfl⟩ | ⟨-, rfl⟩
  · exact missing
  · intro member
    rcases List.mem_append.1 member with member | member
    · exact unknown member
    · exact inside member

theorem lineFeed_not_mem_content (action : Action) (form : HyphenForm) :
    '\n' ∉ action.content form := by
  cases action with
  | clear => exact List.not_mem_nil
  | sample =>
      intro member
      have noFeed : '\n' ∉ form.mark := by cases form <;> decide
      exact Sample.bare_line.1 (Display.mem_of_mem_render noFeed member)

/-- What a name comes to: its action, or what the user reads where it has none. -/
def called (name : Text) : Except Text Action := (resolve name).mapError NameError.message

theorem called_eq_ok_iff (name : Text) (action : Action) :
    called name = .ok action ↔ Text.trim name ∈ names action := by
  rw [← resolve_eq_ok_iff, called]
  cases resolve name <;> simp [Except.mapError]

theorem called_eq_missing_iff (name : Text) :
    called name = .error NameError.missing.message ↔ Text.trim name = [] := by
  have unnamed : ∀ action, [] ∉ names action := by
    intro action
    cases action <;> decide
  rw [called]
  cases resolved : resolve name with
  | ok action =>
      refine iff_of_false (by simp [Except.mapError]) ?_
      intro empty
      exact unnamed action (empty ▸ (resolve_eq_ok_iff name action).1 resolved)
  | error error =>
      simp only [Except.mapError, Except.error.injEq, NameError.message_inj]
      rcases error_of_resolve resolved with ⟨empty, rfl⟩ | ⟨named, rfl⟩
      · exact iff_of_true rfl empty
      · exact iff_of_false (by simp) named

theorem called_of_unknown {name : Text} (unknown : ∀ action, Text.trim name ∉ names action)
    (named : Text.trim name ≠ []) :
    called name = .error ("Trigger not found: ".toList ++ Text.trim name) := by
  rw [called]
  cases resolved : resolve name with
  | ok action => exact absurd ((resolve_eq_ok_iff name action).1 resolved) (unknown action)
  | error error =>
      rcases error_of_resolve resolved with ⟨empty, -⟩ | ⟨-, rfl⟩
      · exact absurd empty named
      · rfl

theorem called_eq_called_iff (name other : Text) :
    called name = called other ↔ resolve name = resolve other := by
  rw [called, called]
  cases resolve name <;> cases resolve other <;> simp [Except.mapError, NameError.message_inj]

/-- A name comes to what its core comes to, which is all of it but the blank characters at
its ends: one of the two names of an action, nothing, or a word that the user reads again.
So two names come to the same exactly if they have the same core, or cores that name one
action. -/
theorem called_by_core (name : Text) :
    (∃ before core after, Text.Framed name before core after) ∧
      (∀ before core after, Text.Framed name before core after →
        (∀ before' core' after', Text.Framed name before' core' after' →
          core' = core ∧ (core ≠ [] → before' = before ∧ after' = after)) ∧
        (called name = .ok .clear ↔ core = "clear".toList ∨ core = "clearTextArea".toList) ∧
        (called name = .ok .sample ↔ core = "example".toList ∨ core = "showExample".toList) ∧
        (called name = .error "no trigger given".toList ↔ core = []) ∧
        (core ∉ ["clear".toList, "clearTextArea".toList, "example".toList, "showExample".toList,
            []] →
          called name = .error ("Trigger not found: ".toList ++ core))) ∧
      ∀ other, called name = called other ↔
        Text.trim name = Text.trim other ∨
          ∃ action, Text.trim name ∈ names action ∧ Text.trim other ∈ names action := by
  refine ⟨?_, ?_, ?_⟩
  · obtain ⟨before, after, framed⟩ := Text.exists_framed name
    exact ⟨before, Text.trim name, after, framed⟩
  · intro before core after framed
    refine ⟨fun _ _ _ => framed.unique, ?_⟩
    obtain rfl := framed.trim_eq
    refine ⟨?_, ?_, called_eq_missing_iff name, ?_⟩
    · rw [called_eq_ok_iff, names, List.mem_pair]
    · rw [called_eq_ok_iff, names, List.mem_pair]
    · intro other
      simp only [List.mem_cons, List.not_mem_nil, or_false, not_or] at other
      obtain ⟨noClear, noClear', noSample, noSample', named⟩ := other
      refine called_of_unknown ?_ named
      intro action
      cases action with
      | clear => exact fun member => (List.mem_pair.1 member).elim noClear noClear'
      | sample => exact fun member => (List.mem_pair.1 member).elim noSample noSample'
  · intro other
    rw [called_eq_called_iff, resolve_eq_resolve_iff]

end Action

end SampleLine
