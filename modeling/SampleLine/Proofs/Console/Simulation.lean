/-
The terminal program and a session that is given the same names.  What the
program prints is told by the outcomes of the session's steps: a line that is
blank takes no step, and every other line takes one and prints one line.
-/
import SampleLine.Proofs.Action.Naming
import SampleLine.Proofs.Console.History
import SampleLine.Proofs.Session.Effects

namespace SampleLine

namespace Console

/-- The texts of the lines before the first one that ends the conversation. -/
def spoken (input : List (List UInt8)) : List Text := (heard input).filterMap Text.ofUtf8?

def asked (texts : List Text) : List Text := texts.filter fun text => Text.trim text ≠ []

theorem exists_text_of_not_stops {line : List UInt8} (goes : ¬ Stops line) :
    ∃ text, line = Text.utf8 text ∧ Text.trim text ≠ "exit".toList := by
  cases read : Text.ofUtf8? line with
  | none => exact absurd (.inl read) goes
  | some text =>
      refine ⟨text, (Text.ofUtf8?_eq_some_iff _ _).1 read, ?_⟩
      intro exit
      exact goes (.inr ⟨text, read, exit⟩)

theorem ofLine_utf8 {text : Text} (goes : Text.trim text ≠ "exit".toList) :
    Request.ofLine (Text.utf8 text) =
      if Text.trim text = [] then .nothing else .action (Text.trim text) := by
  simp only [Request.ofLine, Text.ofUtf8?_utf8, goes, if_false]

theorem spoken_cons_of_stops {line : List UInt8} (stops : Stops line) (later : List (List UInt8)) :
    spoken (line :: later) = [] := by
  rw [spoken, heard_cons, if_pos stops, List.filterMap_nil]

theorem spoken_utf8_cons {text : Text} (goes : Text.trim text ≠ "exit".toList)
    (later : List (List UInt8)) : spoken (Text.utf8 text :: later) = text :: spoken later := by
  have goes' : ¬ Stops (Text.utf8 text) := mt (stops_utf8_iff text).1 goes
  rw [spoken, heard_cons, if_neg goes', List.filterMap_cons_some (Text.ofUtf8?_utf8 text), spoken]

theorem heard_eq_map_spoken (input : List (List UInt8)) :
    heard input = (spoken input).map Text.utf8 := by
  induction input with
  | nil => rfl
  | cons line later ih =>
      by_cases stops : Stops line
      · rw [spoken_cons_of_stops stops, heard_cons, if_pos stops, List.map_nil]
      · obtain ⟨text, rfl, goes⟩ := exists_text_of_not_stops stops
        rw [spoken_utf8_cons goes, heard_cons, if_neg stops, ih, List.map_cons]

theorem asked_cons_of_blank {text : Text} (blank : Text.trim text = []) (texts : List Text) :
    asked (text :: texts) = asked texts := by
  simp [asked, blank]

theorem asked_cons_of_ne {text : Text} (named : Text.trim text ≠ []) (texts : List Text) :
    asked (text :: texts) = text :: asked texts := by
  simp [asked, named]

/-- What is printed for the outcome of a step: the content that it leaves, or its error. -/
def shown : Session × Session.Reply → Text
  | (_, .refused error) => "Error: ".toList ++ error.message ++ ['\n']
  | (session, _) => session.content ++ ['\n']

/-- A conversation over some texts, told by the outcomes of the steps of a session: a
prompt before each text and one at the end, and an outcome behind each that is not blank. -/
inductive Told : List Text → List (Session × Session.Reply) → Text → Prop
  | ended : Told [] [] prompt
  | blank {text : Text} {texts : List Text} {outcomes : List (Session × Session.Reply)}
      {printed : Text} (blank : Text.trim text = []) (later : Told texts outcomes printed) :
      Told (text :: texts) outcomes (prompt ++ printed)
  | answered {text : Text} {texts : List Text} {outcome : Session × Session.Reply}
      {outcomes : List (Session × Session.Reply)} {printed : Text} (named : Text.trim text ≠ [])
      (later : Told texts outcomes printed) :
      Told (text :: texts) (outcome :: outcomes) (prompt ++ (shown outcome ++ printed))

theorem answer_eq (session : Session) (name : Text) :
    answer session name =
      ((session.step (.named name)).1, shown (session.step (.named name))) := by
  unfold answer
  rcases session.step (.named name) with ⟨next, outcome⟩
  cases outcome with
  | _ => rfl

/-- The program trims a name before the session does, which makes no difference. -/
theorem answer_trim (session : Session) (name : Text) :
    answer session (Text.trim name) =
      ((session.step (.named name)).1, shown (session.step (.named name))) := by
  have same : session.step (.named (Text.trim name)) = session.step (.named name) := by
    simp only [Session.step, Action.resolve_trim]
  rw [answer_eq, same]

/-- What is printed from a prompt on is told by the session that the program is in. -/
theorem told_converse (session : Session) (input : List (List UInt8)) :
    Told (spoken input) (session.run ((asked (spoken input)).map .named))
      (converse session input) := by
  induction input generalizing session with
  | nil => exact .ended
  | cons line later ih =>
      by_cases stops : Stops line
      · rw [spoken_cons_of_stops stops, converse, (ofLine_eq_stop_iff line).2 stops]
        exact .ended
      · obtain ⟨text, rfl, goes⟩ := exists_text_of_not_stops stops
        rw [spoken_utf8_cons goes, converse, ofLine_utf8 goes]
        by_cases blank : Text.trim text = []
        · rw [if_pos blank, asked_cons_of_blank blank]
          exact .blank blank (ih session)
        · rw [if_neg blank, asked_cons_of_ne blank]
          simp only [answer_trim]
          exact .answered blank (ih _)

/-- A text that is one whole line: a line feed ends it and there is no other. -/
def OneLine (text : Text) : Prop := ∃ body, text = body ++ ['\n'] ∧ '\n' ∉ body

theorem OneLine.count_eq_one {text : Text} (line : OneLine text) : text.count '\n' = 1 := by
  obtain ⟨body, rfl, inside⟩ := line
  rw [List.count_append, List.count_eq_zero_of_not_mem inside]
  rfl

/-- A line feed stands at the end of a line only. -/
theorem lineFeed_not_mem_dropLast {input line : List UInt8} (member : line ∈ lines input) :
    10 ∉ line.dropLast := by
  induction input generalizing line with
  | nil => cases member
  | cons byte rest ih =>
      by_cases feed : byte = 10
      · simp only [lines, feed, if_true, List.mem_cons] at member
        rcases member with rfl | member
        · exact List.not_mem_nil
        · exact ih member
      · cases split : lines rest with
        | nil =>
            simp only [lines, feed, if_false, split, List.mem_singleton] at member
            rw [member]
            exact List.not_mem_nil
        | cons front behind =>
            simp only [lines, feed, if_false, split, List.mem_cons] at member
            rcases member with rfl | member
            · have inside : 10 ∉ front.dropLast := ih (by simp [split])
              cases front with
              | nil => exact List.not_mem_nil
              | cons first front =>
                  rw [List.dropLast_cons_cons, List.mem_cons]
                  rintro (rfl | member)
                  · exact feed rfl
                  · exact inside member
            · exact ih (by simp [split, member])

theorem lineFeed_mem_dropLast_utf8 {text : Text} (member : '\n' ∈ text.dropLast) :
    10 ∈ (Text.utf8 text).dropLast := by
  rcases List.eq_nil_or_concat' text with rfl | ⟨init, last, rfl⟩
  · cases member
  · rw [List.dropLast_concat] at member
    obtain ⟨before, behind, rfl⟩ := List.append_of_mem member
    have nonempty : String.utf8EncodeChar last ≠ [] := by
      rw [← List.length_pos_iff, String.length_utf8EncodeChar]
      exact Char.utf8Size_pos last
    have feed : String.utf8EncodeChar '\n' = [10] := by decide
    have written : Text.utf8 (before ++ '\n' :: behind ++ [last]) =
        Text.utf8 before ++ 10 :: Text.utf8 behind ++ String.utf8EncodeChar last := by
      simp [feed]
    rw [written, List.dropLast_append_of_ne_nil nonempty]
    simp

/-- The only line feed of a line is a blank at its end, and goes when the line is trimmed. -/
theorem lineFeed_not_mem_trim {input : List UInt8} {text : Text}
    (member : text ∈ asked (spoken (lines input))) : '\n' ∉ Text.trim text := by
  have said : Text.utf8 text ∈ heard (lines input) := by
    rw [heard_eq_map_spoken]
    exact List.mem_map_of_mem (List.mem_filter.1 member).1
  have line : Text.utf8 text ∈ lines input := (List.takeWhile_sublist _).mem said
  intro feed
  exact lineFeed_not_mem_dropLast line
    (lineFeed_mem_dropLast_utf8 (Text.mem_dropLast_of_mem_trim (by decide) feed))

/-- The answer to a name is one line, whatever the session holds. -/
theorem oneLine_shown {name : Text} (inside : '\n' ∉ Text.trim name) (session : Session) :
    OneLine (shown (session.step (.named name))) := by
  cases resolved : Action.resolve name with
  | ok action =>
      rw [Session.step_named_of_ok resolved]
      exact ⟨_, rfl, action.lineFeed_not_mem_content session.form⟩
  | error error =>
      have told : '\n' ∉ "Error: ".toList := by decide +kernel
      rw [Session.step_named_of_error resolved]
      refine ⟨_, rfl, ?_⟩
      intro member
      rcases List.mem_append.1 member with member | member
      · exact told member
      · exact Action.lineFeed_not_mem_message resolved inside member

theorem shown_ne_missing {name : Text} (named : Text.trim name ≠ []) (session : Session) :
    shown (session.step (.named name)) ≠ shown (opening, .refused .missing) := by
  cases resolved : Action.resolve name with
  | ok action =>
      rw [Session.step_named_of_ok resolved]
      intro same
      exact action.content_ne_missing session.form (List.append_cancel_right same)
  | error error =>
      rw [Session.step_named_of_error resolved]
      intro same
      have message : error.message = NameError.missing.message :=
        List.append_cancel_left (List.append_cancel_right same)
      rcases Action.error_of_resolve resolved with ⟨empty, -⟩ | ⟨-, rfl⟩
      · exact named empty
      · exact NameError.unknown_message_ne _ message

theorem Told.count_eq_length {texts : List Text} {outcomes : List (Session × Session.Reply)}
    {printed : Text} (told : Told texts outcomes printed)
    (each : ∀ outcome ∈ outcomes, OneLine (shown outcome)) :
    printed.count '\n' = outcomes.length := by
  have asks : prompt.count '\n' = 0 := by decide +kernel
  induction told with
  | ended => exact asks
  | blank _ _ ih => rw [List.count_append, asks, Nat.zero_add, ih each]
  | answered _ _ ih =>
      obtain ⟨first, others⟩ := List.forall_mem_cons.1 each
      rw [List.count_append, List.count_append, asks, first.count_eq_one, ih others,
        List.length_cons]
      omega

/-- The outcomes of a session that starts empty with the default options and is given
what an input asks for, line by line. -/
def outcomes (input : List UInt8) : List (Session × Session.Reply) :=
  opening.run ((asked (spoken (lines input))).map .named)

theorem outcomes_length (input : List UInt8) :
    (outcomes input).length = (asked (spoken (lines input))).length := by
  rw [outcomes, Session.run_length, List.length_map]

theorem told_opening (input : List UInt8) :
    Told (spoken (lines input)) (outcomes input) (converse opening (lines input)) :=
  told_converse opening (lines input)

theorem shown_of_mem_outcomes {input : List UInt8} {outcome : Session × Session.Reply}
    (member : outcome ∈ outcomes input) :
    OneLine (shown outcome) ∧ shown outcome ≠ shown (opening, .refused .missing) := by
  obtain ⟨step, among, before, rfl⟩ := Session.exists_step_of_mem_run member
  obtain ⟨name, request, rfl⟩ := List.mem_map.1 among
  have named : Text.trim name ≠ [] := of_decide_eq_true (List.mem_filter.1 request).2
  exact ⟨oneLine_shown (lineFeed_not_mem_trim request) before, shown_ne_missing named before⟩

/-- The program prints its banner and then what a session tells that is given each line
before the stop that is not blank.  Every answer is one line, no line is answered as if it
named nothing, and so the line feeds of the output are one more than those lines. -/
theorem transcript_told_by_run (input : List UInt8) :
    heard (lines input) = (spoken (lines input)).map Text.utf8 ∧
      (∃ printed, transcript input = banner ++ printed ∧
        Told (spoken (lines input)) (outcomes input) printed) ∧
      (∀ outcome ∈ outcomes input,
        OneLine (shown outcome) ∧ shown outcome ≠ shown (opening, .refused .missing)) ∧
      (transcript input).count '\n' = 1 + (asked (spoken (lines input))).length := by
  refine ⟨heard_eq_map_spoken _, ⟨_, rfl, told_opening input⟩, ?_, ?_⟩
  · intro outcome member
    exact shown_of_mem_outcomes member
  · have first : banner.count '\n' = 1 := by decide +kernel
    have later : (converse opening (lines input)).count '\n' = (outcomes input).length :=
      (told_opening input).count_eq_length fun outcome member => (shown_of_mem_outcomes member).1
    rw [transcript, List.count_append, first, later, outcomes_length]

end Console

end SampleLine
