/-
What the terminal program prints, line by line.  The answer to a line rests on
that line and on the form of the hyphens, which no line changes.  So what was
said before never shows in a later answer, and nothing is answered from the
first line on that ends the conversation.
-/
import Mathlib.Data.List.TakeWhile
import SampleLine.Console

namespace SampleLine

namespace Console

/-- An input breaks off behind a line feed, or is empty. -/
def Whole (input : List UInt8) : Prop := input = [] ∨ input.getLast? = some 10

theorem whole_of_whole_cons {byte : UInt8} {rest : List UInt8} (whole : Whole (byte :: rest)) :
    Whole rest := by
  rcases whole with empty | last
  · contradiction
  · by_cases empty : rest = []
    · exact Or.inl empty
    · rw [List.getLast?_cons_of_ne_nil empty] at last
      exact Or.inr last

theorem lines_ne_nil {input : List UInt8} (nonempty : input ≠ []) : lines input ≠ [] := by
  intro empty
  apply nonempty
  rw [← lines_flatten input, empty, List.flatten_nil]

theorem lines_append {first : List UInt8} (whole : Whole first) (second : List UInt8) :
    lines (first ++ second) = lines first ++ lines second := by
  induction first with
  | nil => rfl
  | cons byte rest ih =>
      have later := ih (whole_of_whole_cons whole)
      by_cases feed : byte = 10
      · simp [lines, feed, later]
      · have nonempty : rest ≠ [] := by
          rintro rfl
          rcases whole with empty | last
          · contradiction
          · exact feed (by simpa using last)
        obtain ⟨line, behind, split⟩ := List.exists_cons_of_ne_nil (lines_ne_nil nonempty)
        rw [split, List.cons_append] at later
        simp only [List.cons_append, lines, feed, if_false, later, split]

/-- The first line is a line by itself, and so are the others without it. -/
theorem lines_eq_cons {input line : List UInt8} {later : List (List UInt8)}
    (split : lines input = line :: later) :
    lines line = [line] ∧ lines later.flatten = later ∧ (later ≠ [] → Whole line) := by
  induction input generalizing line with
  | nil => contradiction
  | cons byte rest ih =>
      by_cases feed : byte = 10
      · simp only [lines, feed, if_true, List.cons.injEq] at split
        obtain ⟨rfl, rfl⟩ := split
        refine ⟨rfl, ?_, fun _ => Or.inr rfl⟩
        rw [lines_flatten]
      · cases hrest : lines rest with
        | nil =>
            simp only [lines, feed, if_false, hrest, List.cons.injEq] at split
            obtain ⟨rfl, rfl⟩ := split
            exact ⟨by simp [lines, feed], rfl, fun others => (others rfl).elim⟩
        | cons front behind =>
            simp only [lines, feed, if_false, hrest, List.cons.injEq] at split
            obtain ⟨rfl, rfl⟩ := split
            obtain ⟨alone, others, whole⟩ := ih hrest
            refine ⟨by simp [lines, feed, alone], others, fun more => ?_⟩
            rcases whole more with rfl | last
            · contradiction
            · refine Or.inr ?_
              rw [List.getLast?_cons_of_ne_nil (by rintro rfl; contradiction), last]

/-- The first lines of an input are the lines of what they make up. -/
theorem lines_flatten_of_lines_eq_append {input : List UInt8} {before behind : List (List UInt8)}
    (split : lines input = before ++ behind) : lines before.flatten = before := by
  induction before generalizing input with
  | nil => rfl
  | cons line before ih =>
      obtain ⟨alone, others, whole⟩ := lines_eq_cons split
      have later : lines before.flatten = before := ih others
      by_cases last : before = []
      · rw [last, List.flatten_cons, List.flatten_nil, List.append_nil, alone]
      · have whole : Whole line := whole (by simp [last])
        rw [List.flatten_cons, lines_append whole, alone, later, List.singleton_append]

/-- A line ends the conversation: it is not UTF-8, or it says `exit`. -/
def Stops (line : List UInt8) : Prop :=
  Text.ofUtf8? line = none ∨
    ∃ text, Text.ofUtf8? line = some text ∧ Text.trim text = "exit".toList

theorem stops_utf8_iff (text : Text) :
    Stops (Text.utf8 text) ↔ Text.trim text = "exit".toList := by
  simp [Stops, Text.ofUtf8?_utf8]

theorem ofLine_eq_stop_iff (line : List UInt8) : Request.ofLine line = .stop ↔ Stops line := by
  rw [Request.ofLine, Stops]
  cases read : Text.ofUtf8? line with
  | none => simp
  | some text =>
      by_cases empty : Text.trim text = []
      · simp [empty]
      · simp [empty]

instance (line : List UInt8) : Decidable (Stops line) :=
  decidable_of_iff _ (ofLine_eq_stop_iff line)

def reply (form : HyphenForm) (name : Text) : Text :=
  match Action.resolve name with
  | .ok action => action.content form ++ ['\n']
  | .error error => "Error: ".toList ++ error.message ++ ['\n']

/-- What is printed for a line that does not end the conversation. -/
def said (form : HyphenForm) (line : List UInt8) : Text :=
  match Request.ofLine line with
  | .action name => reply form name
  | _ => []

/-- An answer does not show what the surface held: the content that it prints has
just been written. -/
theorem answer_snd (session : Session) (name : Text) :
    (answer session name).2 = reply session.form name := by
  rw [reply]
  cases resolved : Action.resolve name with
  | ok action => simp only [answer, Session.step, resolved, Session.perform]
  | error error => simp only [answer, Session.step, resolved]

theorem answer_fst_form (session : Session) (name : Text) :
    (answer session name).1.form = session.form := by
  cases resolved : Action.resolve name with
  | ok action => simp only [answer, Session.step, resolved, Session.perform]
  | error error => simp only [answer, Session.step, resolved]

/-- The lines before the first one that ends the conversation. -/
def heard (input : List (List UInt8)) : List (List UInt8) :=
  input.takeWhile fun line => ¬ Stops line

@[simp] theorem heard_nil : heard [] = [] := rfl

theorem heard_cons (line : List UInt8) (later : List (List UInt8)) :
    heard (line :: later) = if Stops line then [] else line :: heard later := by
  by_cases stops : Stops line
  · simp [heard, stops]
  · simp [heard, stops]

theorem heard_append_of_forall {input : List (List UInt8)} (goes : ∀ line ∈ input, ¬ Stops line)
    (later : List (List UInt8)) : heard (input ++ later) = input ++ heard later := by
  induction input with
  | nil => rfl
  | cons line rest ih =>
      have behind := ih fun other member => goes other (List.mem_cons_of_mem line member)
      rw [List.cons_append, heard_cons, if_neg (goes line List.mem_cons_self), behind,
        List.cons_append]

theorem heard_append_of_exists {input : List (List UInt8)} (stops : ∃ line ∈ input, Stops line)
    (later : List (List UInt8)) : heard (input ++ later) = heard input := by
  induction input with
  | nil => simp at stops
  | cons line rest ih =>
      by_cases stop : Stops line
      · rw [List.cons_append, heard_cons, heard_cons, if_pos stop, if_pos stop]
      · have behind : ∃ other ∈ rest, Stops other := by
          obtain ⟨other, member, hother⟩ := stops
          rcases List.mem_cons.1 member with rfl | member
          · contradiction
          · exact ⟨other, member, hother⟩
        rw [List.cons_append, heard_cons, heard_cons, if_neg stop, if_neg stop, ih behind]

theorem not_stops_of_mem_heard {input : List (List UInt8)} :
    ∀ line ∈ heard input, ¬ Stops line := by
  intro line member
  simpa using List.mem_takeWhile_imp member

theorem heard_of_forall {input : List (List UInt8)} (goes : ∀ line ∈ input, ¬ Stops line) :
    heard input = input := by
  have all := heard_append_of_forall goes []
  rwa [List.append_nil, heard_nil, List.append_nil] at all

/-- A conversation is a prompt for each line that is heard, the answers between
them.  The content that the session starts with does not count. -/
theorem converse_eq (session : Session) (input : List (List UInt8)) :
    converse session input =
      prompt ++ (heard input).flatMap fun line => said session.form line ++ prompt := by
  induction input generalizing session with
  | nil => simp [converse, heard]
  | cons line later ih =>
      cases request : Request.ofLine line with
      | stop =>
          have stops : Stops line := (ofLine_eq_stop_iff line).1 request
          simp [converse, heard_cons, request, stops]
      | nothing =>
          have goes : ¬ Stops line := by simp [← ofLine_eq_stop_iff, request]
          simp [converse, heard_cons, request, goes, said, ih]
      | action name =>
          have goes : ¬ Stops line := by simp [← ofLine_eq_stop_iff, request]
          simp [converse, heard_cons, request, goes, said, ih, answer_snd, answer_fst_form]

def greeting : Text := banner ++ prompt

/-- What is printed behind the greeting. -/
def tail (input : List UInt8) : Text := (transcript input).drop greeting.length

theorem transcript_eq (input : List UInt8) :
    transcript input =
      greeting ++ (heard (lines input)).flatMap fun line => said opening.form line ++ prompt := by
  rw [transcript, converse_eq, greeting, List.append_assoc]

theorem tail_eq (input : List UInt8) :
    tail input = (heard (lines input)).flatMap fun line => said opening.form line ++ prompt := by
  rw [tail, transcript_eq, List.drop_left]

/-- The part of an input before the first line that ends the conversation. -/
def beforeStop (input : List UInt8) : List UInt8 := (heard (lines input)).flatten

theorem lines_beforeStop (input : List UInt8) : lines (beforeStop input) = heard (lines input) :=
  lines_flatten_of_lines_eq_append (List.takeWhile_append_dropWhile).symm

/-- Behind whole lines the conversation goes on as if it had just begun, unless
one of them ends it.  Then the lines from that one on count for nothing. -/
theorem transcript_append_of_whole {first : List UInt8} (whole : Whole first)
    (second : List UInt8) :
    (∀ input, transcript input = greeting ++ tail input) ∧
      ((∀ line ∈ lines first, ¬ Stops line) →
        transcript (first ++ second) = transcript first ++ tail second) ∧
      ((∃ line ∈ lines first, Stops line) →
        transcript (first ++ second) = transcript first ∧
          transcript first = transcript (beforeStop first)) := by
  refine ⟨fun input => ?_, fun goes => ?_, fun stops => ⟨?_, ?_⟩⟩
  · rw [tail_eq, transcript_eq]
  · rw [transcript_eq, transcript_eq, tail_eq, lines_append whole, heard_append_of_forall goes,
      heard_of_forall goes, List.flatMap_append, List.append_assoc]
  · rw [transcript_eq, transcript_eq, lines_append whole, heard_append_of_exists stops]
  · rw [transcript_eq, transcript_eq, lines_beforeStop,
      heard_of_forall not_stops_of_mem_heard]

/-- Behind the line `clear` the line `x` is answered as at the beginning, and
behind the lines `clear` and `exit` not at all. -/
theorem transcript_append_of_whole_clear :
    Whole [99, 108, 101, 97, 114, 10] ∧
      transcript ([99, 108, 101, 97, 114, 10] ++ [120]) =
        transcript [99, 108, 101, 97, 114, 10] ++ tail [120] ∧
      Whole [99, 108, 101, 97, 114, 10, 101, 120, 105, 116, 10] ∧
      transcript ([99, 108, 101, 97, 114, 10, 101, 120, 105, 116, 10] ++ [120]) =
        transcript [99, 108, 101, 97, 114, 10, 101, 120, 105, 116, 10] := by
  have clear : ¬ Stops [99, 108, 101, 97, 114, 10] := by
    have written : [99, 108, 101, 97, 114, 10] = Text.utf8 ['c', 'l', 'e', 'a', 'r', '\n'] := by
      decide
    rw [written, stops_utf8_iff]
    decide
  have exit : Stops [101, 120, 105, 116, 10] := by
    have written : [101, 120, 105, 116, 10] = Text.utf8 ['e', 'x', 'i', 't', '\n'] := by decide
    rw [written, stops_utf8_iff]
    decide
  refine ⟨Or.inr rfl, ?_, Or.inr rfl, ?_⟩
  · apply (transcript_append_of_whole (Or.inr rfl) [120]).2.1
    simpa [lines] using clear
  · apply ((transcript_append_of_whole (Or.inr rfl) [120]).2.2 _).1
    exact ⟨[101, 120, 105, 116, 10], by simp [lines], exit⟩

end Console

end SampleLine
