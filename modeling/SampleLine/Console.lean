/-
The panel driven from a terminal: `transcript` is what `main` prints.  Each line of
input is answered by what the surface then holds.  A line runs through its line feed
or to the end of the input.  A line that is not UTF-8, or that says `exit`, ends the
conversation.
-/
import SampleLine.Session

namespace SampleLine

namespace Console

def banner : Text :=
  "triggers: ".toList ++ List.intercalate ", ".toList Action.listed ++
    " (exit to quit)\n".toList

def prompt : Text := "[panel] ➤ ".toList

/-- The lines of an input, each with its line feed if it has one. -/
def lines : List UInt8 → List (List UInt8)
  | [] => []
  | byte :: rest =>
      if byte = 10 then [byte] :: lines rest
      else
        match lines rest with
        | [] => [[byte]]
        | line :: later => (byte :: line) :: later

inductive Request where
  | stop
  | nothing
  | action (name : Text)
deriving DecidableEq, Repr

def Request.ofLine (line : List UInt8) : Request :=
  match Text.ofUtf8? line with
  | none => .stop
  | some text =>
      let bare := Text.trim text
      if bare = "exit".toList then .stop
      else if bare = [] then .nothing
      else .action bare

/-- The answer to a named action, and the session behind it. -/
def answer (session : Session) (name : Text) : Session × Text :=
  match session.step (.named name) with
  | (next, .refused error) => (next, "Error: ".toList ++ error.message ++ ['\n'])
  | (next, _) => (next, next.content ++ ['\n'])

/-- All that is printed from one prompt on. -/
def converse (session : Session) : List (List UInt8) → Text
  | [] => prompt
  | line :: later =>
      prompt ++
        match Request.ofLine line with
        | .stop => []
        | .nothing => converse session later
        | .action name =>
            let (next, reply) := answer session name
            reply ++ converse next later

def opening : Session := Session.start Options.default []

/-- The whole output for an input. -/
def transcript (input : List UInt8) : Text :=
  banner ++ converse opening (lines input)

theorem lines_flatten (input : List UInt8) : (lines input).flatten = input := by
  induction input with
  | nil => rfl
  | cons byte rest ih =>
      by_cases feed : byte = 10
      · simp [lines, feed, ih]
      · simp only [lines, feed, if_false]
        split
        · rename_i ended
          simpa [ended] using ih
        · rename_i line later split
          rw [split] at ih
          simpa using ih

example : lines [97, 10, 10, 13, 98] = [[97, 10], [10], [13, 98]] := by decide

end Console

end SampleLine
