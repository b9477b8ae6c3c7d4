/-
The command line program, `main`: a conversation over standard input and output.
-/
import SampleLine.Console

namespace SampleLine

namespace Console

/-- Read the bytes of one line behind those that are read already, newest first. -/
partial def readLine (input : IO.FS.Stream) (line : List UInt8) : IO (List UInt8) := do
  match (← input.read 1).toList with
  | [] => return line.reverse
  | byte :: _ =>
      if byte = 10 then return (byte :: line).reverse else readLine input (byte :: line)

/-- Prompt for lines and answer them until one asks to stop or the input ends. -/
partial def serve (input output : IO.FS.Stream) (session : Session) : IO Unit := do
  output.putStr (String.ofList prompt)
  output.flush
  match ← readLine input [] with
  | [] => return
  | line =>
      match Request.ofLine line with
      | .stop => return
      | .nothing => serve input output session
      | .action name =>
          let (next, reply) := answer session name
          output.putStr (String.ofList reply)
          serve input output next

end Console

end SampleLine

def main : IO Unit := do
  let output ← IO.getStdout
  output.putStr (String.ofList SampleLine.Console.banner)
  SampleLine.Console.serve (← IO.getStdin) output SampleLine.Console.opening
