import LineCalculator.Console.Session

/-!
# Command line

The program around a session: it reads the surroundings, prints the greeting before
it waits for a line, and delivers the answer.  Input is read byte by byte and never
beyond the first line feed.
-/

namespace LineCalculator.Console

/-- Read the bytes of the first line, with its line feed if it has one. -/
partial def readLine (input : IO.FS.Stream) (bytes : List UInt8) : IO (List UInt8) := do
  match (← input.read 1).toList with
  | [] => return bytes.reverse
  | byte :: _ =>
      if byte = lineFeed then return (byte :: bytes).reverse
      else readLine input (byte :: bytes)

/-- Print what a session prints and end with its status. -/
def deliver (output : Output) : IO UInt32 := do
  (← IO.getStdout).putStr output.printed
  (← IO.getStderr).putStr output.reported
  return output.status.toUInt32

end LineCalculator.Console

open LineCalculator.Console in
/-- Run one session. -/
def main (texts : List String) : IO UInt32 := do
  let noColor? ← IO.getEnv "NO_COLOR"
  let logFilter? ← IO.getEnv "RUST_LOG"
  match Session.ofArguments { noColor?, logFilter? } texts with
  | .error output => deliver output
  | .ok session =>
      match session.arguments.expression? with
      | some line => deliver (session.answer line)
      | none =>
          let stdout ← IO.getStdout
          stdout.putStr session.greeting
          stdout.flush
          deliver (session.answerInput (← readLine (← IO.getStdin) []))
