-- SUMMARY: The program: runs the command of its arguments.
import Formula.Command.Line
import Formula.Powers
import Std.Time.DateTime.Timestamp

/-! # Program

Reads the arguments, the input if the command asks for it, the clock and a seed, and prints what the
command answers. -/

namespace Formula

/-- The present instant, and random numbers of a fresh seed. -/
def surroundings : IO Ambient := do
  let now ← Std.Time.Timestamp.now
  let nanos := now.toNanosecondsSinceUnixEpoch.val
  let seed ← IO.rand 0 (twoTo 53 - 1)
  return .ofSeed ((Instant.ofNanos? nanos).getD .epoch) seed

/-- The standard input, unless it is a terminal. -/
def pipedInput : IO ByteArray := do
  let stream ← IO.getStdin
  let mut bytes := ByteArray.empty
  if ← stream.isTty then return bytes
  repeat
    let chunk ← stream.read 65536
    if chunk.isEmpty then break
    bytes := bytes ++ chunk
  return bytes

/-- Runs a command. -/
def runLine (line : Command.Line) : IO Command.Line.Outcome := do
  let bytes ← if line.readsInput then pipedInput else pure .empty
  match String.fromUTF8? bytes with
  | some input => return line.run input (← surroundings)
  | none => return Command.Line.unreadable

end Formula

def main (arguments : List String) : IO UInt32 := do
  let outcome ← match Formula.Command.Line.read? arguments with
    | some line => Formula.runLine line
    | none => pure Formula.Command.Line.misuse
  IO.print outcome.output
  IO.eprint outcome.errors
  return outcome.exitCode.toUInt32
