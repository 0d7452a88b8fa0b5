import FillInStory.Startup

/-! # The command line

The program runs with its arguments on the host that standard input describes, or on an empty one, and
prints what the run prints. It ends with the run's exit code, or with zero once the server would answer
requests.
-/

namespace FillInStory

partial def readAll (stream : IO.FS.Stream) (before : ByteArray) : IO ByteArray := do
  let more ← stream.read 65536
  if more.isEmpty then return before else readAll stream (before ++ more)

/-- A program of which nothing is known but its version. -/
def unknownBuild : BuildInfo := ⟨"unknown", "unknown", "unknown", "unknown", "unknown"⟩

/-- Prints what a run shows and returns its exit code. -/
def report (run : Run) (now : Instant) : IO UInt32 := do
  IO.print (String.ofList (run.output now.text))
  if run.ending.isAnswer then IO.print (String.ofList run.ending.usageText)
  IO.eprint (String.ofList run.ending.complaint)
  return UInt32.ofNat (run.ending.exitCode?.getD 0)

end FillInStory

def main (arguments : List String) : IO UInt32 := do
  let input ← FillInStory.readAll (← IO.getStdin) ByteArray.empty
  let description := if input.isEmpty then some (.object []) else FillInStory.Json.ofBytes? input.toList
  match description.bind (FillInStory.Host.ofJson? FillInStory.unknownBuild) with
  | none =>
    IO.eprintln "Standard input does not describe a host."
    return 2
  | some host => FillInStory.report (host.start (arguments.map String.toList)) host.now
