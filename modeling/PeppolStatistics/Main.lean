import PeppolStatistics.CommandLine.Run
import Std.Time.Format

/-!
# The program

Reads the settings file that the arguments name, runs the command, and prints, logs and writes
what comes of it. The databases live in the process, so one that is named by a file begins empty.
-/

open PeppolStatistics

/-- The text of a file, if it can be read. -/
def readText? (path : String) : IO (Option String) := do
  try
    return some (← IO.FS.readFile path)
  catch _ => return none

/-- The time of the clock as log lines show it. -/
def clockText : IO String := do
  let now ← Std.Time.Timestamp.now
  match universalTime (now.toNanosecondsSinceUnixEpoch.toInt / 1000) with
  | .ok t => return t.iso
  | .error e => return e.message

/-- Prints and writes the outcome of a run; the status of the program. -/
def report (o : Outcome) : IO UInt32 := do
  let time ← clockText
  for e in o.events do
    match e.record.line time with
    | .ok line => IO.eprintln line
    | .error e => IO.eprintln e.text
  for line in o.errors do IO.eprintln line
  IO.print o.output
  match o.written with
  | some (path, text) => IO.FS.writeFile path text
  | none => pure ()
  match o.status with
  | .ok status => return status.toUInt32
  | .error e =>
    IO.eprintln (e.kind.name ++ ": " ++ e.text)
    return 1

/-- Runs the program. -/
def main (arguments : List String) : IO UInt32 := do
  let text ← match Command.ofArguments arguments with
    | .ok (.report c) => readText? c.config
    | .error (.usage _) => do
      IO.eprint usageText
      pure none
    | _ => pure none
  report (runProgram arguments (fun _ => text) .empty)
