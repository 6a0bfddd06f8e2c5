import ComponentSurvey.Json.Read
import ComponentSurvey.Project.Snapshot

/-!
# The program

Parsing sources is left to another program: the snapshot of the project, with the syntax trees of its
files, is read from standard input.
-/

open ComponentSurvey

/-- Runs the command line on the snapshot that standard input holds. -/
def main (arguments : List String) : IO UInt32 := do
  let stdin ← IO.getStdin
  let stdout ← IO.getStdout
  let stderr ← IO.getStderr
  let snapshot := (Json.parse (← stdin.readToEnd)).bind fun json =>
    json.array?.bind fun items => items.mapM SnapshotFile.ofJson?
  match snapshot with
  | none =>
    stderr.putStr "Error: standard input holds no snapshot of a project\n"
    pure 2
  | some items =>
    let outcome := runCommandLine (.ofSnapshot [] items) arguments
    stdout.putStr outcome.output
    stderr.putStr outcome.errors
    match outcome.escape? with
    | some escape => stderr.putStr ("Error: " ++ escape.message ++ "\n")
    | none => pure ()
    pure outcome.status.toUInt32
