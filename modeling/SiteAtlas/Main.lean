import SiteAtlas.Command.Run
import SiteAtlas.Command.Snapshot
import SiteAtlas.Json.Reader

/-! # The command line

The files that a command may look at come as one line of JSON on the standard input. The report goes
to the standard output, followed by the text of the file that the command was asked to write;
complaints go to the standard error.
-/

open SiteAtlas

/-- Carry out the command that the words of a command line ask for. -/
def main (words : List String) : IO UInt32 := do
  let snapshot := (Json.read? (← (← IO.getStdin).getLine)).getD .null
  let outcome := Command.runLine (Workspace.ofSnapshot snapshot) words
  IO.print outcome.output
  if let some (_, text) := outcome.written then IO.print text
  if !outcome.complaint.isEmpty then IO.eprintln outcome.complaint
  return outcome.code.toUInt32
