import Docent.CommandLine.Snapshot

/-!
# The program

Reads a snapshot of a directory from standard input and runs on it with the arguments. What is
printed goes to standard output, and what is logged or complained about to standard error. The
files that were written follow as a last line of standard output.
-/

open Docent in
def main (args : List String) : IO UInt32 := do
  let line ← (← IO.getStdin).getLine
  match CommandLine.Snapshot.ofText? line with
  | none =>
    IO.eprintln "Error: standard input holds no snapshot"
    return 2
  | some snapshot =>
    let o := snapshot.run "." args
    IO.print o.session.printed
    IO.eprint o.session.place.journal.screen
    let written := CommandLine.Snapshot.changes snapshot.tree o.session.place.tree
    if written.isTrue then IO.println (Json.compact written)
    match o.ending with
    | .ok status => return status.toUInt32
    | .error fault =>
      IO.eprintln fault.message
      return 1
