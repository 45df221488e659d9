import ForkCensus.Session

/-
# The program

Runs a session in the working directory.  What the session may read is
taken into a `FileTree` before it starts, wherever it is, and what it made
is put on the disk when it is over.

There is no network and no terminal here: no request is answered, and
nobody can be asked for a password.  The folder of the user is taken from
the environment alone.
-/

namespace ForkCensus.Program

/-- More steps than any survey takes that gets no answers. -/
def budget : Nat := 1000000

/-- A tree with nothing in it yet but the way to the working directory. -/
def workingTree : IO FileTree := do
  return ⟨[], Files.Path.names (toString (← IO.currentDir))⟩

/-- Enters into a tree what is at a path. -/
def take (t : FileTree) (path : String) : IO FileTree := do
  try
    let bytes ← IO.FS.readBinFile path
    return (t.write path bytes.toList).toOption.getD t
  catch
    | .noFileOrDirectory .. => return t
    | _ => return (t.makeFolder path).toOption.getD t

/-- Makes what is new in a tree. -/
def put (old new : FileTree) : IO Unit := do
  for (place, node) in new.entries do
    if old.get? place != some node then
      let path := "/" ++ String.intercalate "/" place
      match node with
      | .folder => IO.FS.createDirAll path
      | .file bytes => IO.FS.writeBinFile path ⟨bytes.toArray⟩

/-- The arguments and the environment of this process. -/
def invocation (arguments : List String) : IO Invocation := do
  return {
    arguments
    environment := {
      settingsFile := ← IO.getEnv "FORKINDEX_CONFIG"
      settingsHome := ← IO.getEnv "XDG_CONFIG_HOME"
      home := ← IO.getEnv "HOME"
      journalFilter := ← IO.getEnv "RUST_LOG" }
    ask := fun _ => .error "no terminal" }

/-- Prints a line on its stream. -/
def print (l : Line) : IO Unit :=
  match l.stream with
  | .results => IO.println l.text
  | .notices => IO.eprintln l.text

/-- Runs a session; its code says how it ended. -/
def run (arguments : List String) : IO UInt32 := do
  let i ← invocation arguments
  let tree ← (Session.paths i).foldlM take (← workingTree)
  match Session.run Http.Web.unreachable.journaled budget i tree ([], ()) with
  | (none, _) =>
    IO.eprintln "error: the session did not end"
    return 1
  | (some outcome, events, _) =>
    (Session.journal i events.reverse).forM IO.eprintln
    outcome.lines.forM print
    put tree outcome.tree
    return outcome.code.toUInt32

end ForkCensus.Program

/-- Starts the program. -/
def main (arguments : List String) : IO UInt32 :=
  ForkCensus.Program.run arguments
