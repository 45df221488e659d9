import ForkCensus.CommandLine.Basic
import ForkCensus.Text.Ascii

/-
# Reading the command line

Arguments are read from left to right, and the first mistake counts.
What was read last is kept in hand (`Reader.pending`) until it is known
to be complete; it is put away, and only then checked, when something
else that is known comes or the arguments end.  After `--` everything is
positional.  What is missing is found at the end.
-/

namespace ForkCensus.CommandLine

/-- What a word that begins with a hyphen may be. -/
inductive Switch where
  | flag (f : Flag)
  | setting (s : Setting)
  | help
  | version
deriving Repr, DecidableEq

/-- The switch of a long name. -/
def Switch.ofName? : String → Option Switch
  | "recursive" => some (.flag .recursive)
  | "verbose" => some (.flag .verbose)
  | "quiet" => some (.flag .quiet)
  | "debug" => some (.flag .debug)
  | "auth" => some (.setting .auth)
  | "api-base" => some (.setting .apiBase)
  | "help" => some .help
  | "version" => some .version
  | _ => none

/-- The switch of a letter. -/
def Switch.ofLetter? : Char → Option Switch
  | 'r' => some (.flag .recursive)
  | 'v' => some (.flag .verbose)
  | 'q' => some (.flag .quiet)
  | 'h' => some .help
  | 'V' => some .version
  | _ => none

/-- What was read last and may not be complete. -/
inductive Pending where
  | nothing
  /-- A setting, whose value may still have to come. -/
  | setting (s : Setting) (value : Option String)
  | path (text : String)
  | name (text : String)
  /-- Sources without anything between them. -/
  | sources (texts : List String)
deriving Repr, DecidableEq

/-- What was read so far. -/
structure Reader where
  pending : Pending
  /-- How many positional arguments came. -/
  count : Nat
  path : Option String
  name : Option String
  sources : List String
  auth : Option String
  apiBase : Option String
  flags : List Flag
deriving Repr, DecidableEq

namespace Reader

/-- Nothing was read. -/
def start : Reader :=
  ⟨.nothing, 0, none, none, [], none, none, []⟩

/-- Gives a setting its value, once. -/
def setValue (r : Reader) : Setting → String → Except UsageError Reader
  | .auth, value =>
    if r.auth.isSome then .error .repeated else .ok { r with auth := some value }
  | .apiBase, value =>
    if r.apiBase.isSome then .error .repeated else .ok { r with apiBase := some value }

/-- Puts away what is in hand. -/
def settle (r : Reader) : Except UsageError Reader :=
  let done := { r with pending := .nothing }
  match r.pending with
  | .nothing => .ok done
  | .setting _ none => .error .missingValue
  | .setting s (some value) => done.setValue s value
  | .path text => if text.isEmpty then .error .missingValue else .ok { done with path := some text }
  | .name text => .ok { done with name := some text }
  | .sources texts => .ok { done with sources := r.sources ++ texts }

/-- Raises a flag, once. -/
def raise (r : Reader) (f : Flag) : Except UsageError Reader :=
  if r.flags.contains f then .error .repeated else .ok { r with flags := f :: r.flags }

/-- Reads a switch that stands by itself. -/
def readSwitch (r : Reader) (s : Switch) : Except UsageError Reader := do
  let r ← r.settle
  match s with
  | .flag f => r.raise f
  | .setting s => .ok { r with pending := .setting s none }
  | .help => .error .help
  | .version => .error .version

/-- Reads a long name, with a value behind an equals sign if there is one. -/
def readLong (r : Reader) (text : List Char) : Except UsageError Reader :=
  let (name, value) := match Text.cut '=' text with
    | some (name, value) => (name, some (String.ofList value))
    | none => (text, none)
  match Switch.ofName? (String.ofList name), value with
  | none, _ => .error .unknownArgument
  | some s, none => r.readSwitch s
  | some (.setting s), some value => do
    let r ← r.settle
    r.setValue s value
  | some _, some _ => .error .unwantedValue

/-- Reads letters after a hyphen. -/
def readLetters (r : Reader) (letters : List Char) : Except UsageError Reader :=
  letters.foldlM (fun r c =>
    match Switch.ofLetter? c with
    | some s => r.readSwitch s
    | none => .error .unknownArgument) r

/-- Reads a positional argument. -/
def readPositional (r : Reader) (text : String) : Except UsageError Reader :=
  let counted := { r with count := r.count + 1 }
  match r.count, r.pending with
  | 0, _ => do
    let r ← counted.settle
    return { r with pending := .path text }
  | 1, _ => do
    let r ← counted.settle
    return { r with pending := .name text }
  | _, .sources texts => .ok { counted with pending := .sources (texts ++ [text]) }
  | _, _ => do
    let r ← counted.settle
    return { r with pending := .sources [text] }

/-- Reads a word that begins with no hyphen: the value of a setting that waits for it, or a
positional argument. -/
def readPlain (r : Reader) (text : String) : Except UsageError Reader :=
  match r.pending with
  | .setting s none => .ok { r with pending := .setting s (some text) }
  | _ => r.readPositional text

/-- Reads arguments; `positional` once `--` was met. -/
def read (r : Reader) (positional : Bool) : List String → Except UsageError Reader
  | [] => r.settle
  | arg :: rest =>
    if positional then do
      (← r.readPositional arg).read true rest
    else
      match arg.toList with
      | ['-', '-'] => r.read true rest
      | '-' :: '-' :: text => do (← r.readLong text).read false rest
      | ['-'] => do (← r.readPlain arg).read false rest
      | '-' :: letters => do (← r.readLetters letters).read false rest
      | _ => do (← r.readPlain arg).read false rest

/-- The command line, if nothing is missing. -/
def finish (r : Reader) : Except UsageError CommandLine :=
  match r.path, r.name with
  | some path, some name =>
    if r.sources.isEmpty then .error .missingArgument
    else .ok
      { path, name
        sources := r.sources
        auth := r.auth
        apiBase := r.apiBase
        recursive := r.flags.contains .recursive
        verbose := r.flags.contains .verbose
        quiet := r.flags.contains .quiet
        debug := r.flags.contains .debug }
  | _, _ => .error .missingArgument

end Reader

/-- Reads the arguments of a run. -/
def ofArguments (args : List String) : Except UsageError CommandLine := do
  (← Reader.start.read false args).finish

end ForkCensus.CommandLine
