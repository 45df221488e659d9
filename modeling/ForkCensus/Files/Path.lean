import ForkCensus.Text.Ascii

/-
# Paths of files

A path is a text of names with slashes between them.  Nothing is made
simpler: `./`, `..` and double slashes stay as they were written.
-/

namespace ForkCensus.Files.Path

/-- Whether a path starts at the root of all files. -/
def isAbsolute (p : String) : Bool :=
  p.toList.head? == some '/'

/-- Whether a path ends in a slash. -/
def endsInSlash (p : String) : Bool :=
  p.toList.getLast? == some '/'

/-- A path below another; an absolute path stands by itself. -/
def join (p q : String) : String :=
  if isAbsolute q then q
  else if p.isEmpty || endsInSlash p then p ++ q
  else p ++ "/" ++ q

/-- The names between the slashes. -/
def names (p : String) : List String :=
  ((Text.pieces (· == '/') p.toList).filter fun name => !name.isEmpty).map String.ofList

/-- The names that matter when a path is cut short: all but a dot that is not at the start. -/
def steps (p : String) : List String :=
  match names p with
  | [] => []
  | first :: rest =>
    let rest := rest.filter (· != ".")
    if first == "." && isAbsolute p then rest else first :: rest

/-- The paths above a path, the nearest first. -/
def ancestors (p : String) : List String :=
  let start := if isAbsolute p then "/" else ""
  ((List.range (steps p).length).drop 1).reverse.map fun n =>
    start ++ String.intercalate "/" ((steps p).take n)

end ForkCensus.Files.Path
