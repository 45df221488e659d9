/-
# What a run prints

Results go to the one stream and warnings and errors to the other.  How
much of it is printed depends on the verbosity: errors always, warnings
and the summary unless a run is quiet, every repository only when asked
for.
-/

namespace ForkCensus

/-- How much is printed. -/
inductive Verbosity where
  | quiet
  | normal
  | verbose
deriving Repr, DecidableEq, Inhabited

/-- The stream for results, and the one for everything else. -/
inductive Stream where
  | results
  | notices
deriving Repr, DecidableEq, Inhabited

/-- A line that was printed. -/
structure Line where
  stream : Stream
  text : String
deriving Repr, DecidableEq

/-- The verbosity that two flags ask for; quiet wins. -/
def Verbosity.ofFlags (quiet verbose : Bool) : Verbosity :=
  if quiet then .quiet else if verbose then .verbose else .normal

namespace Line

/-- A result, unless quiet. -/
def result (v : Verbosity) (text : String) : List Line :=
  if v = .quiet then [] else [⟨.results, text⟩]

/-- A result that is printed only when asked for. -/
def detail (v : Verbosity) (text : String) : List Line :=
  if v = .verbose then [⟨.results, text⟩] else []

/-- A warning, unless quiet. -/
def warning (v : Verbosity) (text : String) : List Line :=
  if v = .quiet then [] else [⟨.notices, s!"warning: {text}"⟩]

/-- An error. -/
def error (text : String) : List Line :=
  [⟨.notices, s!"error: {text}"⟩]

/-- What a stream shows after lines were printed. -/
def shown (stream : Stream) (lines : List Line) : String :=
  String.join ((lines.filter fun l => l.stream = stream).map fun l => l.text ++ "\n")

end Line

end ForkCensus
