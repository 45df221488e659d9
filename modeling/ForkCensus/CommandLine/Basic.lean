import ForkCensus.Console

/-
# The command line

What can be asked for when a run is started: three positional arguments
(the folder for the index, its name, one or more sources), four flags and
two options with a value.
-/

namespace ForkCensus

/-- A switch. -/
inductive CommandLine.Flag where
  | recursive
  | verbose
  | quiet
  | debug
deriving Repr, DecidableEq

/-- A setting that takes a value. -/
inductive CommandLine.Setting where
  | auth
  | apiBase
deriving Repr, DecidableEq

/-- What was asked for. -/
structure CommandLine where
  path : String
  name : String
  sources : List String
  auth : Option String
  apiBase : Option String
  recursive : Bool
  verbose : Bool
  quiet : Bool
  debug : Bool
deriving Repr, DecidableEq

/-- Why a command line asks for no run. -/
inductive UsageError where
  /-- A positional argument is not there. -/
  | missingArgument
  | unknownArgument
  /-- An option has no value, or the folder is the empty path. -/
  | missingValue
  /-- A flag or option is given twice. -/
  | repeated
  /-- A flag has a value. -/
  | unwantedValue
  /-- Help is asked for. -/
  | help
  /-- The version is asked for. -/
  | version
deriving Repr, DecidableEq, Inhabited

/-- The verbosity that was asked for. -/
def CommandLine.verbosity (c : CommandLine) : Verbosity :=
  .ofFlags c.quiet c.verbose

end ForkCensus
