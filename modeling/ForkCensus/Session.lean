import ForkCensus.Build
import ForkCensus.CommandLine.Reader
import ForkCensus.Forge.Client
import ForkCensus.Journal.Filter
import ForkCensus.Settings.Load

/-
# A session

A session is one run of the program from its arguments to its exit code:
read the arguments, load the settings, make a plan, build the index, and
say how it went.  Nothing is sent and no file is touched before there is
a plan.
-/

namespace ForkCensus

/-- What is outside of a session: the arguments, the environment, and whoever answers when a
password is asked for. -/
structure Invocation where
  arguments : List String
  environment : Environment
  ask : String → Except String String

/-- How a session ended. -/
structure Outcome where
  code : UInt8
  lines : List Line
  tree : FileTree

namespace Session

/-- The version of the program. -/
def version : String := "forkindex 0.1.0"

/-- An error in words, with the causes behind it. -/
def explain (causes : List String) : String :=
  String.intercalate ": " causes

/-- The end of a session that failed after these lines. -/
def failed (lines : List Line) (causes : List String) (tree : FileTree) : Outcome :=
  ⟨1, lines ++ Line.error (explain causes), tree⟩

/-- The end of a session without a command line. -/
def refused (e : UsageError) (tree : FileTree) : Outcome :=
  match e with
  | .version => ⟨0, [⟨.results, version⟩], tree⟩
  | .help => ⟨0, [], tree⟩
  | _ => ⟨2, [], tree⟩

/-- The filter for the journal: the one of the environment if it can be read, else one for the
events that the command line asks for. -/
def filter (env : Environment) (debug : Bool) : Journal.Filter :=
  ((env.journalFilter.bind Journal.Filter.read?).getD
    (.upTo (if debug then .debug else .info)))

variable {τ : Type}

/-- Builds the index of a plan and says how it went. -/
def execute (W : Http.Web τ) (budget : Nat) (plan : Plan) (tree : FileTree) (s : τ) :
    Option Outcome × τ :=
  let client := Client.ofBase plan.credentials plan.base
  let s := W.note (.starting client.display plan.recursive) s
  let result := Build.run (client.forge W) budget plan tree s
  match result.outcome with
  | none => (none, result.state)
  | some (.error e) => (some (failed result.lines e.causes result.tree), result.state)
  | some (.ok summary) =>
    let told := Line.result plan.verbosity
      s!"wrote {summary.repositories} repositories to {summary.path}"
    (some ⟨0, result.lines ++ told, result.tree⟩, result.state)

/-- Loads the settings, makes a plan and executes it. -/
def start (W : Http.Web τ) (budget : Nat) (i : Invocation) (c : CommandLine) (tree : FileTree)
    (s : τ) : Option Outcome × τ :=
  match Settings.load i.environment tree with
  | .error e => (some (failed [] ("failed to load configuration" :: e.causes) tree), s)
  | .ok loaded =>
    let s := match loaded.path with
      | some path => W.note (.settingsLoaded path) s
      | none => s
    match Plan.make c loaded.values i.ask with
    | .error e => (some (failed [] e.causes tree), s)
    | .ok plan => execute W budget plan tree s

/-- Runs a session in a directory; no outcome means that the budget of steps was too small. -/
def run (W : Http.Web τ) (budget : Nat) (i : Invocation) (tree : FileTree) (s : τ) :
    Option Outcome × τ :=
  match CommandLine.ofArguments i.arguments with
  | .error e => (some (refused e tree), s)
  | .ok c => start W budget i c tree s

/-- The paths of files that a session may read or make, each below those it needs. -/
def paths (i : Invocation) : List String :=
  let made := match CommandLine.ofArguments i.arguments with
    | .error _ => []
    | .ok c => [c.path, SearchIndex.pathIn c.path]
  (Settings.candidates i.environment ++ made).flatMap fun path =>
    (Files.Path.ancestors path).reverse ++ [path]

/-- The journal of a session as it is shown: nothing without a command line. -/
def journal (i : Invocation) (events : List Event) : List String :=
  match CommandLine.ofArguments i.arguments with
  | .error _ => []
  | .ok c => (filter i.environment c.debug).lines events

end Session

end ForkCensus
