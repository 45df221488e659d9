import ForkCensus.Console
import ForkCensus.Discovery.Survey
import ForkCensus.Plan
import ForkCensus.SearchIndex
import ForkCensus.Source

/-
# Building an index

A build makes the folder, surveys the sources one after the other, lists
every repository once, where it was found first, and writes the index.
A source that names no repository is passed over with a warning; any
failure of the hosting service ends the build before anything is written.

The steps of each survey are counted by a budget: `none` for an outcome
means that it was too small.
-/

namespace ForkCensus

/-- Why a build failed. -/
inductive BuildError where
  | folder (path : String) (cause : FileError)
  | discovery (root : Slug) (e : ApiError)
  | emit (e : EmitError)
deriving Repr, DecidableEq

/-- The error and the causes behind it, each in words. -/
def BuildError.causes : BuildError → List String
  | .folder path cause => [s!"failed to create output directory '{path}'", cause.message]
  | .discovery root e => [s!"failed to discover forks of {root.display}", e.message]
  | .emit e => e.causes

/-- What a build made. -/
structure Summary where
  /-- The path of the index. -/
  path : String
  /-- How many repositories it lists. -/
  repositories : Nat
  /-- How many sources were passed over. -/
  skipped : Nat
deriving Repr, DecidableEq

namespace Build

variable {σ : Type}

/-- What a build has found so far. -/
structure Tally where
  listed : SlugSet
  /-- The listed repositories, in the order in which they were found. -/
  records : List Repository
  skipped : Nat

/-- Nothing was found. -/
def Tally.empty : Tally :=
  ⟨.empty, [], 0⟩

/-- Lists a repository, unless it is listed; also the lines that report it. -/
def Tally.add (verbosity : Verbosity) (tally : Tally) (r : Repository) : Tally × List Line :=
  match tally.listed.insert r.slug with
  | (true, listed) =>
    ({ tally with listed, records := tally.records ++ [r] }, Line.detail verbosity r.display)
  | (false, _) => (tally, [])

/-- Lists repositories in order. -/
def Tally.addAll (verbosity : Verbosity) (tally : Tally) : List Repository → Tally × List Line
  | [] => (tally, [])
  | r :: rest =>
    let (tally, lines) := tally.add verbosity r
    let (tally, more) := tally.addAll verbosity rest
    (tally, lines ++ more)

/-- What the surveys of all sources come to: the lines printed, the tally or the failure that ended
them, and the state of the service. -/
structure Gathered (σ : Type) where
  lines : List Line
  outcome : Option (Except BuildError Tally)
  state : σ

/-- Puts lines before those that were gathered. -/
def Gathered.after (lines : List Line) (g : Gathered σ) : Gathered σ :=
  { g with lines := lines ++ g.lines }

/-- Surveys the sources in order. -/
def gather (F : Forge σ) (budget : Nat) (recursive : Bool) (verbosity : Verbosity) :
    List String → Tally → σ → Gathered σ
  | [], tally, s => ⟨[], some (.ok tally), s⟩
  | source :: rest, tally, s =>
    match Source.slug? source with
    | .error e =>
      (gather F budget recursive verbosity rest { tally with skipped := tally.skipped + 1 } s).after
        (Line.warning verbosity s!"skipping {e.message}")
    | .ok root =>
      let (survey, s) := Survey.begin F root recursive s
      let (records, ending, _, s) := survey.drain F budget s
      let (tally, lines) := tally.addAll verbosity records
      match ending with
      | none => ⟨lines, none, s⟩
      | some (.broken e) => ⟨lines, some (.error (.discovery root e)), s⟩
      | some .complete => (gather F budget recursive verbosity rest tally s).after lines

/-- The end of a build: what it prints, how it turned out, and what it leaves. -/
structure Result (σ : Type) where
  lines : List Line
  outcome : Option (Except BuildError Summary)
  tree : FileTree
  state : σ

/-- Writes the index of what was gathered. -/
def emit (F : Forge σ) (plan : Plan) (tree : FileTree) (lines : List Line) (tally : Tally) (s : σ) :
    Result σ :=
  let index := SearchIndex.build plan.name plan.folder tally.records
  match index.write plan.folder tree with
  | (tree, .error e) => ⟨lines, some (.error (.emit e)), tree, s⟩
  | (tree, .ok path) =>
    ⟨lines, some (.ok ⟨path, tally.records.length, tally.skipped⟩), tree,
      F.note (.indexWritten path index.repos.length) s⟩

/-- Builds the index of a plan. -/
def run (F : Forge σ) (budget : Nat) (plan : Plan) (tree : FileTree) (s : σ) : Result σ :=
  match tree.makeFolders plan.folder with
  | (tree, .error cause) => ⟨[], some (.error (.folder plan.folder cause)), tree, s⟩
  | (tree, .ok ()) =>
    let g := gather F budget plan.recursive plan.verbosity plan.sources .empty s
    match g.outcome with
    | none => ⟨g.lines, none, tree, g.state⟩
    | some (.error e) => ⟨g.lines, some (.error e), tree, g.state⟩
    | some (.ok tally) => emit F plan tree g.lines tally g.state

end Build

end ForkCensus
