import ForkCensus.Proofs.Build.Simulation
import ForkCensus.Proofs.Discovery.Failures
import ForkCensus.Proofs.Files.Change
import ForkCensus.Proofs.Forge.Transcript

/-
# What a build leaves behind

A build makes the folder of the index before it asks anything, and writes
the index after all that it asks.  So whichever question fails, of
whichever source, the files are those that were there and the folder, and
an index that was there keeps its bytes (`Build.run_writes`).  Where
nothing fails, one file has changed.

Three facts carry this: the failures in the transcript are the one that
the build ended with (`run_errors`), making the folder once more before
writing changes nothing (`SearchIndex.write_made`), and what was listed is
what the surveys handed out (`gather_lists`).
-/

namespace ForkCensus

open Exchange

/-- Where the folder is there, writing the index is writing its file. -/
theorem SearchIndex.write_made {folder : String} {made : FileTree}
    (h : made.makeFolders folder = (made, .ok ())) (i : SearchIndex) :
    i.write folder made =
      match made.write (pathIn folder) (Text.utf8 i.render) with
      | .error cause => (made, .error (.write (pathIn folder) cause))
      | .ok written => (written, .ok (pathIn folder)) := by
  cases hwrite : made.write (pathIn folder) (Text.utf8 i.render) with
  | error cause => simp only [SearchIndex.write, h, hwrite]
  | ok written => simp only [SearchIndex.write, h, hwrite]

namespace Build

variable {σ : Type} (F : Forge σ) (budget : Nat)

/-! ## Failures of the service -/

/-- The failure of the hosting service that a build ended with. -/
def failure? {α : Type} : Option (Except BuildError α) → Option ApiError
  | some (.error (.discovery _ e)) => some e
  | _ => none

theorem failure?_eq_some_iff {α : Type} {outcome : Option (Except BuildError α)} {e : ApiError} :
    failure? outcome = some e ↔ ∃ root, outcome = some (.error (.discovery root e)) := by
  constructor
  · intro h
    unfold failure? at h
    split at h
    · cases h
      exact ⟨_, rfl⟩
    · cases h
  · rintro ⟨root, rfl⟩
    rfl

/-- The failures that the surveys of a build met are the one that ended them. -/
theorem gather_errors (recursive : Bool) (verbosity : Verbosity) (sources : List String) :
    ∀ (tally : Tally) (log : List Exchange) (s : σ),
      let g := gather F.watched budget recursive verbosity sources tally (log, s)
      errors g.state.1 = errors log ++ (failure? g.outcome).toList := by
  induction sources with
  | nil => exact fun tally log s => (List.append_nil _).symm
  | cons source rest ih =>
      intro tally log s
      simp only [gather]
      cases Source.slug? source with
      | error e => exact ih _ log s
      | ok root =>
          rcases hdrain : (Survey.start root recursive).drain F.watched budget
            (log, F.note (.discovering root recursive) s) with ⟨records, ending, left, log', t⟩
          have herrors := Survey.drain_errors F budget _ _ _ hdrain
          have hbegin : Survey.begin F.watched root recursive (log, s) =
              (Survey.start root recursive, log, F.note (.discovering root recursive) s) := rfl
          simp only [hbegin, hdrain]
          rcases ending with _ | _ | e
          · exact herrors
          · have hrest := ih (tally.addAll verbosity records).1 log' t
            rw [herrors, show (some Ending.complete).bind Ending.error? = none from rfl,
              Option.toList_none, List.append_nil] at hrest
            exact hrest
          · exact herrors

/-- **The failures that a build met are the one that it ended with.** -/
theorem run_errors (plan : Plan) (tree : FileTree) (s : σ) :
    let result := run F.watched budget plan tree ([], s)
    errors result.state.1 = (failure? result.outcome).toList := by
  have hgather := gather_errors F budget plan.recursive plan.verbosity plan.sources .empty [] s
  unfold run
  rcases tree.makeFolders plan.folder with ⟨made, cause | _⟩
  · rfl
  · dsimp only at hgather ⊢
    split
    · rename_i hnone
      rw [hnone] at hgather
      exact hgather
    · rename_i e herror
      rw [herror] at hgather
      cases e <;> exact hgather
    · rename_i tally hok
      rw [hok] at hgather
      unfold emit
      dsimp only
      split
      · exact hgather
      · exact hgather

/-! ## The files -/

/-- What a build lists: the first record of each repository that its surveys hand out. -/
def listed (plan : Plan) (s : σ) : List Repository :=
  Repository.firsts (discoveries F budget plan.recursive plan.sources s).flatten

variable {F budget}

/-- A build that lists everything writes the index of it, if it can. -/
theorem run_of_gathered {plan : Plan} {tree made : FileTree} {s : σ} {tally : Tally}
    (hmade : tree.makeFolders plan.folder = (made, .ok ()))
    (hok : (gather F budget plan.recursive plan.verbosity plan.sources .empty s).outcome =
      some (.ok tally)) :
    let text := (SearchIndex.build plan.name plan.folder (listed F budget plan s)).render
    let result := run F budget plan tree s
    match made.write (SearchIndex.pathIn plan.folder) (Text.utf8 text) with
    | .error cause =>
      result.outcome = some (.error (.emit (.write (SearchIndex.pathIn plan.folder) cause))) ∧
        result.tree = made
    | .ok written =>
      result.outcome = some (.ok ⟨SearchIndex.pathIn plan.folder,
          (listed F budget plan s).length, plan.sources.countP isRefused⟩) ∧
        result.tree = written := by
  obtain ⟨hlists, hskipped⟩ := gather_lists F budget _ _ _ s Tally.lists_empty hok
  have hrecords : tally.records = listed F budget plan s := hlists.records_eq
  have hcount : tally.skipped = plan.sources.countP isRefused := by
    rw [hskipped]
    exact Nat.zero_add _
  have hwrite := SearchIndex.write_made (FileTree.makeFolders_again hmade)
    (SearchIndex.build plan.name plan.folder (listed F budget plan s))
  simp only [run, hmade, hok, emit, hrecords, hwrite, hcount]
  split
  · exact ⟨rfl, rfl⟩
  · exact ⟨rfl, rfl⟩

/-- A build leaves the files as they are after making the folder, or it writes the index. -/
theorem run_cases (plan : Plan) (tree : FileTree) (s : σ) :
    let made := (tree.makeFolders plan.folder).1
    let text := (SearchIndex.build plan.name plan.folder (listed F budget plan s)).render
    let result := run F budget plan tree s
    ((∀ summary, result.outcome ≠ some (.ok summary)) ∧ result.tree = made) ∨
      (∃ summary, result.outcome = some (.ok summary)) ∧
        made.write (SearchIndex.pathIn plan.folder) (Text.utf8 text) = .ok result.tree := by
  rcases hmade : tree.makeFolders plan.folder with ⟨made, cause | _⟩
  · simp [run, hmade]
  · dsimp only
    by_cases hok : ∃ tally, (gather F budget plan.recursive plan.verbosity plan.sources .empty
        s).outcome = some (.ok tally)
    · obtain ⟨tally, hok⟩ := hok
      have hrun := run_of_gathered hmade hok
      dsimp only at hrun
      split at hrun
      · obtain ⟨houtcome, htree⟩ := hrun
        rw [houtcome]
        exact Or.inl ⟨nofun, htree⟩
      · rename_i written hwritten
        rw [hwritten, hrun.2]
        exact Or.inr ⟨⟨_, hrun.1⟩, rfl⟩
    · refine Or.inl ?_
      simp only [run, hmade]
      split
      · exact ⟨nofun, rfl⟩
      · exact ⟨nofun, rfl⟩
      · rename_i tally htally
        exact absurd ⟨tally, htally⟩ hok

/-- **What a build does to the files.**  Making the folder changes no file.  If it cannot be made,
nothing is asked.  If any question fails, the build ends with that failure and, as always where no
index comes of it, the files are those after making the folder.  If an index comes of it, they differ
from these in one place, to which the path of the index leads, and there is the text of the index of
what was listed. -/
theorem run_writes {σ : Type} (F : Forge σ) (budget : Nat) (plan : Plan) (tree : FileTree) (s : σ) :
    let made := (tree.makeFolders plan.folder).1
    let result := run F.watched budget plan tree ([], s)
    let log := result.state.1
    let text := (SearchIndex.build plan.name plan.folder (listed F budget plan s)).render
    (∀ path bytes, tree.read path = .ok bytes → made.read path = .ok bytes) ∧
      (∀ cause, (tree.makeFolders plan.folder).2 = .error cause →
        log = [] ∧ result.outcome = some (.error (.folder plan.folder cause)) ∧
          result.tree = made) ∧
      (∀ x ∈ log, ∀ e, x.error? = some e →
        (∃ root, result.outcome = some (.error (.discovery root e))) ∧ result.tree = made) ∧
      ((∀ summary, result.outcome ≠ some (.ok summary)) → result.tree = made) ∧
      ∀ summary, result.outcome = some (.ok summary) →
        ∃ place, result.tree.resolve (SearchIndex.pathIn plan.folder) =
            .ok (.found place (.file (Text.utf8 text))) ∧
          result.tree.here = made.here ∧ ∀ p ≠ place, result.tree.get? p = made.get? p := by
  intro made result log text
  -- Watching the service changes nothing of what is written.
  obtain ⟨-, houtcome, htree, -⟩ :=
    F.watched_alike.toMatch.run budget plan tree (s := ([], s)) (t := s) rfl
  have hcases := @run_cases _ F budget plan tree s
  dsimp only at hcases
  rw [← houtcome, ← htree] at hcases
  have haborted : (∀ summary, result.outcome ≠ some (.ok summary)) → result.tree = made := by
    intro hnone
    rcases hcases with ⟨-, htree⟩ | ⟨⟨summary, hok⟩, -⟩
    · exact htree
    · exact absurd hok (hnone summary)
  refine ⟨fun path bytes hread => (tree.makeFolders_grown plan.folder).read hread, ?_, ?_,
    haborted, ?_⟩
  · intro cause hcause
    have hmade : tree.makeFolders plan.folder = (made, .error cause) := Prod.ext rfl hcause
    have hrun : result = ⟨[], some (.error (.folder plan.folder cause)), made, ([], s)⟩ := by
      simp only [result, run, hmade]
    simp only [log, hrun, and_self]
  · intro x hx e he
    have hmem : e ∈ errors log := List.mem_filterMap.mpr ⟨x, hx, he⟩
    have hfailure : failure? result.outcome = some e := by
      rw [run_errors F budget plan tree s] at hmem
      exact Option.mem_toList.mp hmem
    obtain ⟨root, hroot⟩ := failure?_eq_some_iff.mp hfailure
    refine ⟨⟨root, hroot⟩, haborted fun summary hok => ?_⟩
    rw [hroot] at hok
    cases hok
  · intro summary hok
    rcases hcases with ⟨hnone, -⟩ | ⟨-, hwritten⟩
    · exact absurd hok (hnone summary)
    · exact FileTree.write_ok hwritten

/-- The second of two sources is not there: what the first brought is lost, and the old index is
kept.  The folder is given from the root; the same file is found from the working directory. -/
theorem run_writes_missing :
    let files : FileTree :=
      ⟨[(["srv", "index"], .folder), (["srv", "index", "livegrep.json"], .file [0x7B, 0x7D])],
        ["srv", "jobs"]⟩
    let result := run (Catalog.forge fun _ => 0).watched 100
      ⟨"/srv/index", "idx", ["a/r", "x/y"], none, "", true, .quiet⟩ files
      ([], [], Catalog.empty.withFork ⟨"a", "r"⟩ ⟨"b", "r"⟩)
    result.outcome = some (.error (.discovery ⟨"x", "y"⟩ (Catalog.notFound ⟨"x", "y"⟩))) ∧
      result.tree.read "../index/livegrep.json" = .ok [0x7B, 0x7D] := by
  intro files result
  obtain ⟨hread, -, -, haborted, -⟩ := run_writes (Catalog.forge fun _ => 0) 100
    ⟨"/srv/index", "idx", ["a/r", "x/y"], none, "", true, .quiet⟩ files
    ([], Catalog.empty.withFork ⟨"a", "r"⟩ ⟨"b", "r"⟩)
  have houtcome : result.outcome =
      some (.error (.discovery ⟨"x", "y"⟩ (Catalog.notFound ⟨"x", "y"⟩))) := by
    decide +kernel
  refine ⟨houtcome, ?_⟩
  rw [haborted fun summary hok => by rw [houtcome] at hok; cases hok]
  exact hread _ _ (by decide +kernel)

end Build

end ForkCensus
