import ForkCensus.Proofs.Build.Outcome
import ForkCensus.Proofs.Catalog.Found
import ForkCensus.Proofs.SearchIndex.Order
import ForkCensus.Proofs.SearchIndex.Text

/-
# What is in an index

From a catalog that is built in whatever steps, a build whose files can be
written succeeds, and its index, read back, lists what the surveys of the
sources are to find: every repository once, those with more stars first,
and otherwise in the order in which they were found
(`Build.run_catalog`).

The parts are all there.  Every survey finds what it is to find
(`Catalog.drain_found`), which goes through the list of sources by
induction (`gather_found`); the build lists the first record of each
repository (`gather_lists`), ranks them (`SearchIndex.isRanking_ranked`)
and writes what is read back (`SearchIndex.ofText?_render`).
-/

namespace ForkCensus.Build

open Catalog (built)

/-- What the surveys of some sources are to find. -/
def ToFind (c : Catalog) (recursive : Bool) (sources : List String) (k : Slug) : Prop :=
  ∃ source ∈ sources, ∃ root, Source.slug? source = .ok root ∧ c.Found root recursive k

variable {c : Catalog} {recursive : Bool} {budget : Nat}

/-- The repositories that sources name are in the catalog. -/
def Known (c : Catalog) (sources : List String) : Prop :=
  ∀ source ∈ sources, ∀ root, Source.slug? source = .ok root → c.repos.contains root = true

theorem toFind_cons_refused {source : String} {rest : List String} {e : SourceError}
    (h : Source.slug? source = .error e) (k : Slug) :
    ToFind c recursive rest k ↔ ToFind c recursive (source :: rest) k := by
  simp [ToFind, h]

theorem toFind_cons {source : String} {rest : List String} {root : Slug}
    (h : Source.slug? source = .ok root) (k : Slug) :
    (c.Found root recursive k ∨ ToFind c recursive rest k) ↔
      ToFind c recursive (source :: rest) k := by
  simp [ToFind, h]

/-- The surveys of the sources come to their end, and find what they are to find. -/
theorem gather_found (hc : c.WellKept) (hpages : ∀ k, c.pageCount k < 2 ^ 32 - 1)
    (hbudget : ∀ root, c.budget (.start root recursive) ≤ budget) (clock : Nat → Int64)
    (verbosity : Verbosity) (sources : List String) :
    ∀ (tally : Tally) (calls : List Call), Known c sources →
      (∃ tally', (gather (c.still clock) budget recursive verbosity sources tally calls).outcome =
        some (.ok tally')) ∧
      c.Reports (ToFind c recursive sources)
        (discoveries (c.still clock) budget recursive sources calls).flatten := by
  induction sources with
  | nil =>
      intro tally calls _
      exact ⟨⟨tally, rfl⟩, Catalog.reports_nil.congr fun j => by simp [ToFind]⟩
  | cons source rest ih =>
      intro tally calls hknown
      have hrest : Known c rest := fun s hs => hknown s (List.mem_cons_of_mem _ hs)
      rw [gather, discoveries]
      cases hsource : Source.slug? source with
      | error e =>
          obtain ⟨hok, hreports⟩ := ih { tally with skipped := tally.skipped + 1 } calls hrest
          exact ⟨hok, hreports.congr (toFind_cons_refused hsource)⟩
      | ok root =>
          obtain ⟨records, ⟨left, calls'⟩, hdrain, hfound⟩ :=
            Catalog.drain_found hc hpages (hknown source List.mem_cons_self root hsource)
              (hbudget root) clock calls
          have hbegin : Survey.begin (c.still clock) root recursive calls =
              (Survey.start root recursive, calls) := rfl
          simp only [hbegin, hdrain]
          obtain ⟨hok, hreports⟩ := ih (tally.addAll verbosity records).1 calls' hrest
          exact ⟨hok, (hfound.append hreports).congr (toFind_cons hsource)⟩

/-- **What is in an index.**  From a catalog that was built in whatever steps, for sources that, as
far as they name repositories, name some that it has: if the folder can be made and the file can be
written, the build succeeds, and its file is read back as the index of `sorted`, a ranking of the
records it listed.  These are the first record of each repository that the surveys handed out, in
that order; they have different slugs, are those of what the surveys of the sources were to find, and
are reported as they are. -/
theorem run_catalog (edits : List Catalog.Edit) (clock : Nat → Int64) (budget : Nat) (plan : Plan)
    (tree made : FileTree) (calls : List Call)
    (hpages : ∀ k, (built edits).pageCount k < 2 ^ 32 - 1)
    (hbudget : ∀ root, (built edits).budget (.start root plan.recursive) ≤ budget)
    (hknown : Known (built edits) plan.sources)
    (hmade : tree.makeFolders plan.folder = (made, .ok ()))
    (hwritable : ∃ bytes after, made.write (SearchIndex.pathIn plan.folder) bytes = .ok after) :
    let result := run (Catalog.forge clock) budget plan tree (calls, built edits)
    let found := Repository.firsts (discoveries (Catalog.forge clock) budget plan.recursive
      plan.sources (calls, built edits)).flatten
    result.outcome = some (.ok ⟨SearchIndex.pathIn plan.folder, found.length,
        plan.sources.countP isRefused⟩) ∧
      (∃ text sorted, result.tree.readText (SearchIndex.pathIn plan.folder) = .ok text ∧
        SearchIndex.ofText? text =
          some ⟨plan.name, sorted.map (SearchIndex.Entry.ofRepository plan.folder)⟩ ∧
        SearchIndex.IsRanking found sorted) ∧
      found.Pairwise (fun a b => a.slug.same b.slug = false) ∧
      (∀ k, (∃ r ∈ found, r.slug.same k = true) ↔
        ∃ j, ToFind (built edits) plan.recursive plan.sources j ∧ j.same k = true) ∧
      ∀ r ∈ found, (built edits).record? r.slug = some r := by
  intro result found
  -- The catalog in the state of its service is the one that we know.
  have hmatch := ((built edits).forge_alike_still clock).toMatch
  have hfound : found = listed ((built edits).still clock) budget plan calls :=
    congrArg (fun lists => Repository.firsts lists.flatten)
      (hmatch.discoveries budget plan.recursive plan.sources rfl)
  obtain ⟨-, houtcome, htree, -⟩ :=
    hmatch.run budget plan tree (s := (calls, built edits)) (t := calls) rfl
  obtain ⟨⟨tally, hok⟩, hreports⟩ := gather_found (Catalog.built_wellKept edits) hpages hbudget
    clock plan.verbosity plan.sources .empty calls hknown
  have hreports' : (built edits).Reports (ToFind (built edits) plan.recursive plan.sources) found := by
    rw [hfound]
    exact hreports.firsts
  -- What the build writes, and that it can.
  obtain ⟨bytes, after, hwrite⟩ := hwritable
  obtain ⟨written, hwritten⟩ := FileTree.write_any hwrite
    (Text.utf8 (SearchIndex.build plan.name plan.folder found).render)
  have hrun := run_of_gathered hmade hok
  dsimp only at hrun
  rw [← hfound, hwritten] at hrun
  obtain ⟨place, hplace, -⟩ := FileTree.write_ok hwritten
  refine ⟨houtcome.trans hrun.1, ⟨(SearchIndex.build plan.name plan.folder found).render,
    SearchIndex.ranked found, ?_, SearchIndex.ofText?_render _,
    SearchIndex.isRanking_ranked found⟩, Slug.nodup_fold_iff.mp (Repository.firsts_nodup _),
    hreports'.covers, hreports'.reported⟩
  rw [show result.tree = written from htree.trans hrun.2]
  exact FileTree.readText_of_resolve hplace

/-- A plan with a source in two spellings, one that names another host, and one that is apart. -/
def knotPlan : Plan :=
  ⟨"/srv/index", "idx", ["a/r", "https://github.com/A/R.git", "gitlab.com/a/r", "e/r"], none, "", true,
    .quiet⟩

theorem run_catalog_knot :
    let result := run (Catalog.forge fun _ => 0)
      ((built Catalog.knot).budget (.start ⟨"a", "r"⟩ true)) knotPlan ⟨[], ["srv", "jobs"]⟩
      ([], built Catalog.knot)
    ∃ found sorted text,
      result.outcome = some (.ok ⟨"/srv/index/livegrep.json", found.length, 1⟩) ∧
        result.tree.readText "/srv/index/livegrep.json" = .ok text ∧
        SearchIndex.ofText? text =
          some ⟨"idx", sorted.map (SearchIndex.Entry.ofRepository "/srv/index")⟩ ∧
        SearchIndex.IsRanking found sorted ∧
        ∀ k, (∃ r ∈ found, r.slug.same k = true) ↔
          ∃ j, ToFind (built Catalog.knot) true knotPlan.sources j ∧ j.same k = true := by
  have hentries : ((built Catalog.knot).forks.entries.flatMap Prod.snd).length < 2 ^ 32 - 1 := by
    decide +kernel
  have hsources : ∀ source ∈ knotPlan.sources, (Source.slug? source).toOption.all fun root =>
      (built Catalog.knot).repos.contains root := by
    decide +kernel
  obtain ⟨houtcome, ⟨text, sorted, htext, hindex, hranking⟩, -, hcovers, -⟩ :=
    run_catalog Catalog.knot (fun _ => 0)
      ((built Catalog.knot).budget (.start ⟨"a", "r"⟩ true)) knotPlan ⟨[], ["srv", "jobs"]⟩
      ⟨[(["srv", "index"], .folder)], ["srv", "jobs"]⟩ []
      (fun k => Nat.lt_of_le_of_lt ((built Catalog.knot).pageCount_le k) hentries)
      (fun _ => Nat.le_refl _)
      (fun source hsource root hroot => by
        simpa [hroot, Except.toOption] using hsources source hsource)
      (by decide +kernel)
      ⟨[], ⟨[(["srv", "index"], .folder), (["srv", "index", "livegrep.json"], .file [])],
        ["srv", "jobs"]⟩, by decide +kernel⟩
  have hpath : SearchIndex.pathIn knotPlan.folder = "/srv/index/livegrep.json" := by decide +kernel
  have hskipped : knotPlan.sources.countP isRefused = 1 := by decide +kernel
  rw [hpath, hskipped] at houtcome
  rw [hpath] at htext
  exact ⟨_, sorted, text, houtcome, htext, hindex, hranking, hcovers⟩

end ForkCensus.Build
