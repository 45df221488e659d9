import ForkCensus.Proofs.Build.Content
import ForkCensus.Proofs.Catalog.Faults

/-
# What an index depends on

An index depends only on which repositories its sources name: not on the
order of the sources, how often one is given or how it is spelled, nor on
when the build runs (`Build.run_sameRoots`).  The catalog may leave
questions unanswered.

What a survey of a repository brings is the same in every spelling and
every state (`Forge.EchoedBy.brings`).  So whether all surveys of a build
come to their end is a matter of the repositories that are named
(`gather_ok_iff`), and so is the set of the records that they hand out
(`mem_discoveries`).  The order in which these come is another, but the
catalog has one record for each repository, and a ranking sees only the
stars.
-/

namespace ForkCensus.Build

open Catalog (assembled)

/-! ## The repositories that are named -/

/-- The repositories that sources name, in the spelling of the sources. -/
def roots (sources : List String) : List Slug :=
  sources.filterMap fun source => (Source.slug? source).toOption

/-- The sources name the same repositories. -/
structure SameRoots (sources sources' : List String) : Prop where
  left : ∀ j ∈ roots sources, ∃ k ∈ roots sources', j.same k = true
  right : ∀ k ∈ roots sources', ∃ j ∈ roots sources, k.same j = true

theorem SameRoots.symm {sources sources' : List String} (h : SameRoots sources sources') :
    SameRoots sources' sources :=
  ⟨h.right, h.left⟩

theorem roots_cons_refused {source : String} {rest : List String} {e : SourceError}
    (h : Source.slug? source = .error e) : roots (source :: rest) = roots rest := by
  simp [roots, h, Except.toOption]

theorem roots_cons {source : String} {rest : List String} {root : Slug}
    (h : Source.slug? source = .ok root) : roots (source :: rest) = root :: roots rest := by
  simp [roots, h, Except.toOption]

/-- What the surveys of sources are to find is a matter of the repositories that they name. -/
theorem toFind_iff {c : Catalog} {recursive : Bool} {sources : List String} {k : Slug} :
    ToFind c recursive sources k ↔ ∃ root ∈ roots sources, c.Found root recursive k := by
  induction sources with
  | nil => simp [ToFind, roots]
  | cons source rest ih =>
      cases hsource : Source.slug? source with
      | error e => rw [← toFind_cons_refused hsource, roots_cons_refused hsource, ih]
      | ok root =>
          rw [← toFind_cons hsource, roots_cons hsource, ih]
          simp only [List.mem_cons, exists_eq_or_imp]

section

variable {σ τ : Type} {F : Forge σ} {G : Forge τ} {budget : Nat} {recursive : Bool}
  {sources sources' : List String}

/-! ## What the surveys bring -/

variable (F budget recursive) in
/-- Each repository that is named has a survey that comes to its end. -/
def AllBring (sources : List String) : Prop :=
  ∀ root ∈ roots sources, ∃ records, F.Brings budget recursive root records

variable (F budget recursive) in
/-- A survey of a repository that is named brings this record. -/
def IsBrought (sources : List String) (r : Repository) : Prop :=
  ∃ root ∈ roots sources, ∃ records, F.Brings budget recursive root records ∧ r ∈ records

theorem AllBring.sameRoots (h : AllBring F budget recursive sources) (hFG : F.EchoedBy G)
    (hroots : SameRoots sources sources') (t : τ) : AllBring G budget recursive sources' := by
  intro k hk
  obtain ⟨j, hj, hkj⟩ := hroots.right k hk
  obtain ⟨records, hbrings⟩ := h j hj
  rw [Slug.same_comm] at hkj
  obtain ⟨rest, hdrain⟩ := hFG.brings hkj hbrings t
  exact ⟨records, t, rest, hdrain⟩

theorem IsBrought.sameRoots {r : Repository} (h : IsBrought F budget recursive sources r)
    (hFG : F.EchoedBy G) (hroots : SameRoots sources sources') (t : τ) :
    IsBrought G budget recursive sources' r := by
  obtain ⟨j, hj, records, hbrings, hr⟩ := h
  obtain ⟨k, hk, hjk⟩ := hroots.left j hj
  obtain ⟨rest, hdrain⟩ := hFG.brings hjk hbrings t
  exact ⟨k, hk, records, ⟨t, rest, hdrain⟩, hr⟩

/-! ## The surveys of the sources -/

/-- **The surveys of a build come to their end** exactly if each repository that is named has one
that does. -/
theorem gather_ok_iff (h : F.EchoedBy F) (verbosity : Verbosity) : ∀ (tally : Tally) (s : σ),
    (∃ tally', (gather F budget recursive verbosity sources tally s).outcome =
      some (.ok tally')) ↔ AllBring F budget recursive sources := by
  induction sources with
  | nil =>
      intro tally s
      exact iff_of_true ⟨tally, rfl⟩ fun root hroot => absurd hroot List.not_mem_nil
  | cons source rest ih =>
      intro tally s
      rw [gather]
      cases hsource : Source.slug? source with
      | error e =>
          rw [AllBring, roots_cons_refused hsource]
          exact ih _ s
      | ok root =>
          rw [AllBring, roots_cons hsource, List.forall_mem_cons]
          rcases hdrain : (Survey.start root recursive).drain F budget
            (F.note (.discovering root recursive) s) with ⟨records, ending, left, t⟩
          simp only [Survey.begin, hdrain]
          -- Every survey of the repository ends as this one did.
          have hends : (∃ records, F.Brings budget recursive root records) →
              ending = some .complete := by
            rintro ⟨records', hbrings⟩
            obtain ⟨rest', hdrain'⟩ := h.brings (Slug.same_refl root) hbrings _
            rw [hdrain] at hdrain'
            exact congrArg (fun p => p.2.1) hdrain'
          rcases ending with _ | _ | e
          · refine iff_of_false ?_ fun hall => ?_
            · rintro ⟨_, ⟨⟩⟩
            · cases hends hall.1
          · exact (ih _ t).trans ⟨fun hrest => ⟨⟨records, _, _, hdrain⟩, hrest⟩, And.right⟩
          · refine iff_of_false ?_ fun hall => ?_
            · rintro ⟨_, ⟨⟩⟩
            · cases hends hall.1

/-- Where all come to their end, what they hand out is what surveys of the repositories bring. -/
theorem mem_discoveries (h : F.EchoedBy F) {r : Repository} : ∀ s : σ,
    AllBring F budget recursive sources →
    (r ∈ (discoveries F budget recursive sources s).flatten ↔
      IsBrought F budget recursive sources r) := by
  induction sources with
  | nil => simp [discoveries, IsBrought, roots]
  | cons source rest ih =>
      intro s hall
      rw [discoveries]
      cases hsource : Source.slug? source with
      | error e =>
          rw [AllBring, roots_cons_refused hsource] at hall
          rw [IsBrought, roots_cons_refused hsource]
          exact ih s hall
      | ok root =>
          rw [AllBring, roots_cons hsource, List.forall_mem_cons] at hall
          obtain ⟨⟨records, hbrings⟩, hrest⟩ := hall
          obtain ⟨⟨left, t⟩, hdrain⟩ := h.brings (Slug.same_refl root) hbrings
            (F.note (.discovering root recursive) s)
          simp only [Survey.begin, hdrain, List.flatten_cons, List.mem_append, ih t hrest,
            IsBrought, roots_cons hsource, List.mem_cons, exists_eq_or_imp]
          refine or_congr_left ⟨fun hr => ⟨records, hbrings, hr⟩, ?_⟩
          rintro ⟨records', hbrings', hr⟩
          rwa [h.brings_unique hbrings hbrings']

/-- Where every survey ends, so does the build. -/
theorem gather_ends (hends : ∀ root s, ((Survey.start root recursive).drain F budget s).2.1 ≠ none)
    (verbosity : Verbosity) : ∀ (tally : Tally) (s : σ),
      (gather F budget recursive verbosity sources tally s).outcome ≠ none := by
  induction sources with
  | nil => exact fun _ _ => Option.some_ne_none _
  | cons source rest ih =>
      intro tally s
      rw [gather]
      cases Source.slug? source with
      | error e => exact ih _ s
      | ok root =>
          have hend := hends root (F.note (.discovering root recursive) s)
          rcases hdrain : (Survey.start root recursive).drain F budget
            (F.note (.discovering root recursive) s) with ⟨records, ending, left, t⟩
          rw [hdrain] at hend
          simp only [Survey.begin, hdrain]
          rcases ending with _ | _ | e
          · exact absurd rfl hend
          · exact ih _ t
          · exact Option.some_ne_none _

/-! ## The end of a build -/

/-- The folder can be made, and the file of the index can be written. -/
def CanWrite (folder : String) (tree : FileTree) : Prop :=
  ∃ made bytes after, tree.makeFolders folder = (made, .ok ()) ∧
    made.write (SearchIndex.pathIn folder) bytes = .ok after

/-- A build succeeded and says that it has listed `count` repositories, and its file is read back as
the index of these records in this order. -/
structure Wrote (plan : Plan) (result : Result σ) (count : Nat) (sorted : List Repository) :
    Prop where
  outcome : result.outcome =
    some (.ok ⟨SearchIndex.pathIn plan.folder, count, plan.sources.countP isRefused⟩)
  file : ∃ text, result.tree.readText (SearchIndex.pathIn plan.folder) = .ok text ∧
    SearchIndex.ofText? text =
      some ⟨plan.name, sorted.map (SearchIndex.Entry.ofRepository plan.folder)⟩

variable {plan : Plan} {tree : FileTree} {s : σ}

theorem run_wrote (hfiles : CanWrite plan.folder tree)
    (hok : ∃ tally, (gather F budget plan.recursive plan.verbosity plan.sources .empty s).outcome =
      some (.ok tally)) :
    Wrote plan (run F budget plan tree s) (listed F budget plan s).length
      (SearchIndex.ranked (listed F budget plan s)) := by
  obtain ⟨made, bytes, after, hmade, hwrite⟩ := hfiles
  obtain ⟨tally, hok⟩ := hok
  obtain ⟨written, hwritten⟩ := FileTree.write_any hwrite
    (Text.utf8 (SearchIndex.build plan.name plan.folder (listed F budget plan s)).render)
  have hrun := run_of_gathered hmade hok
  dsimp only at hrun
  rw [hwritten] at hrun
  obtain ⟨place, hplace, -⟩ := FileTree.write_ok hwritten
  refine ⟨hrun.1, _, ?_, SearchIndex.ofText?_render _⟩
  rw [hrun.2]
  exact FileTree.readText_of_resolve hplace

theorem run_failed
    (hends : (gather F budget plan.recursive plan.verbosity plan.sources .empty s).outcome ≠ none)
    (h : ¬(CanWrite plan.folder tree ∧
      ∃ tally, (gather F budget plan.recursive plan.verbosity plan.sources .empty s).outcome =
        some (.ok tally))) :
    ∃ e, (run F budget plan tree s).outcome = some (.error e) := by
  rcases hmade : tree.makeFolders plan.folder with ⟨made, cause | _⟩
  · exact ⟨.folder plan.folder cause, by simp only [run, hmade]⟩
  · rcases hgather : (gather F budget plan.recursive plan.verbosity plan.sources .empty s).outcome
      with _ | e | tally
    · exact absurd hgather hends
    · exact ⟨e, by simp only [run, hmade, hgather]⟩
    · have hrun := run_of_gathered hmade hgather
      dsimp only at hrun
      split at hrun
      · exact ⟨_, hrun.1⟩
      · rename_i written hwritten
        exact absurd ⟨⟨made, _, written, hmade, hwritten⟩, tally, hgather⟩ h

end

/-! ## Builds from a catalog -/

section

variable {c : Catalog} (hc : c.mended.WellKept) (hpages : ∀ k, c.pageCount k < 2 ^ 32 - 1)
  (clock clock' : Nat → Int64) {budget : Nat} (plan : Plan)
  (hbudget : ∀ root, c.budget (.start root plan.recursive) ≤ budget)

include hc hpages hbudget

/-- How a build from a catalog with failures ends: it writes its index if the files let it and all
surveys come to their end, and fails otherwise. -/
theorem run_faulty (tree : FileTree) (calls : List Call) :
    let result := run (Catalog.forge clock) budget plan tree (calls, c)
    let found := listed (c.still clock) budget plan calls
    let ready := CanWrite plan.folder tree ∧
      AllBring (c.still clock) budget plan.recursive plan.sources
    (ready → Wrote plan result found.length (SearchIndex.ranked found)) ∧
      (¬ready → ∃ e, result.outcome = some (.error e)) := by
  intro result found ready
  obtain ⟨-, houtcome, htree, -⟩ := (c.forge_alike_still clock).toMatch.run budget plan tree
    (s := (calls, c)) (t := calls) rfl
  have hok : (∃ tally, (gather (c.still clock) budget plan.recursive plan.verbosity plan.sources
      .empty calls).outcome = some (.ok tally)) ↔
      AllBring (c.still clock) budget plan.recursive plan.sources :=
    gather_ok_iff (c.still_echoedBy_self clock clock) plan.verbosity .empty calls
  constructor
  · rintro ⟨hfiles, hall⟩
    obtain ⟨hrun, hfile⟩ := run_wrote hfiles (hok.mpr hall)
    exact ⟨houtcome.trans hrun, by rwa [show result.tree = _ from htree]⟩
  · intro h
    obtain ⟨e, he⟩ := run_failed
      (gather_ends (fun root => Catalog.drain_faulty_ends hc hpages (hbudget root)) _ _ _)
      fun hgathered => h ⟨hgathered.1, hok.mp hgathered.2⟩
    exact ⟨e, houtcome.trans he⟩

/-- Where all surveys come to their end, they find what they are to find. -/
theorem reports_of_discoveries (calls : List Call)
    (hall : AllBring (c.still clock) budget plan.recursive plan.sources) :
    c.mended.Reports (ToFind c.mended plan.recursive plan.sources)
      (discoveries (c.still clock) budget plan.recursive plan.sources calls).flatten := by
  have hin {r : Repository} :=
    mem_discoveries (r := r) (c.still_echoedBy_self clock clock) calls hall
  have hfound {root : Slug} {records : List Repository}
      (hbrings : (c.still clock).Brings budget plan.recursive root records) :=
    Catalog.reports_of_brings hc hpages (hbudget root) hbrings
  constructor
  · intro k
    constructor
    · rintro ⟨r, hr, hrk⟩
      obtain ⟨root, hroot, records, hbrings, hmem⟩ := hin.mp hr
      obtain ⟨j, hj, hjk⟩ := ((hfound hbrings).covers k).mp ⟨r, hmem, hrk⟩
      exact ⟨j, toFind_iff.mpr ⟨root, hroot, hj⟩, hjk⟩
    · rintro ⟨j, hj, hjk⟩
      obtain ⟨root, hroot, hj⟩ := toFind_iff.mp hj
      obtain ⟨records, hbrings⟩ := hall root hroot
      obtain ⟨r, hmem, hrk⟩ := ((hfound hbrings).covers k).mpr ⟨j, hj, hjk⟩
      exact ⟨r, hin.mpr ⟨root, hroot, records, hbrings, hmem⟩, hrk⟩
  · intro r hr
    obtain ⟨root, -, records, hbrings, hmem⟩ := hin.mp hr
    exact (hfound hbrings).reported r hmem

/-- From sources that name the same repositories the same records are listed. -/
theorem listed_perm {sources' : List String} (hroots : SameRoots plan.sources sources')
    (calls calls' : List Call)
    (hall : AllBring (c.still clock) budget plan.recursive plan.sources) :
    (listed (c.still clock) budget plan calls).Perm
      (listed (c.still clock') budget { plan with sources := sources' } calls') := by
  have hechoed := c.still_echoedBy_self
  have hall' := hall.sameRoots (hechoed clock clock') hroots calls'
  refine Repository.firsts_perm (fun r => ?_) fun a ha b hb hfold => ?_
  · rw [mem_discoveries (hechoed clock clock) calls hall,
      mem_discoveries (hechoed clock' clock') calls' hall']
    exact ⟨fun h => h.sameRoots (hechoed clock clock') hroots calls',
      fun h => h.sameRoots (hechoed clock' clock) hroots.symm calls⟩
  · -- The catalog has one record for the two.
    have hreports := reports_of_discoveries hc hpages clock plan hbudget calls hall
    have hrecord := hreports.reported a ha
    rw [Catalog.record?_congr (Slug.same_iff.mpr hfold), hreports.reported b hb] at hrecord
    exact (Option.some.inj hrecord).symm

end

/-- **An index depends only on which repositories its sources name.**  However a catalog is built, and
whichever questions it leaves unanswered: two builds from sources that name the same repositories
either both fail or both succeed.  If they succeed they say that they have listed equally many
repositories, and their files are read back as indexes of the same records, in orders that differ at
most where stars are equal.  These are the records of what, failures apart, the surveys of the
sources are to find. -/
theorem run_sameRoots (steps : List Catalog.Step) (clock clock' : Nat → Int64) (budget : Nat)
    (plan : Plan) (sources' : List String) (tree : FileTree) (calls calls' : List Call)
    (hroots : SameRoots plan.sources sources')
    (hpages : ∀ k, (assembled steps).pageCount k < 2 ^ 32 - 1)
    (hbudget : ∀ root, (assembled steps).budget (.start root plan.recursive) ≤ budget) :
    let c := assembled steps
    let plan' := { plan with sources := sources' }
    let result := run (Catalog.forge clock) budget plan tree (calls, c)
    let result' := run (Catalog.forge clock') budget plan' tree (calls', c)
    ((∃ e, result.outcome = some (.error e)) ∧ ∃ e, result'.outcome = some (.error e)) ∨
      ∃ count sorted sorted', Wrote plan result count sorted ∧ Wrote plan' result' count sorted' ∧
        sorted.Perm sorted' ∧ sorted.map Repository.stars = sorted'.map Repository.stars ∧
        c.mended.Reports (ToFind c.mended plan.recursive plan.sources) sorted := by
  intro c plan' result result'
  have hc : c.mended.WellKept := Catalog.assembled_mended steps
  obtain ⟨hwrote, hfailed⟩ := run_faulty hc hpages clock plan hbudget tree calls
  obtain ⟨hwrote', hfailed'⟩ := run_faulty hc hpages clock' plan' hbudget tree calls'
  by_cases hready : CanWrite plan.folder tree ∧
    AllBring (c.still clock) budget plan.recursive plan.sources
  · obtain ⟨hfiles, hall⟩ := hready
    have hfile := hwrote ⟨hfiles, hall⟩
    have hfile' :=
      hwrote' ⟨hfiles, hall.sameRoots (c.still_echoedBy_self clock clock') hroots calls'⟩
    have hperm := listed_perm hc hpages clock clock' plan hbudget hroots calls calls' hall
    rw [← hperm.length_eq] at hfile'
    have hranking := SearchIndex.isRanking_ranked (listed (c.still clock) budget plan calls)
    have hranking' := SearchIndex.isRanking_ranked (listed (c.still clock') budget plan' calls')
    refine Or.inr ⟨_, _, _, hfile, hfile', (hranking.perm.trans hperm).trans hranking'.perm.symm,
      hranking.stars_eq hranking' hperm, ?_⟩
    exact (reports_of_discoveries hc hpages clock plan hbudget calls hall).firsts.perm hranking.perm
  · refine Or.inl ⟨hfailed hready, hfailed' fun hready' => hready ⟨hready'.1, ?_⟩⟩
    exact hready'.2.sameRoots (c.still_echoedBy_self clock' clock) hroots.symm calls

/-- A knot with a failure that no survey of its repositories meets. -/
def farKnot : List Catalog.Step :=
  .fault (.repository ⟨"x", "y"⟩ (.status 500 "")) :: Catalog.knot.map .edit

theorem run_sameRoots_knot :
    let plan := { knotPlan with sources := ["a/r", "gitlab.com/a/r", "e/r"] }
    let plan' := { knotPlan with sources := ["e/r", "https://github.com/A/R.git", "a/r"] }
    let c := assembled farKnot
    let budget := c.budget (.start ⟨"a", "r"⟩ true)
    ∃ count sorted sorted',
      Wrote plan (run (Catalog.forge fun _ => 0) budget plan .empty ([], c)) count sorted ∧
        Wrote plan' (run (Catalog.forge fun _ => 60) budget plan' .empty ([], c)) count sorted' ∧
        sorted.Perm sorted' ∧ sorted.map Repository.stars = sorted'.map Repository.stars ∧
        c.mended.Reports (ToFind c.mended true plan.sources) sorted := by
  intro plan plan' c budget
  have hentries : (c.forks.entries.flatMap Prod.snd).length < 2 ^ 32 - 1 := by decide +kernel
  have hroots : roots plan.sources = [⟨"a", "r"⟩, ⟨"e", "r"⟩] := by decide +kernel
  have hroots' : roots plan'.sources = [⟨"e", "r"⟩, ⟨"A", "R"⟩, ⟨"a", "r"⟩] := by decide +kernel
  have hspelled : (⟨"A", "R"⟩ : Slug).same ⟨"a", "r"⟩ = true := by
    simp [Slug.same, Text.Ascii.same, Text.Ascii.fold, ← String.toList_inj]
  have hsame : SameRoots plan.sources plan'.sources := by
    constructor
    · rw [hroots, hroots']
      simp [Slug.same_refl]
    · rw [hroots, hroots']
      simp [Slug.same_refl, hspelled]
  have hsucceeds : ((run (Catalog.forge fun _ => 0) budget plan .empty ([], c)).outcome.bind
      Except.toOption).isSome = true := by
    decide +kernel
  rcases run_sameRoots farKnot (fun _ => 0) (fun _ => 60) budget plan plan'.sources .empty [] []
    hsame (fun k => Nat.lt_of_le_of_lt (c.pageCount_le k) hentries) (fun _ => Nat.le_refl _) with
    ⟨⟨e, he⟩, -⟩ | ⟨count, sorted, sorted', hfile, hfile', hindex⟩
  · rw [he] at hsucceeds
    cases hsucceeds
  · exact ⟨count, sorted, sorted', hfile, hfile', hindex⟩

end ForkCensus.Build
