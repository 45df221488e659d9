import Mathlib.Data.List.Dedup
import ForkCensus.Proofs.Build.Roots

/-
# What a build reports

A build says what it does while it goes on: on the one stream a line for
each repository that it lists, if that was asked for, and on the other a
warning for each source that it passes over, unless it is quiet.  Its
summary has two numbers.  All of this agrees with the index that it writes
(`Build.run_reports`).  A line is what is printed at once.

`Report` is what the lines are to be, for the sources that were done with
and the records that were listed.  The lines of a build are a report of
all sources (`gather_report`) or, where a survey broke off, of the sources
in front of it and of what was listed until then (`BrokenOff.report`).
Nothing else depends on how much is printed (`run_verbosity`).
-/

namespace ForkCensus

/-- There are as many first records as there are repositories. -/
theorem Repository.length_firsts (records : List Repository) :
    (firsts records).length = (records.map fun r => r.slug.fold).dedup.length := by
  have hperm : ((firsts records).map fun r => r.slug.fold).Perm
      (records.map fun r => r.slug.fold).dedup := by
    refine (List.perm_ext_iff_of_nodup (firsts_nodup records) (List.nodup_dedup _)).mpr fun k => ?_
    rw [List.mem_dedup, List.mem_map, List.mem_map]
    constructor
    · rintro ⟨r, hr, hk⟩
      exact ⟨r, (firsts_sublist records).subset hr, hk⟩
    · rintro ⟨r, hr, hk⟩
      obtain ⟨a, ha, hfold⟩ := exists_firsts hr
      exact ⟨a, ha, hfold.trans hk⟩
  rw [← hperm.length_eq, List.length_map]

namespace Build

variable {σ : Type}

/-! ## Lines -/

/-- Why sources were passed over, for each of those that were. -/
def refusals (sources : List String) : List SourceError :=
  sources.filterMap fun source =>
    match Source.slug? source with
    | .error e => some e
    | .ok _ => none

/-- What the lines on the two streams are, when these sources were done with and these records were
listed. -/
structure Report (verbosity : Verbosity) (sources : List String) (records : List Repository)
    (lines : List Line) : Prop where
  notices : lines.filter (fun l => l.stream = .notices) =
    if verbosity = .quiet then []
    else (refusals sources).map fun e => ⟨.notices, "warning: skipping " ++ e.message⟩
  results : lines.filter (fun l => l.stream = .results) =
    if verbosity = .verbose then records.map fun r => ⟨.results, r.display⟩ else []

section

variable {verbosity : Verbosity} {sources sources' : List String}
  {records records' : List Repository} {lines lines' : List Line}

theorem length_refusals (sources : List String) :
    (refusals sources).length = sources.countP isRefused := by
  rw [refusals, List.length_filterMap_eq_countP]
  refine List.countP_congr fun source _ => ?_
  unfold isRefused
  cases Source.slug? source <;> rfl

theorem Report.nil : Report verbosity [] [] [] where
  notices := by cases verbosity <;> rfl
  results := by cases verbosity <;> rfl

theorem Report.append (h : Report verbosity sources records lines)
    (h' : Report verbosity sources' records' lines') :
    Report verbosity (sources ++ sources') (records ++ records') (lines ++ lines') where
  notices := by
    rw [List.filter_append, h.notices, h'.notices, refusals, refusals, refusals,
      List.filterMap_append, List.map_append]
    split <;> rfl
  results := by
    rw [List.filter_append, h.results, h'.results, List.map_append]
    split <;> rfl

theorem report_refused {source : String} {e : SourceError} (h : Source.slug? source = .error e) :
    Report verbosity [source] [] (Line.warning verbosity s!"skipping {e.message}") where
  notices := by
    have hskipping : "warning: skipping " = "warning: " ++ "skipping " := by decide
    rw [refusals, List.filterMap_cons, h, hskipping]
    simp only [String.append_assoc]
    cases verbosity <;> rfl
  results := by
    cases verbosity <;> rfl

/-- Of a source that names a repository nothing is said. -/
theorem report_accepted {source : String} {root : Slug} (h : Source.slug? source = .ok root) :
    Report verbosity [source] [] [] where
  notices := by
    rw [refusals, List.filterMap_cons, h]
    cases verbosity <;> rfl
  results := by cases verbosity <;> rfl

theorem report_listed (r : Repository) :
    Report verbosity [] [r] (Line.detail verbosity r.display) where
  notices := by cases verbosity <;> rfl
  results := by cases verbosity <;> rfl

/-- The lines of a tally report what came into it. -/
theorem Tally.addAll_report (verbosity : Verbosity) (records : List Repository) :
    ∀ tally : Tally, ∃ new, (tally.addAll verbosity records).1.records = tally.records ++ new ∧
      Report verbosity [] new (tally.addAll verbosity records).2 := by
  induction records with
  | nil => exact fun tally => ⟨[], (List.append_nil _).symm, .nil⟩
  | cons r records ih =>
      intro tally
      obtain ⟨new, hnew, hreport⟩ := ih (tally.add verbosity r).1
      rw [Tally.addAll]
      dsimp only
      unfold Tally.add SlugSet.insert at hnew hreport ⊢
      cases hr : tally.listed.contains r.slug with
      | true =>
          simp only [hr, if_true] at hnew hreport ⊢
          exact ⟨new, hnew, hreport⟩
      | false =>
          simp only [hr, Bool.false_eq_true, if_false] at hnew hreport ⊢
          refine ⟨r :: new, ?_, (report_listed r).append hreport⟩
          rw [hnew, List.append_assoc]
          rfl

end

/-! ## Lines of the surveys -/

section

variable (F : Forge σ) (budget : Nat)

/-- Where the surveys come to their end, the lines report all sources, and what was listed. -/
theorem gather_report (recursive : Bool) (verbosity : Verbosity) (sources : List String) :
    ∀ {tally tally' : Tally} (s : σ),
      (gather F budget recursive verbosity sources tally s).outcome = some (.ok tally') →
      ∃ new, tally'.records = tally.records ++ new ∧
        Report verbosity sources new
          (gather F budget recursive verbosity sources tally s).lines := by
  induction sources with
  | nil =>
      intro tally tally' s hok
      cases hok
      exact ⟨[], (List.append_nil _).symm, .nil⟩
  | cons source rest ih =>
      intro tally tally' s hok
      rw [gather] at hok ⊢
      cases hsource : Source.slug? source with
      | error e =>
          rw [hsource] at hok
          obtain ⟨new, hnew, hreport⟩ := ih s hok
          exact ⟨new, hnew, (report_refused hsource).append hreport⟩
      | ok root =>
          rw [hsource] at hok
          rcases hdrain : (Survey.start root recursive).drain F budget
            (F.note (.discovering root recursive) s) with ⟨records, ending, left, t⟩
          simp only [Survey.begin, hdrain] at hok ⊢
          rcases ending with _ | _ | e
          · cases hok
          · obtain ⟨first, hfirst, hlisted⟩ := tally.addAll_report verbosity records
            obtain ⟨new, hnew, hreport⟩ := ih t hok
            refine ⟨first ++ new, ?_, (report_accepted hsource).append (hlisted.append hreport)⟩
            rw [hnew, hfirst, List.append_assoc]
          · cases hok

theorem gather_report_empty {recursive : Bool} {verbosity : Verbosity} {sources : List String}
    {tally : Tally} {s : σ}
    (hok : (gather F budget recursive verbosity sources .empty s).outcome = some (.ok tally)) :
    Report verbosity sources tally.records
      (gather F budget recursive verbosity sources .empty s).lines := by
  obtain ⟨new, hnew, hreport⟩ := gather_report F budget _ _ _ s hok
  rwa [hnew, show Tally.empty.records = [] from rfl, List.nil_append]

/-- The surveys of the sources in front came to their end; then that of the repository which the
next source names handed out these records, and failed.  What was printed is what these came to. -/
structure BrokenOff (recursive : Bool) (verbosity : Verbosity) (sources : List String)
    (tally : Tally) (s : σ) (root : Slug) (cause : ApiError) (front : List String)
    (records : List Repository) : Prop where
  next : ∃ source rest, sources = front ++ source :: rest ∧ Source.slug? source = .ok root
  printed : ∃ tally',
    (gather F budget recursive verbosity front tally s).outcome = some (.ok tally') ∧
      (gather F budget recursive verbosity sources tally s).lines =
        (gather F budget recursive verbosity front tally s).lines ++
          (tally'.addAll verbosity records).2
  broken : ∃ left t, (Survey.start root recursive).drain F budget
    (F.note (.discovering root recursive)
      (gather F budget recursive verbosity front tally s).state) =
    (records, some (.broken cause), left, t)

section

variable {F budget} {recursive : Bool} {verbosity : Verbosity} {sources front : List String}
  {tally : Tally} {s : σ} {root : Slug} {cause : ApiError} {records : List Repository}

/-- What is broken off after a source was done with is so with this source in front. -/
theorem BrokenOff.cons {source : String} {tally₁ : Tally} {s₁ : σ} {lines : List Line}
    (hcons : ∀ sources, gather F budget recursive verbosity (source :: sources) tally s =
      (gather F budget recursive verbosity sources tally₁ s₁).after lines)
    (h : BrokenOff F budget recursive verbosity sources tally₁ s₁ root cause front records) :
    BrokenOff F budget recursive verbosity (source :: sources) tally s root cause
      (source :: front) records where
  next := by
    obtain ⟨source', rest, rfl, hroot⟩ := h.next
    exact ⟨source', rest, rfl, hroot⟩
  printed := by
    obtain ⟨tally', hok, hlines⟩ := h.printed
    rw [hcons, hcons]
    refine ⟨tally', hok, ?_⟩
    simp only [Gathered.after, hlines, List.append_assoc]
  broken := by
    rw [hcons]
    exact h.broken

/-- The lines report the sources in front, and what was listed until the survey failed. -/
theorem BrokenOff.report
    (h : BrokenOff F budget recursive verbosity sources .empty s root cause front records) :
    Report verbosity front
      (Repository.firsts ((discoveries F budget recursive front s).flatten ++ records))
      (gather F budget recursive verbosity sources .empty s).lines := by
  obtain ⟨tally', hok, hlines⟩ := h.printed
  have hlists := (gather_lists F budget _ _ _ s Tally.lists_empty hok).1.addAll verbosity records
  obtain ⟨last, hlast, hrecords⟩ := tally'.addAll_report verbosity records
  have hreport := (gather_report_empty F budget hok).append hrecords
  rwa [← hlines, List.append_nil, ← hlast, hlists.records_eq] at hreport

end

/-- Where the surveys fail, one of them was broken off. -/
theorem gather_brokenOff (recursive : Bool) (verbosity : Verbosity) (sources : List String) :
    ∀ (tally : Tally) (s : σ) {e : BuildError},
      (gather F budget recursive verbosity sources tally s).outcome = some (.error e) →
      ∃ root cause front records, e = .discovery root cause ∧
        BrokenOff F budget recursive verbosity sources tally s root cause front records := by
  induction sources with
  | nil => exact fun _ _ _ h => by cases h
  | cons source rest ih =>
      intro tally s e herror
      cases hsource : Source.slug? source with
      | error refusal =>
          have hcons (sources) : gather F budget recursive verbosity (source :: sources) tally s =
              (gather F budget recursive verbosity sources
                { tally with skipped := tally.skipped + 1 } s).after
                (Line.warning verbosity s!"skipping {refusal.message}") := by
            rw [gather, hsource]
          rw [hcons] at herror
          obtain ⟨root, cause, front, records, he, hoff⟩ := ih _ s herror
          exact ⟨root, cause, source :: front, records, he, hoff.cons hcons⟩
      | ok root =>
          rcases hdrain : (Survey.start root recursive).drain F budget
            (F.note (.discovering root recursive) s) with ⟨records, ending, left, t⟩
          rcases ending with _ | _ | cause
          · simp only [gather, hsource, Survey.begin, hdrain] at herror
            cases herror
          · have hcons (sources) : gather F budget recursive verbosity (source :: sources) tally s =
                (gather F budget recursive verbosity sources
                  (tally.addAll verbosity records).1 t).after
                  (tally.addAll verbosity records).2 := by
              simp only [gather, hsource, Survey.begin, hdrain]
            rw [hcons] at herror
            obtain ⟨root', cause, front, records', he, hoff⟩ := ih _ t herror
            exact ⟨root', cause, source :: front, records', he, hoff.cons hcons⟩
          · -- This is the survey that failed.
            have hgather : gather F budget recursive verbosity (source :: rest) tally s =
                ⟨(tally.addAll verbosity records).2, some (.error (.discovery root cause)), t⟩ := by
              simp only [gather, hsource, Survey.begin, hdrain]
            rw [hgather] at herror
            cases herror
            exact ⟨root, cause, [], records, rfl, ⟨source, rest, rfl, hsource⟩,
              ⟨tally, rfl, congrArg Gathered.lines hgather⟩, left, t, hdrain⟩

/-! ## Saying more or less -/

theorem Tally.add_verbosity (tally : Tally) (v w : Verbosity) (r : Repository) :
    (tally.add v r).1 = (tally.add w r).1 := by
  unfold Tally.add
  split <;> rfl

theorem Tally.addAll_verbosity (v w : Verbosity) (records : List Repository) :
    ∀ tally : Tally, (tally.addAll v records).1 = (tally.addAll w records).1 := by
  induction records with
  | nil => exact fun _ => rfl
  | cons r records ih =>
      intro tally
      rw [addAll, addAll]
      dsimp only
      rw [tally.add_verbosity v w r]
      exact ih _

/-- How much is printed makes no difference to the surveys. -/
theorem gather_verbosity (recursive : Bool) (v w : Verbosity) (sources : List String) :
    ∀ (tally : Tally) (s : σ),
      (gather F budget recursive v sources tally s).outcome =
          (gather F budget recursive w sources tally s).outcome ∧
        (gather F budget recursive v sources tally s).state =
          (gather F budget recursive w sources tally s).state := by
  induction sources with
  | nil => exact fun _ _ => ⟨rfl, rfl⟩
  | cons source rest ih =>
      intro tally s
      rw [gather, gather]
      cases Source.slug? source with
      | error e => exact ih _ s
      | ok root =>
          rcases hdrain : (Survey.start root recursive).drain F budget
            (F.note (.discovering root recursive) s) with ⟨records, ending, left, t⟩
          simp only [Survey.begin, hdrain]
          rcases ending with _ | _ | cause
          · exact ⟨rfl, rfl⟩
          · rw [Tally.addAll_verbosity v w records tally]
            exact ih _ t
          · exact ⟨rfl, rfl⟩

/-- How much is printed makes no difference to what a build asks, how it ends and what it writes. -/
theorem run_verbosity (plan : Plan) (v : Verbosity) (tree : FileTree) (s : σ) :
    let result := run F budget plan tree s
    let other := run F budget { plan with verbosity := v } tree s
    other.outcome = result.outcome ∧ other.tree = result.tree ∧ other.state = result.state := by
  obtain ⟨houtcome, hstate⟩ :=
    gather_verbosity F budget plan.recursive v plan.verbosity plan.sources .empty s
  simp only [run]
  rcases tree.makeFolders plan.folder with ⟨made, cause | _⟩
  · exact ⟨rfl, rfl, rfl⟩
  · dsimp only
    rw [houtcome, hstate]
    split
    · exact ⟨rfl, rfl, rfl⟩
    · exact ⟨rfl, rfl, rfl⟩
    · unfold emit
      dsimp only
      split <;> exact ⟨rfl, rfl, rfl⟩

/-! ## The end of a build -/

/-- How a build ended, and what it printed, after its surveys came to `g`. -/
inductive Ended (plan : Plan) (found : List Repository) (g : Gathered σ) (result : Result σ) : Prop
  | folder {cause : FileError} :
      result.outcome = some (.error (.folder plan.folder cause)) → result.lines = [] →
      Ended plan found g result
  | unfinished : result.outcome = none → Ended plan found g result
  | failed {e : BuildError} : g.outcome = some (.error e) →
      result.outcome = some (.error e) → result.lines = g.lines → Ended plan found g result
  | unwritten {tally : Tally} {e : EmitError} : g.outcome = some (.ok tally) →
      result.outcome = some (.error (.emit e)) → result.lines = g.lines →
      Ended plan found g result
  | wrote {tally : Tally} : g.outcome = some (.ok tally) →
      Wrote plan result found.length (SearchIndex.ranked found) → result.lines = g.lines →
      Ended plan found g result

/-- What a build prints is what its surveys print, if there is a folder for the index. -/
theorem run_ended (plan : Plan) (tree : FileTree) (s : σ) :
    Ended plan (listed F budget plan s)
      (gather F budget plan.recursive plan.verbosity plan.sources .empty s)
      (run F budget plan tree s) := by
  rcases hmade : tree.makeFolders plan.folder with ⟨made, cause | _⟩
  · have hrun : run F budget plan tree s =
        ⟨[], some (.error (.folder plan.folder cause)), made, s⟩ := by
      simp only [run, hmade]
    rw [hrun]
    exact .folder rfl rfl
  · rcases hg : gather F budget plan.recursive plan.verbosity plan.sources .empty s with
      ⟨lines, _ | e | tally, t⟩
    · have hrun : run F budget plan tree s = ⟨lines, none, made, t⟩ := by
        simp only [run, hmade, hg]
      rw [hrun]
      exact .unfinished rfl
    · have hrun : run F budget plan tree s = ⟨lines, some (.error e), made, t⟩ := by
        simp only [run, hmade, hg]
      rw [hrun]
      exact .failed rfl rfl rfl
    · have hlines : (run F budget plan tree s).lines = lines := by
        simp only [run, hmade, hg, emit]
        split <;> rfl
      have hok := congrArg Gathered.outcome hg
      have hend := run_of_gathered hmade hok
      dsimp only at hend
      split at hend
      · exact .unwritten rfl hend.1 hlines
      · rename_i written hwritten
        exact .wrote rfl (run_wrote ⟨made, _, written, hmade, hwritten⟩ ⟨tally, hok⟩) hlines

/-- A build that succeeds has written its index. -/
theorem wrote_of_ok {plan : Plan} {tree : FileTree} {s : σ} {summary : Summary}
    (hok : (run F budget plan tree s).outcome = some (.ok summary)) :
    Wrote plan (run F budget plan tree s) (listed F budget plan s).length
      (SearchIndex.ranked (listed F budget plan s)) := by
  cases run_ended F budget plan tree s with
  | folder he => rw [hok] at he; cases he
  | unfinished he => rw [hok] at he; cases he
  | failed _ he => rw [hok] at he; cases he
  | unwritten _ he => rw [hok] at he; cases he
  | wrote _ hwrote => exact hwrote

end

/-- **What a build reports.**  How much is printed changes neither what is asked nor the result nor
what is written.  A build that succeeds counts the repositories that were found, in whatever
spelling and however often, and these are as many as its index has; it counts the sources that name
no repository; and its lines report all sources, and the first record of each repository in the
order in which they were found.  So do the lines where only the index could not be written.  Without
a folder for the index there are no lines; and where a survey fails, they report the sources in
front of the one it was for, and the first records of what was handed out until then. -/
theorem run_reports {σ : Type} (F : Forge σ) (budget : Nat) (plan : Plan) (tree : FileTree)
    (s : σ) :
    let result := run F.watched budget plan tree ([], s)
    let handed := (discoveries F budget plan.recursive plan.sources s).flatten
    (∀ v : Verbosity,
      let other := run F.watched budget { plan with verbosity := v } tree ([], s)
      other.outcome = result.outcome ∧ other.tree = result.tree ∧ other.state = result.state) ∧
      (∀ summary, result.outcome = some (.ok summary) →
        summary.repositories = (handed.map fun r => r.slug.fold).dedup.length ∧
          summary.skipped = (refusals plan.sources).length ∧
          (∃ text index, result.tree.readText summary.path = .ok text ∧
            SearchIndex.ofText? text = some index ∧
            index.repos.length = summary.repositories) ∧
          Report plan.verbosity plan.sources (Repository.firsts handed) result.lines) ∧
      (∀ e, result.outcome = some (.error (.emit e)) →
        Report plan.verbosity plan.sources (Repository.firsts handed) result.lines) ∧
      (∀ path cause, result.outcome = some (.error (.folder path cause)) → result.lines = []) ∧
      ∀ root cause, result.outcome = some (.error (.discovery root cause)) →
        ∃ front records,
          BrokenOff F budget plan.recursive plan.verbosity plan.sources .empty s root cause front
            records ∧
          Report plan.verbosity front
            (Repository.firsts ((discoveries F budget plan.recursive front s).flatten ++ records))
            result.lines := by
  intro result handed
  -- Watching the service changes nothing of what is printed.
  obtain ⟨hlines, houtcome, htree, -⟩ :=
    F.watched_alike.toMatch.run budget plan tree (s := ([], s)) (t := s) rfl
  have hreport {tally : Tally} (hok : (gather F budget plan.recursive plan.verbosity plan.sources
      .empty s).outcome = some (.ok tally)) :
      Report plan.verbosity plan.sources (Repository.firsts handed)
        (gather F budget plan.recursive plan.verbosity plan.sources .empty s).lines := by
    have hreport := gather_report_empty F budget hok
    rwa [(gather_lists F budget _ _ _ s Tally.lists_empty hok).1.records_eq,
      List.nil_append] at hreport
  refine ⟨fun v => run_verbosity F.watched budget plan v tree ([], s), ?_⟩
  cases run_ended F budget plan tree s with
  | folder he hnone =>
      rw [show result.outcome = _ from houtcome.trans he]
      exact ⟨nofun, nofun, fun _ _ _ => hlines.trans hnone, nofun⟩
  | unfinished he =>
      rw [show result.outcome = _ from houtcome.trans he]
      exact ⟨nofun, nofun, nofun, nofun⟩
  | failed hg he hgathered =>
      obtain ⟨root, cause, front, records, rfl, hoff⟩ := gather_brokenOff F budget _ _ _ _ s hg
      rw [show result.outcome = _ from houtcome.trans he,
        show result.lines = _ from hlines.trans hgathered]
      refine ⟨nofun, nofun, nofun, ?_⟩
      rintro _ _ ⟨⟩
      exact ⟨front, records, hoff, hoff.report⟩
  | unwritten hok he hgathered =>
      rw [show result.outcome = _ from houtcome.trans he,
        show result.lines = _ from hlines.trans hgathered]
      exact ⟨nofun, fun _ _ => hreport hok, nofun, nofun⟩
  | wrote hok hwrote hgathered =>
      rw [show result.outcome = _ from houtcome.trans hwrote.outcome,
        show result.lines = _ from hlines.trans hgathered, show result.tree = _ from htree]
      refine ⟨?_, nofun, nofun, nofun⟩
      rintro _ ⟨⟩
      obtain ⟨text, htext, hindex⟩ := hwrote.file
      refine ⟨Repository.length_firsts handed, (length_refusals _).symm,
        ⟨text, _, htext, hindex, ?_⟩, hreport hok⟩
      rw [List.length_map, SearchIndex.ranked, List.length_mergeSort]

/-- Of three sources the first is passed over; where the last is not there, what the second brought
was reported.  All folders down to that of the index are made from the root on. -/
theorem run_reports_pair :
    let c := Catalog.empty.withFork ⟨"a", "r"⟩ ⟨"b", "r"⟩
    let plan (last : String) : Plan :=
      ⟨"/srv/index", "idx", ["gitlab.com/a/r", "a/r", last], none, "", false, .verbose⟩
    let files : FileTree := ⟨[], ["home", "u"]⟩
    let result (last : String) := run (Catalog.forge fun _ => 0).watched 100 (plan last) files
      ([], [], c)
    (∃ summary text index, (result "b/r").outcome = some (.ok summary) ∧
      summary.repositories = 2 ∧ summary.skipped = 1 ∧
      (result "b/r").tree.readText summary.path = .ok text ∧
      SearchIndex.ofText? text = some index ∧ index.repos.length = 2) ∧
      ∃ front records,
        BrokenOff (Catalog.forge fun _ => 0) 100 false .verbose (plan "x/y").sources .empty ([], c)
          ⟨"x", "y"⟩ (Catalog.notFound ⟨"x", "y"⟩) front records ∧
        Report .verbose front
          (Repository.firsts ((discoveries (Catalog.forge fun _ => 0) 100 false front
            ([], c)).flatten ++ records))
          (result "x/y").lines := by
  intro c plan files result
  obtain ⟨-, hok, -⟩ := run_reports (Catalog.forge fun _ => 0) 100 (plan "b/r") files ([], c)
  obtain ⟨-, -, -, -, hbroken⟩ :=
    run_reports (Catalog.forge fun _ => 0) 100 (plan "x/y") files ([], c)
  have hsucceeds : (result "b/r").outcome =
      some (.ok ⟨"/srv/index/livegrep.json", 2, 1⟩) := by
    decide +kernel
  have hfails : (result "x/y").outcome =
      some (.error (.discovery ⟨"x", "y"⟩ (Catalog.notFound ⟨"x", "y"⟩))) := by
    decide +kernel
  obtain ⟨-, -, ⟨text, index, htext, hindex, hlength⟩, -⟩ := hok _ hsucceeds
  exact ⟨⟨_, text, index, hsucceeds, rfl, rfl, htext, hindex, hlength⟩, hbroken _ _ hfails⟩

end Build

end ForkCensus
