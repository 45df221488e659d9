import ForkCensus.Build
import ForkCensus.Proofs.Discovery.Pages

/-
# What a build asks for

A build surveys its sources one after the other, and every survey begins
with empty sets: what one of them listed is not known to the next.
`Build.surveys` has the transcript of each; `Build.run_log` says that the
transcript of a build is these, one after the other.

So a page can be asked for twice in one build, though in no survey
(`Build.overlap_paged_twice`).  `Build.run_pages_nodup_iff` says
when: exactly if two of the surveys ask for forks of the same repository,
or one of them for so many pages that their numbers begin anew.
-/

namespace ForkCensus

open Exchange

namespace Build

variable {σ : Type} (F : Forge σ) (budget : Nat)

/-! ## The surveys of a build -/

/-- The transcripts of the surveys of the sources, one for each survey that was begun. -/
def surveys (recursive : Bool) : List String → σ → List (List Exchange)
  | [], _ => []
  | source :: rest, s =>
    match Source.slug? source with
    | .error _ => surveys recursive rest s
    | .ok root =>
      let (survey, s) := Survey.begin F.watched root recursive ([], s)
      match survey.drain F.watched budget s with
      | (_, some .complete, _, log, t) => log :: surveys recursive rest t
      | (_, _, _, log, _) => [log]

/-- The surveys of a build: none if there is no folder for the index. -/
def surveysOf (plan : Plan) (tree : FileTree) (s : σ) : List (List Exchange) :=
  match tree.makeFolders plan.folder with
  | (_, .error _) => []
  | (_, .ok ()) => surveys F budget plan.recursive plan.sources s

theorem gather_log (recursive : Bool) (verbosity : Verbosity) (sources : List String) :
    ∀ (tally : Tally) (log : List Exchange) (s : σ),
      (gather F.watched budget recursive verbosity sources tally (log, s)).state.1 =
        log ++ (surveys F budget recursive sources s).flatten := by
  induction sources with
  | nil => exact fun tally log s => (List.append_nil log).symm
  | cons source rest ih =>
      intro tally log s
      simp only [gather, surveys]
      cases Source.slug? source with
      | error e => exact ih _ log s
      | ok root =>
          -- The survey does not see what was asked before it began.
          have hbegin : ∀ before : List Exchange,
              Survey.begin F.watched root recursive (before, s) =
                (Survey.start root recursive, before, F.note (.discovering root recursive) s) :=
            fun _ => rfl
          obtain ⟨records, p, q, hfull, hfresh, h⟩ :=
            ((F.watched_after log).drain budget (Survey.start root recursive)
              (s := (log, F.note (.discovering root recursive) s))
              (t := ([], F.note (.discovering root recursive) s))
              ⟨(List.append_nil log).symm, rfl⟩).split
          obtain ⟨ending, p', q', rfl, rfl, h'⟩ := h.split
          obtain ⟨left, ⟨log', t⟩, ⟨added, _⟩, rfl, rfl, hlog, rfl⟩ := h'.split
          obtain rfl : log' = log ++ added := hlog
          simp only [hbegin, hfull, hfresh]
          cases ending with
          | none => simp
          | some ending =>
              cases ending with
              | broken e => simp
              | complete =>
                  show (gather F.watched budget recursive verbosity rest _
                    (log ++ added, t)).state.1 = _
                  rw [ih, List.flatten_cons, List.append_assoc]

/-- Writing the index asks for nothing. -/
theorem emit_log (plan : Plan) (tree : FileTree) (lines : List Line) (tally : Tally)
    (s : List Exchange × σ) : (emit F.watched plan tree lines tally s).state.1 = s.1 := by
  unfold emit
  dsimp only
  split <;> rfl

/-- The transcript of a build is those of its surveys. -/
theorem run_log (plan : Plan) (tree : FileTree) (s : σ) :
    (run F.watched budget plan tree ([], s)).state.1 =
      (surveysOf F budget plan tree s).flatten := by
  unfold run surveysOf
  rcases tree.makeFolders plan.folder with ⟨tree, cause | _⟩
  · rfl
  · have hlog := gather_log F budget plan.recursive plan.verbosity plan.sources .empty [] s
    rw [List.nil_append] at hlog
    rw [← hlog]
    dsimp only
    split
    · rfl
    · rfl
    · exact emit_log F _ _ _ _ _

/-- Each of the transcripts is that of a course. -/
theorem surveys_course (recursive : Bool) (sources : List String) :
    ∀ (s : σ), ∀ log ∈ surveys F budget recursive sources s, ∃ root moves v,
      Survey.Course (.start root recursive) moves v log := by
  induction sources with
  | nil => exact fun s log hlog => nomatch hlog
  | cons source rest ih =>
      intro s log hlog
      simp only [surveys] at hlog
      cases hsource : Source.slug? source with
      | error e =>
          rw [hsource] at hlog
          exact ih s log hlog
      | ok root =>
          obtain ⟨moves, left, added, t, hdrain, hcourse, -⟩ :=
            Survey.drain_course (F := F) budget (F.note (.discovering root recursive) s)
              (@Survey.Course.start (Survey.start root recursive))
          have hbegin : Survey.begin F.watched root recursive ([], s) =
              (Survey.start root recursive, [], F.note (.discovering root recursive) s) := rfl
          simp only [hsource, hbegin, hdrain] at hlog
          generalize moves.getLast?.bind Move.ending? = ending at hlog
          cases ending with
          | none =>
              rw [List.mem_singleton.mp hlog]
              exact ⟨root, _, _, hcourse⟩
          | some ending =>
              cases ending with
              | broken e =>
                  rw [List.mem_singleton.mp hlog]
                  exact ⟨root, _, _, hcourse⟩
              | complete =>
                  rcases List.mem_cons.mp hlog with rfl | hlog
                  · exact ⟨root, _, _, hcourse⟩
                  · exact ih t log hlog

/-! ## Pages that are asked for twice -/

theorem surveysOf_pagesAsked {plan : Plan} {tree : FileTree} {s : σ} {log : List Exchange}
    (h : log ∈ surveysOf F budget plan tree s) (k : Slug) :
    ∃ n, pagesAsked k log = (List.range' 1 n).map UInt32.ofNat := by
  unfold surveysOf at h
  split at h
  · cases h
  · obtain ⟨root, moves, v, hcourse⟩ := surveys_course F budget _ _ s log h
    exact hcourse.pagesAsked k

end Build

/-- The pages that were asked for in several transcripts. -/
theorem Exchange.pagesAsked_flatten (k : Slug) (logs : List (List Exchange)) :
    pagesAsked k logs.flatten = (logs.map (pagesAsked k)).flatten := by
  induction logs with
  | nil => rfl
  | cons log logs ih =>
      rw [List.flatten_cons, List.map_cons, List.flatten_cons, ← ih]
      simp only [pagesAsked, Catalog.pageRequests, List.map_append, List.filterMap_append]

/-- Pages from 1 on have something in common unless one of the lists is empty. -/
theorem Exchange.disjoint_pages_iff {n m : Nat} :
    List.Disjoint ((List.range' 1 n).map UInt32.ofNat) ((List.range' 1 m).map UInt32.ofNat) ↔
      n = 0 ∨ m = 0 := by
  constructor
  · intro h
    by_contra hboth
    have hn : 1 ∈ List.range' 1 n := List.mem_range'_1.mpr (by omega)
    have hm : 1 ∈ List.range' 1 m := List.mem_range'_1.mpr (by omega)
    exact h (List.mem_map_of_mem hn) (List.mem_map_of_mem hm)
  · rintro (rfl | rfl)
    · exact List.disjoint_nil_left _
    · exact List.disjoint_nil_right _

/-- No page is asked for twice in several transcripts, in each of which the pages of a repository
are asked for in order, exactly if no two of them share a repository and none begins anew. -/
theorem Exchange.pageKeys_flatten_nodup_iff {logs : List (List Exchange)}
    (h : ∀ log ∈ logs, ∀ k, ∃ n, pagesAsked k log = (List.range' 1 n).map UInt32.ofNat) :
    (pageKeys logs.flatten).Nodup ↔
      (∀ log ∈ logs, ∀ k, (pagesAsked k log).length ≤ 2 ^ 32) ∧
        logs.Pairwise fun a b => ∀ k, pagesAsked k a = [] ∨ pagesAsked k b = [] := by
  have hnodup : ∀ log ∈ logs, ∀ k,
      (pagesAsked k log).Nodup ↔ (pagesAsked k log).length ≤ 2 ^ 32 := by
    intro log hlog k
    obtain ⟨n, hn⟩ := h log hlog k
    rw [hn, nodup_pages_iff, List.length_map, List.length_range']
  have hdisjoint : ∀ a ∈ logs, ∀ b ∈ logs, ∀ k,
      List.Disjoint (pagesAsked k a) (pagesAsked k b) ↔
        pagesAsked k a = [] ∨ pagesAsked k b = [] := by
    intro a ha b hb k
    obtain ⟨n, hn⟩ := h a ha k
    obtain ⟨m, hm⟩ := h b hb k
    rw [hn, hm, disjoint_pages_iff]
    simp
  simp only [pageKeys_nodup_iff, pagesAsked_flatten, List.nodup_flatten, List.forall_mem_map,
    List.pairwise_map]
  constructor
  · intro hall
    constructor
    · intro log hlog k
      exact (hnodup log hlog k).mp ((hall k).1 log hlog)
    · rw [List.pairwise_iff_forall_sublist]
      intro a b hab k
      have ha : a ∈ logs := hab.subset List.mem_cons_self
      have hb : b ∈ logs := hab.subset (List.mem_cons_of_mem _ List.mem_cons_self)
      exact (hdisjoint a ha b hb k).mp (List.pairwise_iff_forall_sublist.mp (hall k).2 hab)
  · rintro ⟨hlength, hpairs⟩ k
    constructor
    · intro log hlog
      exact (hnodup log hlog k).mpr (hlength log hlog k)
    · exact hpairs.imp_of_mem fun {a b} ha hb hab => (hdisjoint a ha b hb k).mpr (hab k)

namespace Build

/-- **When a build asks for a page twice.**  The transcript of a build is those of its surveys; and
no page of the forks of a repository is asked for twice exactly if no two of the surveys ask for
forks of the same repository, and none for more pages of one than there are numbers. -/
theorem run_pages_nodup_iff {σ : Type} (F : Forge σ) (budget : Nat) (plan : Plan) (tree : FileTree)
    (s : σ) :
    let log := (run F.watched budget plan tree ([], s)).state.1
    let logs := surveysOf F budget plan tree s
    log = logs.flatten ∧
      ((pageKeys log).Nodup ↔
        (∀ log ∈ logs, ∀ k, (pagesAsked k log).length ≤ 2 ^ 32) ∧
          logs.Pairwise fun a b => ∀ k, pagesAsked k a = [] ∨ pagesAsked k b = []) := by
  intro log logs
  have hlog : log = logs.flatten := run_log F budget plan tree s
  refine ⟨hlog, ?_⟩
  rw [hlog]
  exact pageKeys_flatten_nodup_iff fun log hlog k => surveysOf_pagesAsked F budget hlog k

/-! ## Sources that overlap -/

/-- The transcript of a build with the given sources, for a catalog of two repositories that are
forks of each other. -/
def logOfPair (recursive : Bool) (sources : List String) : List Exchange :=
  (run (Catalog.forge fun _ => 0).watched 100
    ⟨"out", "idx", sources, none, "", recursive, .quiet⟩ .empty ([], [], .pair)).state.1

/-- A source that is repeated, and sources that are forks of each other: both ask for the first page
of `a/r` twice. -/
theorem overlap_paged_twice :
    ¬(pageKeys (logOfPair false ["a/r", "a/r"])).Nodup ∧
      ¬(pageKeys (logOfPair true ["a/r", "b/r"])).Nodup := by
  decide +kernel

end Build

end ForkCensus
