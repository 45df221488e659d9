import Mathlib.Algebra.GroupWithZero.Nat
import ForkCensus.Proofs.Catalog.Answers

/-
# All that can be reached, and nothing else

`Catalog.Reach` is the least set with a repository in it and, with each
repository that is reported to have forks, all in its list of forks.

A recursive survey of a well kept catalog stays within that set, because
every chapter was begun for something in it (`Chapter.Grown.reached`).
When it comes to its end everything in the set was pulled, by induction
on the way to it (`Catalog.Reach.pulled`).  And it does come to its end:
the steps are bounded by what is pulled and listed, and that by the
entries of the catalog (`Catalog.steps_lt_budget`).

`Catalog.collect_reachable` puts this together.
-/

namespace ForkCensus

open Exchange

/-! ## Sums over a table -/

namespace SlugMap

variable {α : Type}

/-- Of different slugs, at most one finds the first entry; the others look further on. -/
theorem sum_get?_cons_le (w : α → Nat) (j : Slug) (a : α) (rest : List (Slug × α)) :
    ∀ slugs : List Slug, (slugs.map Slug.fold).Nodup →
      (slugs.map fun k => ((⟨(j, a) :: rest⟩ : SlugMap α).get? k).elim 0 w).sum ≤
        w a + (slugs.map fun k => ((⟨rest⟩ : SlugMap α).get? k).elim 0 w).sum := by
  intro slugs
  induction slugs with
  | nil => exact fun _ => Nat.zero_le _
  | cons k slugs ih =>
      intro hnodup
      obtain ⟨hnew, hnodup⟩ := List.nodup_cons.mp hnodup
      rw [List.map_cons, List.map_cons, List.sum_cons, List.sum_cons, get?_cons]
      cases hj : j.same k with
      | false =>
          have hrest := ih hnodup
          simp only [Bool.false_eq_true, if_false]
          omega
      | true =>
          have hsame : (slugs.map fun k =>
              ((⟨(j, a) :: rest⟩ : SlugMap α).get? k).elim 0 w) =
              slugs.map fun k => ((⟨rest⟩ : SlugMap α).get? k).elim 0 w := by
            refine List.map_congr_left fun i hi => ?_
            have hij : j.same i = false := by
              refine Bool.eq_false_iff.mpr fun hij => hnew ?_
              rw [← Slug.same_iff.mp hj, Slug.same_iff.mp hij]
              exact List.mem_map_of_mem hi
            rw [get?_cons, hij]
            rfl
          rw [hsame]
          simp only [if_true, Option.elim_some]
          omega

/-- Looked up under different slugs, a table has no more than its entries. -/
theorem sum_get?_le (w : α → Nat) (m : SlugMap α) : ∀ slugs : List Slug,
    (slugs.map Slug.fold).Nodup →
      (slugs.map fun k => (m.get? k).elim 0 w).sum ≤ (m.entries.map fun e => w e.2).sum := by
  obtain ⟨entries⟩ := m
  induction entries with
  | nil =>
      intro slugs _
      have hnone : ∀ k : Slug, (⟨[]⟩ : SlugMap α).get? k = none := fun _ => rfl
      simp [hnone]
  | cons e rest ih =>
      intro slugs hnodup
      refine Nat.le_trans (sum_get?_cons_le w e.1 e.2 rest slugs hnodup) ?_
      rw [List.map_cons, List.sum_cons]
      exact Nat.add_le_add_left (ih slugs hnodup) _

end SlugMap

/-! ## What can be reached -/

namespace Catalog

/-- What can be reached from a repository through forks that are reported to be there. -/
inductive Reach (c : Catalog) (root : Slug) : Slug → Prop
  | root : Reach c root root
  | fork {k j : Slug} : Reach c root k → 0 < c.forkCount k → j ∈ c.forkList k → Reach c root j

/-- The same, in whatever spelling. -/
def Reached (c : Catalog) (root k : Slug) : Prop :=
  ∃ j, c.Reach root j ∧ j.same k = true

variable {c : Catalog} {root : Slug}

theorem Reach.contains (hc : c.WellKept) (hroot : c.repos.contains root = true) {k : Slug}
    (h : c.Reach root k) : c.repos.contains k = true := by
  cases h with
  | root => exact hroot
  | fork _ _ hj => exact hc.entered hj

theorem Reached.contains (hc : c.WellKept) (hroot : c.repos.contains root = true) {k : Slug}
    (h : c.Reached root k) : c.repos.contains k = true := by
  obtain ⟨j, hj, hsame⟩ := h
  rw [← c.repos.contains_congr hsame]
  exact hj.contains hc hroot

/-- Listing what can be reached brings what can be reached. -/
theorem Reached.listing (hc : c.WellKept) {k : Slug} (h : c.Reached root k) {r : Repository}
    (hr : r ∈ c.listing k) : c.record? r.slug = some r ∧ c.Reached root r.slug := by
  obtain ⟨i, hi, hik⟩ := h
  rcases mem_listing hr with hk | ⟨r', j, hk, hforks, hj, hjr⟩
  · refine ⟨hc.record_slug hk, i, hi, Slug.same_trans hik ?_⟩
    rw [Slug.same_comm]
    exact (hc.record hk).1
  · refine ⟨hc.record_slug hjr, j, hi.fork ?_ ?_, ?_⟩
    · rw [forkCount_congr hik]
      exact (hc.hasForks_iff hk).mp hforks
    · rw [forkList_congr hik]
      exact hj
    · rw [Slug.same_comm]
      exact (hc.record hjr).1

end Catalog

/-! ## What a survey pulls -/

section

variable {c : Catalog} {root : Slug} {chapters : List Chapter}

/-- **A survey stays within what can be reached.** -/
theorem Chapter.Grown.reached (hc : c.WellKept) (hpages : ∀ k, c.pageCount k < 2 ^ 32 - 1)
    (h : Grown root chapters) (hstanding : ∀ ch ∈ chapters, ch.Standing)
    (hlog : ∀ ch ∈ chapters, ∀ x ∈ ch.log, c.Answered x) :
    (∀ ch ∈ chapters, c.Reached root ch.root) ∧
      ∀ r ∈ pulled chapters, c.record? r.slug = some r ∧ c.Reached root r.slug := by
  induction h with
  | nil => exact ⟨nofun, nofun⟩
  | @concat chapters ch _ hwanted ih =>
      obtain ⟨hroots, hpulled⟩ := ih (fun x hx => hstanding x (List.mem_append_left _ hx))
        (fun x hx => hlog x (List.mem_append_left _ hx))
      have hlast : ch ∈ chapters ++ [ch] := List.mem_append_right _ List.mem_cons_self
      -- The chapter was begun for the root, or for what came in a chapter before it.
      have hroot : c.Reached root ch.root := by
        rcases List.mem_cons.mp hwanted with heq | hwanted
        · rw [heq]
          exact ⟨root, .root, Slug.same_refl _⟩
        · obtain ⟨r, hr, hslug⟩ := List.mem_map.mp hwanted
          rw [← hslug]
          exact (hpulled r (List.mem_filter.mp hr).1).2
      have hbegun := (hstanding ch hlast).prefix_listing hc (hpages _) (hlog ch hlast)
      constructor
      · intro x hx
        rcases List.mem_append.mp hx with hx | hx
        · exact hroots x hx
        · rwa [List.mem_singleton.mp hx]
      · intro r hr
        rw [pulled, List.flatMap_append, List.flatMap_singleton] at hr
        rcases List.mem_append.mp hr with hr | hr
        · exact hpulled r hr
        · exact hroot.listing hc (hbegun.subset hr)

/-- **A survey that came to its end has pulled all that can be reached.** -/
theorem Catalog.Reach.pulled (hc : c.WellKept)
    (hrecords : ∀ ch ∈ chapters, ch.records = c.listing ch.root)
    (hpulled : ∀ r ∈ Chapter.pulled chapters, c.record? r.slug = some r)
    (hroot : c.repos.contains root = true)
    (hwanted : ∀ k ∈ Crawl.wanted root (Chapter.pulled chapters),
      ∃ ch ∈ chapters, ch.root.same k = true) {k : Slug} (h : c.Reach root k) :
    ∃ r ∈ Chapter.pulled chapters, r.slug.same k = true := by
  induction h with
  | root =>
      obtain ⟨ch, hch, hsame⟩ := hwanted root List.mem_cons_self
      obtain ⟨r, hr⟩ := Catalog.exists_record hroot
      have hrecord : c.record? ch.root = some r := by rw [Catalog.record?_congr hsame, hr]
      refine ⟨r, List.mem_flatMap.mpr ⟨ch, hch, ?_⟩, (hc.record hr).1⟩
      rw [hrecords ch hch, Catalog.listing, hrecord]
      exact List.mem_cons_self
  | @fork k j _ hcount hj ih =>
      obtain ⟨r, hr, hrk⟩ := ih
      have hforks : r.hasForks = true := by
        rw [hc.hasForks_iff (hpulled r hr), Catalog.forkCount_congr hrk]
        exact hcount
      obtain ⟨ch, hch, hsame⟩ := hwanted r.slug
        (List.mem_cons_of_mem _ (List.mem_map_of_mem (List.mem_filter.mpr ⟨hr, hforks⟩)))
      have hrecord : c.record? ch.root = some r := by
        rw [Catalog.record?_congr hsame, hpulled r hr]
      obtain ⟨r', hr'⟩ := Catalog.exists_record (hc.entered hj)
      refine ⟨r', List.mem_flatMap.mpr ⟨ch, hch, ?_⟩, (hc.record hr').1⟩
      rw [hrecords ch hch, Catalog.listing, hrecord]
      simp only [hforks, if_true]
      refine List.mem_cons_of_mem _ (List.mem_filterMap.mpr ⟨j, ?_, hr'⟩)
      rw [Catalog.forkList_congr (Slug.same_trans hsame hrk)]
      exact hj

/-! ## How many steps it takes -/

/-- A list of forks is part of what the catalog holds. -/
theorem Catalog.length_forkList_le (c : Catalog) (k : Slug) :
    (c.forkList k).length ≤ (c.forks.entries.flatMap Prod.snd).length := by
  have hsum := SlugMap.sum_get?_le List.length c.forks [k] (List.nodup_singleton _)
  rw [List.length_flatMap, Catalog.forkList]
  cases hk : c.forks.get? k with
  | none => exact Nat.zero_le _
  | some forks => simpa [hk] using hsum

/-- No repository has more pages of forks than the catalog has entries. -/
theorem Catalog.pageCount_le (c : Catalog) (k : Slug) :
    c.pageCount k ≤ (c.forks.entries.flatMap Prod.snd).length := by
  refine Nat.le_trans (Nat.le_of_lt_succ ?_) (c.length_forkList_le k)
  have hpos := c.pageSize_pos
  have hmul := Nat.le_mul_of_pos_right (c.forkList k).length hpos
  rw [Catalog.pageCount, Nat.div_lt_iff_lt_mul hpos, Nat.succ_mul]
  omega

/-- The chapters bring no more than the catalog has entries. -/
theorem Catalog.pulled_length_le
    (hroots : (chapters.map fun ch => ch.root.fold).Nodup)
    (hknown : ∀ ch ∈ chapters, c.repos.contains ch.root = true)
    (hrecords : ∀ ch ∈ chapters, ch.records <+: c.listing ch.root) :
    chapters.length ≤ c.repos.entries.length ∧
      (Chapter.pulled chapters).length ≤
        chapters.length + (c.forks.entries.flatMap Prod.snd).length := by
  have hnodup : ((chapters.map Chapter.root).map Slug.fold).Nodup := by
    rwa [List.map_map]
  constructor
  · have hsum := SlugMap.sum_get?_le (fun _ => 1) c.repos _ hnodup
    have hone : ((chapters.map Chapter.root).map fun k => (c.repos.get? k).elim 0 fun _ => 1) =
        List.replicate chapters.length 1 := by
      rw [List.map_map, ← List.map_const']
      refine List.map_congr_left fun ch hch => ?_
      obtain ⟨r, hr⟩ := SlugMap.contains_iff.mp (hknown ch hch)
      simp [hr]
    simpa [hone] using hsum
  · have hsum := SlugMap.sum_get?_le List.length c.forks _ hnodup
    rw [List.length_flatMap]
    refine Nat.le_trans ?_ (Nat.add_le_add_left hsum _)
    clear hsum hnodup hroots hknown
    induction chapters with
    | nil => exact Nat.le_refl _
    | cons ch chapters ih =>
        have hch := Nat.le_trans (hrecords ch List.mem_cons_self).length_le
          (c.length_listing_le ch.root)
        have hlater := ih fun x hx => hrecords x (List.mem_cons_of_mem _ hx)
        have hlist : (c.forkList ch.root).length = (c.forks.get? ch.root).elim 0 List.length := by
          rw [Catalog.forkList]
          cases c.forks.get? ch.root <;> rfl
        simp only [Chapter.pulled, List.flatMap_cons, List.length_append, List.map_cons,
          List.sum_cons, List.length_cons] at hlater ⊢
        omega

end

/-! ## A recursive survey of a catalog -/

section

variable {c : Catalog} {root : Slug} {moves : List Move} {crawl : Crawl}
  {chapters : List Chapter} {log : List Exchange}

/-- Its chapters: each is about something that can be reached and has brought the beginning of its
listing. -/
theorem Catalog.chapters_reached (hc : c.WellKept) (hpages : ∀ k, c.pageCount k < 2 ^ 32 - 1)
    (told : crawl.Told root moves chapters log) (hlog : ∀ x ∈ log, c.Answered x) :
    (∀ ch ∈ chapters, ∀ x ∈ ch.log, c.Answered x) ∧
      (∀ ch ∈ chapters, c.Reached root ch.root ∧ ch.records <+: c.listing ch.root) ∧
      ∀ r ∈ Chapter.pulled chapters, c.record? r.slug = some r ∧ c.Reached root r.slug := by
  have hchapters : ∀ ch ∈ chapters, ∀ x ∈ ch.log, c.Answered x := by
    intro ch hch x hx
    refine hlog x ?_
    rw [told.log_eq]
    exact List.mem_flatMap.mpr ⟨ch, hch, hx⟩
  have hstanding := told.history.standing
  obtain ⟨hroots, hpulled⟩ := told.grown.reached hc hpages hstanding hchapters
  refine ⟨hchapters, ?_, hpulled⟩
  intro ch hch
  exact ⟨hroots ch hch, (hstanding ch hch).prefix_listing hc (hpages _) (hchapters ch hch)⟩

/-- **It ends within the budget of the catalog.** -/
theorem Catalog.steps_lt_budget (hc : c.WellKept) (hpages : ∀ k, c.pageCount k < 2 ^ 32 - 1)
    (hroot : c.repos.contains root = true) (told : crawl.Told root moves chapters log)
    (covered : crawl.Covered root (Chapter.pulled chapters) moves)
    (hlog : ∀ x ∈ log, c.Answered x) (hmoves : ∀ m ∈ moves, m.ending? = none) :
    moves.length < c.budget (.start root true) := by
  obtain ⟨-, hreached, -⟩ := Catalog.chapters_reached hc hpages told hlog
  obtain ⟨hchapters, hpulled⟩ := Catalog.pulled_length_le (Crawl.roots_nodup told covered)
    (fun ch hch => (hreached ch hch).1.contains hc hroot) (fun ch hch => (hreached ch hch).2)
  have hpaced := covered.paced hmoves
  have hlisted := told.size_listed
  have hbudget : c.budget (.start root true) =
      4 * (c.repos.entries.length + (c.forks.entries.flatMap Prod.snd).length + 1 + 2) := rfl
  omega

/-- It never fails. -/
theorem Catalog.not_failed (hc : c.WellKept) (hpages : ∀ k, c.pageCount k < 2 ^ 32 - 1)
    (hroot : c.repos.contains root = true) (told : crawl.Told root moves chapters log)
    (hlog : ∀ x ∈ log, c.Answered x) : ∀ e, Move.failed e ∉ moves := by
  obtain ⟨hchapters, hreached, -⟩ := Catalog.chapters_reached hc hpages told hlog
  cases told.history with
  | resting _ hmoves => exact hmoves
  | listing _ _ hmoves => exact hmoves
  | @broken done ch _ _ _ _ hbroken =>
      have hch : ch ∈ done ++ [ch] := List.mem_append_right _ List.mem_cons_self
      have hknown := (hreached ch hch).1.contains hc hroot
      exact absurd (hchapters ch hch) (hbroken.not_answered hc hknown)

/-- Where it came to its end, what it handed out is what can be reached, each once, as the catalog
reports it. -/
theorem Catalog.firsts_pulled (hc : c.WellKept) (hpages : ∀ k, c.pageCount k < 2 ^ 32 - 1)
    (hroot : c.repos.contains root = true) (told : crawl.Told root moves chapters log)
    (covered : crawl.Covered root (Chapter.pulled chapters) moves)
    (hlog : ∀ x ∈ log, c.Answered x) (hcur : crawl.current = none) (hstack : crawl.stack = []) :
    (∀ k, (∃ r ∈ Repository.firsts (Chapter.pulled chapters), r.slug.same k = true) ↔
        c.Reached root k) ∧
      ∀ r ∈ Repository.firsts (Chapter.pulled chapters), c.record? r.slug = some r := by
  obtain ⟨hchapters, hreached, hpulled⟩ := Catalog.chapters_reached hc hpages told hlog
  obtain ⟨hcomplete, hwanted⟩ := Crawl.finished_complete told covered hcur hstack
    (Catalog.not_failed hc hpages hroot told hlog)
  have hrecords : ∀ ch ∈ chapters, ch.records = c.listing ch.root := by
    intro ch hch
    exact (hcomplete ch hch).records_eq hc (hpages _) (hchapters ch hch)
  have hsub := (Repository.firsts_sublist (Chapter.pulled chapters)).subset
  constructor
  · intro k
    constructor
    · rintro ⟨r, hr, hsame⟩
      obtain ⟨j, hj, hjr⟩ := (hpulled r (hsub hr)).2
      exact ⟨j, hj, Slug.same_trans hjr hsame⟩
    · rintro ⟨j, hj, hjk⟩
      obtain ⟨r, hr, hsame⟩ := hj.pulled hc hrecords (fun r hr => (hpulled r hr).1) hroot hwanted
      obtain ⟨a, ha, hfold⟩ := Repository.exists_firsts hr
      exact ⟨a, ha, Slug.same_trans (Slug.same_iff.mpr hfold) (Slug.same_trans hsame hjk)⟩
  · intro r hr
    exact (hpulled r (hsub hr)).1

end

namespace Catalog

/-- Draining a survey of a catalog, as a course: the records are those of its steps, and every
reply was the catalog's. -/
theorem drain_still (c : Catalog) (clock : Nat → Int64) (v : Survey) (budget : Nat)
    (calls : List Call) : ∃ moves left log rest,
      v.drain (c.still clock) budget calls =
        (moves.filterMap Move.record?, moves.getLast?.bind Move.ending?, rest) ∧
      Survey.Course v moves left log ∧ (∀ x ∈ log, c.Answered x) ∧
      (moves.getLast?.bind Move.ending? = none →
        moves.length = budget ∧ ∀ m ∈ moves, m.ending? = none) := by
  obtain ⟨moves, left, log, t, hdrain, hcourse, hnone⟩ :=
    Survey.drain_course (F := c.still clock) budget calls (@Survey.Course.start v)
  have hwatched := (c.still clock).watched_alike.drain budget v (s := ([], calls)) (t := calls) rfl
  have hfrom := (c.still clock).watched_from.drain budget v (s := ([], calls)) (t := ([], calls))
    ⟨⟨rfl, nofun⟩, rfl⟩
  rw [hdrain] at hwatched hfrom
  refine ⟨moves, left, log, (v.drain (c.still clock) budget calls).2.2, ?_, hcourse, ?_, hnone⟩
  · exact Prod.ext hwatched.1.symm (Prod.ext hwatched.2.1.symm rfl)
  · exact fun x hx => answered_of_from (hfrom.2.2.2.1.2 x hx)

/-- Where the budget lasts and nothing fails, the last step is the end. -/
theorem getLast?_of_ending {moves : List Move} {ending : Ending}
    (hending : moves.getLast?.bind Move.ending? = some ending) (hfine : ∀ e, .failed e ∉ moves) :
    moves.getLast? = some .finished := by
  obtain ⟨m, hm, hending⟩ := Option.bind_eq_some_iff.mp hending
  cases m with
  | finished => exact hm
  | failed e => exact absurd (List.mem_of_getLast? hm) (hfine e)
  | item r => cases hending
  | passed => cases hending

/-- **A recursive survey of a well kept catalog** comes to its end without a failure, and the records
it hands out have different slugs, are those of what can be reached, and are reported as they are. -/
theorem drain_reachable {c : Catalog} (hc : c.WellKept)
    (hpages : ∀ k, c.pageCount k < 2 ^ 32 - 1) {root : Slug}
    (hroot : c.repos.contains root = true) {budget : Nat}
    (hbudget : c.budget (.start root true) ≤ budget) (clock : Nat → Int64) (calls : List Call) :
    ∃ records rest,
      (Survey.start root true).drain (c.still clock) budget calls =
        (records, some .complete, rest) ∧
      records.Pairwise (fun a b => a.slug.same b.slug = false) ∧
      (∀ k, (∃ r ∈ records, r.slug.same k = true) ↔ c.Reached root k) ∧
      ∀ r ∈ records, c.record? r.slug = some r := by
  obtain ⟨moves, left, log, rest, hdrain, hcourse, hlog, hnone⟩ :=
    c.drain_still clock (.start root true) budget calls
  obtain ⟨crawl, rfl, chapters, told, covered⟩ := hcourse.account
  have hlast : moves.getLast? = some .finished := by
    cases hend : moves.getLast?.bind Move.ending? with
    | none =>
        obtain ⟨hlength, hmoves⟩ := hnone hend
        have hlt := steps_lt_budget hc hpages hroot told covered hlog hmoves
        omega
    | some ending => exact getLast?_of_ending hend (not_failed hc hpages hroot told hlog)
  obtain ⟨hcur, hstack⟩ := hcourse.finished hlast
  obtain ⟨hreached, hrecords⟩ :=
    firsts_pulled hc hpages hroot told covered hlog hcur hstack
  refine ⟨Repository.firsts (Chapter.pulled chapters), rest, ?_, ?_, hreached, hrecords⟩
  · rw [hdrain, hlast, covered.found_eq]
    rfl
  · exact Slug.nodup_fold_iff.mp (Repository.firsts_nodup _)

/-- **Discovery is complete, and hands out nothing twice and nothing else.**  However a catalog was
built, and from every repository it has: a recursive survey comes to its end without a failure, and
the records it hands out have different slugs, are those of what can be reached, and are reported as
they are. -/
theorem collect_reachable (edits : List Edit) (clock : Nat → Int64) (root : Slug)
    (calls : List Call) (budget : Nat) (hroot : (built edits).repos.contains root = true)
    (hpages : ∀ k, (built edits).pageCount k < 2 ^ 32 - 1)
    (hbudget : (built edits).budget (.start root true) ≤ budget) :
    ∃ records rest,
      (Survey.start root true).collect (forge clock) budget (calls, built edits) =
        (some (.ok records), rest) ∧
      records.Pairwise (fun a b => a.slug.same b.slug = false) ∧
      (∀ k, (∃ r ∈ records, r.slug.same k = true) ↔
        ∃ j, (built edits).Reach root j ∧ j.same k = true) ∧
      ∀ r ∈ records, (built edits).record? r.slug = some r := by
  obtain ⟨records, rest, hdrain, hfound⟩ :=
    drain_reachable (built_wellKept edits) hpages hroot hbudget clock calls
  have hforge := ((built edits).forge_alike_still clock).drain budget (.start root true)
    (s := (calls, built edits)) (t := calls) rfl
  rw [hdrain] at hforge
  obtain ⟨records', p, q, hrun, hq, hpq⟩ := hforge.split
  obtain ⟨rfl, rfl⟩ := Prod.mk.inj hq
  obtain ⟨ending, p', q', rfl, hq', -⟩ := hpq.split
  obtain ⟨rfl, rfl⟩ := Prod.mk.inj hq'
  exact ⟨records, p', by rw [Survey.collect, hrun], hfound⟩

/-- A catalog with a cycle, a fork of itself, a fork that is listed twice, and a repository that
hides its forks. -/
def knot : List Edit :=
  [.pageSize 1, .fork ⟨"a", "r"⟩ ⟨"b", "r"⟩, .fork ⟨"b", "r"⟩ ⟨"a", "r"⟩,
    .fork ⟨"a", "r"⟩ ⟨"a", "r"⟩, .fork ⟨"a", "r"⟩ ⟨"b", "r"⟩, .fork ⟨"b", "r"⟩ ⟨"c", "r"⟩,
    .fork ⟨"c", "r"⟩ ⟨"d", "r"⟩, .forkCount ⟨"c", "r"⟩ 0, .repo ⟨"e", "r"⟩ 3,
    .spentPage ⟨"a", "r"⟩ 1, .quota ⟨0, 60⟩]

theorem collect_reachable_knot : ∃ records rest,
    (Survey.start ⟨"a", "r"⟩ true).collect (forge fun _ => 0)
        ((built knot).budget (.start ⟨"a", "r"⟩ true)) ([], built knot) =
      (some (.ok records), rest) ∧
    records.Pairwise (fun a b => a.slug.same b.slug = false) ∧
    (∀ k, (∃ r ∈ records, r.slug.same k = true) ↔
      ∃ j, (built knot).Reach ⟨"a", "r"⟩ j ∧ j.same k = true) ∧
    ∀ r ∈ records, (built knot).record? r.slug = some r := by
  have hentries : ((built knot).forks.entries.flatMap Prod.snd).length < 2 ^ 32 - 1 := by
    decide +kernel
  exact collect_reachable knot (fun _ => 0) ⟨"a", "r"⟩ [] _ (by decide +kernel)
    (fun k => Nat.lt_of_le_of_lt ((built knot).pageCount_le k) hentries) (Nat.le_refl _)

end Catalog

end ForkCensus
