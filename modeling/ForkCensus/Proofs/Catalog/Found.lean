import ForkCensus.Proofs.Catalog.Reach
import ForkCensus.Proofs.Discovery.Pages
import ForkCensus.Proofs.Forge.Simulation

/-
# What the surveys of a catalog find

`Catalog.Found` is what a survey is to find: everything that can be
reached or, where only direct forks are asked for, the repository and, if
it is reported to have any, the forks in its list.  A survey of a well
kept catalog finds just that, in either mode, and comes to its end
(`Catalog.drain_found`).
-/

namespace ForkCensus.Catalog

/-- What a survey that begins with `root` is to find. -/
inductive Found (c : Catalog) (root : Slug) : Bool → Slug → Prop
  | root : Found c root false root
  | fork {j : Slug} : 0 < c.forkCount root → j ∈ c.forkList root → Found c root false j
  | reached {j : Slug} : c.Reach root j → Found c root true j

variable {c : Catalog} {root : Slug}

/-- A list of records has those of certain repositories, each as it is reported. -/
structure Reports (c : Catalog) (repos : Slug → Prop) (records : List Repository) : Prop where
  covers : ∀ k, (∃ r ∈ records, r.slug.same k = true) ↔ ∃ j, repos j ∧ j.same k = true
  reported : ∀ r ∈ records, c.record? r.slug = some r

/-! ## Direct surveys -/

/-- The listing of a repository is what a direct survey is to find. -/
theorem WellKept.listing_reports (hc : c.WellKept) (hroot : c.repos.contains root = true) :
    c.Reports (c.Found root false) (c.listing root) where
  covers k := by
    obtain ⟨r₀, hr₀⟩ := exists_record hroot
    constructor
    · rintro ⟨r, hr, hrk⟩
      rcases mem_listing hr with hself | ⟨r', j, hr', hforks, hj, hjr⟩
      · refine ⟨root, .root, Slug.same_trans ?_ hrk⟩
        rw [Slug.same_comm]
        exact (hc.record hself).1
      · refine ⟨j, .fork ((hc.hasForks_iff hr').mp hforks) hj, Slug.same_trans ?_ hrk⟩
        rw [Slug.same_comm]
        exact (hc.record hjr).1
    · rintro ⟨j, hj, hjk⟩
      rw [listing, hr₀]
      cases hj with
      | root => exact ⟨r₀, List.mem_cons_self, Slug.same_trans (hc.record hr₀).1 hjk⟩
      | fork hcount hj =>
          obtain ⟨r, hr⟩ := exists_record (hc.entered hj)
          refine ⟨r, List.mem_cons_of_mem _ ?_, Slug.same_trans (hc.record hr).1 hjk⟩
          rw [if_pos ((hc.hasForks_iff hr₀).mpr hcount)]
          exact List.mem_filterMap.mpr ⟨j, hj, hr⟩
  reported r hr := by
    rcases mem_listing hr with hself | ⟨_, _, -, -, -, hjr⟩
    · exact hc.record_slug hself
    · exact hc.record_slug hjr

/-- **A direct survey of a well kept catalog** comes to its end without a failure and hands out the
listing of its repository. -/
theorem drain_direct (hc : c.WellKept) (hpages : c.pageCount root < 2 ^ 32 - 1)
    (hroot : c.repos.contains root = true) {budget : Nat}
    (hbudget : c.budget (.start root false) ≤ budget) (clock : Nat → Int64) (calls : List Call) :
    ∃ rest, (Survey.start root false).drain (c.still clock) budget calls =
      (c.listing root, some .complete, rest) := by
  obtain ⟨moves, left, log, rest, hdrain, hcourse, hlog, hnone⟩ :=
    c.drain_still clock (.start root false) budget calls
  obtain ⟨ch, rfl, rfl, hrecords, hstanding, hstands⟩ := hcourse.chapter
  have hbroken : ¬ch.Broken := fun h => h.not_answered hc hroot hlog
  have hfine : ∀ e, .failed e ∉ moves := by
    rcases hstands with hmoves | ⟨-, hfine⟩ | hbroken'
    · intro e he
      cases hmoves _ he
    · exact hfine
    · exact absurd hbroken' hbroken
  have hlast : moves.getLast? = some .finished := by
    cases hend : moves.getLast?.bind Move.ending? with
    | none =>
        -- Then every step has brought a record, but there are not that many.
        obtain ⟨hlength, hmoves⟩ := hnone hend
        have hcount : (moves.filterMap Move.record?).length = moves.length := by
          refine List.filterMap_length_eq_length.mpr fun m hm => ?_
          have hend := hmoves m hm
          cases m with
          | item r => rfl
          | passed => exact absurd hm hcourse.not_passed
          | finished => cases hend
          | failed e => cases hend
        have hprefix := (hstanding.prefix_listing hc hpages hlog).length_le
        have hlist := c.length_listing_le ch.root
        have hforks := c.length_forkList_le ch.root
        have hload : c.budget (.start ch.root false) =
          4 * (c.repos.entries.length + (c.forks.entries.flatMap Prod.snd).length + 0 + 2) := rfl
        rw [hrecords, hcount] at hprefix
        omega
    | some ending => exact getLast?_of_ending hend hfine
  have hcomplete : ch.Complete := by
    rcases hstands with hmoves | ⟨hcomplete, -⟩ | hbroken'
    · cases hmoves _ (List.mem_of_getLast? hlast)
    · exact hcomplete
    · exact absurd hbroken' hbroken
  refine ⟨rest, ?_⟩
  rw [hdrain, hlast, ← hrecords, hcomplete.records_eq hc hpages hlog]
  rfl

/-! ## Surveys in either mode -/

/-- **A survey of a well kept catalog finds what it is to find**, and comes to its end. -/
theorem drain_found (hc : c.WellKept) (hpages : ∀ k, c.pageCount k < 2 ^ 32 - 1)
    (hroot : c.repos.contains root = true) {recursive : Bool} {budget : Nat}
    (hbudget : c.budget (.start root recursive) ≤ budget) (clock : Nat → Int64)
    (calls : List Call) :
    ∃ records rest, (Survey.start root recursive).drain (c.still clock) budget calls =
        (records, some .complete, rest) ∧ c.Reports (c.Found root recursive) records := by
  cases recursive with
  | false =>
      obtain ⟨rest, hdrain⟩ := drain_direct hc (hpages root) hroot hbudget clock calls
      exact ⟨_, rest, hdrain, hc.listing_reports hroot⟩
  | true =>
      obtain ⟨records, rest, hdrain, -, hreached, hreported⟩ :=
        drain_reachable hc hpages hroot hbudget clock calls
      refine ⟨records, rest, hdrain, fun k => (hreached k).trans ?_, hreported⟩
      constructor
      · rintro ⟨j, hj, hjk⟩
        exact ⟨j, .reached hj, hjk⟩
      · rintro ⟨j, ⟨⟩ | ⟨⟩ | hj, hjk⟩
        exact ⟨j, hj, hjk⟩

/-- The gate of a catalog opens. -/
theorem WellKept.awaitQuota (hc : c.WellKept) (clock : Nat → Int64) (calls : List Call) :
    ∃ calls', (c.still clock).awaitQuota calls = (.ok (), calls') := by
  obtain ⟨calls', hgate, -⟩ := Gate.awaitQuota_ok (G := (c.still clock).toGate)
    (I := fun _ => True) (fun _ _ _ => trivial) (fun _ _ _ => trivial)
    (fun {s} _ => ⟨c.quota, s ++ [.quota], Prod.ext hc.answerQuota rfl, trivial⟩)
    (s := calls) trivial
  exact ⟨calls', hgate⟩

/-- A survey from a repository that is not there ends with the first question for it. -/
theorem drain_unknown (hc : c.WellKept) (hroot : c.repos.contains root = false) (recursive : Bool)
    {budget : Nat} (hbudget : 2 ≤ budget) (clock : Nat → Int64) (calls : List Call) :
    ∃ rest, (Survey.start root recursive).drain (c.still clock) budget calls =
      ([], some (.broken (notFound root)), rest) := by
  obtain ⟨budget, rfl⟩ := Nat.exists_eq_add_of_le' hbudget
  obtain ⟨calls', hgate⟩ := hc.awaitQuota clock
    ((c.still clock).note (.fetchingRepository (Listing.start root).root) calls)
  have hrepository : (c.still clock).repository (Listing.start root).root calls' =
      (.error (notFound root), calls' ++ [.repository root]) :=
    Prod.ext (hc.answerRepository_unknown hroot) rfl
  have hpull : (Listing.start root).pull (c.still clock) calls =
      (.failed (notFound root), (Listing.start root).close, calls' ++ [.repository root]) := by
    show (Listing.start root).pullRoot (c.still clock) calls = _
    simp only [Listing.pullRoot, hgate, hrepository]
  cases recursive with
  | false =>
      refine ⟨(.direct (Listing.start root).close, calls' ++ [.repository root]), ?_⟩
      show (Survey.direct (.start root)).drain (c.still clock) (budget + 1 + 1) calls = _
      simp only [Survey.drain, Survey.step, hpull]
  | true =>
      -- The first step only begins the listing.
      refine ⟨(.recursive ⟨[], ⟨[root]⟩, .empty, none⟩, calls' ++ [.repository root]), ?_⟩
      show (Survey.recursive ⟨[], ⟨[root]⟩, .empty, some (.start root)⟩).drain (c.still clock)
        (budget + 1) calls = _
      simp only [Survey.drain, Survey.step, Crawl.step, hpull]
      rfl

/-- A survey of a well kept catalog ends, whatever it begins with. -/
theorem drain_ends (hc : c.WellKept) (hpages : ∀ k, c.pageCount k < 2 ^ 32 - 1) (root : Slug)
    {recursive : Bool} {budget : Nat} (hbudget : c.budget (.start root recursive) ≤ budget)
    (clock : Nat → Int64) (calls : List Call) :
    ((Survey.start root recursive).drain (c.still clock) budget calls).2.1 ≠ none := by
  cases hroot : c.repos.contains root with
  | true =>
      obtain ⟨records, rest, hdrain, -⟩ := drain_found hc hpages hroot hbudget clock calls
      rw [hdrain]
      nofun
  | false =>
      have hleast : 2 ≤ c.budget (.start root recursive) := by
        rw [Catalog.budget]
        omega
      obtain ⟨rest, hdrain⟩ :=
        drain_unknown hc hroot recursive (Nat.le_trans hleast hbudget) clock calls
      rw [hdrain]
      nofun

/-! ## Lists of records that go together -/

variable {repos repos' : Slug → Prop} {records records' : List Repository}

theorem reports_nil : c.Reports (fun _ => False) [] where
  covers := by simp
  reported := nofun

theorem Reports.append (h : c.Reports repos records) (h' : c.Reports repos' records') :
    c.Reports (fun j => repos j ∨ repos' j) (records ++ records') where
  covers k := by
    simp only [List.mem_append, or_and_right, exists_or, h.covers, h'.covers]
  reported r hr := by
    rcases List.mem_append.mp hr with hr | hr
    · exact h.reported r hr
    · exact h'.reported r hr

theorem Reports.congr (h : c.Reports repos records) (hiff : ∀ j, repos j ↔ repos' j) :
    c.Reports repos' records := by
  rwa [show repos' = repos from funext fun j => propext (hiff j).symm]

theorem Reports.perm (h : c.Reports repos records) (hperm : records'.Perm records) :
    c.Reports repos records' where
  covers k := by simp only [hperm.mem_iff, h.covers]
  reported r hr := h.reported r (hperm.mem_iff.mp hr)

/-- The first record of each repository stands for all of them. -/
theorem Reports.firsts (h : c.Reports repos records) :
    c.Reports repos (Repository.firsts records) where
  covers k := by
    rw [← h.covers]
    constructor
    · rintro ⟨r, hr, hrk⟩
      exact ⟨r, (Repository.firsts_sublist records).subset hr, hrk⟩
    · rintro ⟨r, hr, hrk⟩
      obtain ⟨a, ha, hfold⟩ := Repository.exists_firsts hr
      exact ⟨a, ha, Slug.same_trans (Slug.same_iff.mpr hfold) hrk⟩
  reported r hr := h.reported r ((Repository.firsts_sublist records).subset hr)

end ForkCensus.Catalog
