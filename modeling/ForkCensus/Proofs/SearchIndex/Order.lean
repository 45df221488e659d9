import Mathlib.Data.List.Forall2
import ForkCensus.SearchIndex

/-
# The order of an index

What it means that records are in the order of an index is said without
the sorting that brings them there: `SearchIndex.IsRanking`.  Stars never
increase along the list, and among the records with any one number of
stars nothing has changed.

This leaves no choice: a list whose stars never increase is put together
from its parts of equal stars in one way only (`eq_of_filter_stars`), so
records have one ranking, and records that are in order are their own.
An index lists the entries of the ranking (`SearchIndex.build_ranked`).
-/

namespace ForkCensus.SearchIndex

/-- `sorted` has just the given records: those with more stars before those with fewer, and those
with equal stars in the order in which they were given. -/
structure IsRanking (records sorted : List Repository) : Prop where
  perm : sorted.Perm records
  descending : sorted.Pairwise fun a b => b.stars ≤ a.stars
  stable : ∀ stars, sorted.filter (fun r => r.stars = stars) =
    records.filter fun r => r.stars = stars

/-- That nothing has changed among the records with equal stars has to be seen only for numbers of
stars that there are. -/
theorem isRanking_iff {records sorted : List Repository} : IsRanking records sorted ↔
    sorted.Perm records ∧ (sorted.Pairwise fun a b => b.stars ≤ a.stars) ∧
      ∀ r ∈ records, sorted.filter (fun a => a.stars = r.stars) =
        records.filter fun a => a.stars = r.stars := by
  constructor
  · intro h
    exact ⟨h.perm, h.descending, fun r _ => h.stable r.stars⟩
  · rintro ⟨hperm, hdescending, hstable⟩
    refine ⟨hperm, hdescending, fun stars => ?_⟩
    by_cases hstars : ∃ r ∈ records, r.stars = stars
    · obtain ⟨r, hr, rfl⟩ := hstars
      exact hstable r hr
    · have hnone : ∀ r ∈ records, ¬decide (r.stars = stars) = true := fun r hr h =>
        hstars ⟨r, hr, of_decide_eq_true h⟩
      rw [List.filter_eq_nil_iff.mpr hnone,
        List.filter_eq_nil_iff.mpr fun r hr => hnone r (hperm.mem_iff.mp hr)]

instance (records sorted : List Repository) : Decidable (IsRanking records sorted) :=
  decidable_of_iff _ isRanking_iff.symm

theorem stars_trans (a b c : Repository) (hab : decide (b.stars ≤ a.stars) = true)
    (hbc : decide (c.stars ≤ b.stars) = true) : decide (c.stars ≤ a.stars) = true := by
  rw [decide_eq_true_eq] at hab hbc ⊢
  exact UInt64.le_trans hbc hab

theorem stars_total (a b : Repository) :
    (decide (b.stars ≤ a.stars) || decide (a.stars ≤ b.stars)) = true := by
  rw [Bool.or_eq_true, decide_eq_true_eq, decide_eq_true_eq]
  exact UInt64.le_total b.stars a.stars

/-- Records with equal stars, which the sorting leaves where they are. -/
theorem filter_stars_pairwise (records : List Repository) (stars : UInt64) :
    (records.filter fun r => r.stars = stars).Pairwise
      fun a b => decide (b.stars ≤ a.stars) = true := by
  refine List.pairwise_of_forall_mem_list ?_
  intro a ha b hb
  have ha' : a.stars = stars := of_decide_eq_true (List.mem_filter.mp ha).2
  have hb' : b.stars = stars := of_decide_eq_true (List.mem_filter.mp hb).2
  rw [decide_eq_true_eq, ha', hb']
  exact UInt64.le_refl _

/-- **An index has its records in order.** -/
theorem isRanking_ranked (records : List Repository) : IsRanking records (ranked records) where
  perm := List.mergeSort_perm records _
  descending := by
    have h := List.pairwise_mergeSort stars_trans stars_total records
    exact h.imp fun hab => of_decide_eq_true hab
  stable stars := by
    -- The records with these stars come through as a sublist, and none is missing.
    have hsub : (records.filter fun r => r.stars = stars).Sublist (ranked records) :=
      List.sublist_mergeSort stars_trans stars_total (filter_stars_pairwise records stars)
        List.filter_sublist
    have hsub' := hsub.filter fun r => decide (r.stars = stars)
    rw [List.filter_filter] at hsub'
    simp only [Bool.and_self] at hsub'
    have hperm := (List.mergeSort_perm records fun a b => b.stars ≤ a.stars).filter
      fun r => decide (r.stars = stars)
    exact (hsub'.eq_of_length hperm.length_eq.symm).symm

/-- Rankings of the same records differ at most in the order of those with equal stars. -/
theorem IsRanking.stars_eq {records records' sorted sorted' : List Repository}
    (h : IsRanking records sorted) (h' : IsRanking records' sorted') (hperm : records.Perm records') :
    sorted.map Repository.stars = sorted'.map Repository.stars := by
  have hsorted : sorted.Perm sorted' := (h.perm.trans hperm).trans h'.perm.symm
  have hdescending {l : List Repository} (hl : l.Pairwise fun a b => b.stars ≤ a.stars) :
      (l.map Repository.stars).Pairwise (· ≥ ·) := List.pairwise_map.mpr hl
  exact (hsorted.map Repository.stars).eq_of_pairwise (fun _ _ _ _ hab hba =>
    UInt64.le_antisymm hba hab) (hdescending h.descending) (hdescending h'.descending)

/-- Records along which stars never increase are known by those of each number of stars. -/
theorem eq_of_filter_stars {l l' : List Repository}
    (hl : l.Pairwise fun a b => b.stars ≤ a.stars) (hl' : l'.Pairwise fun a b => b.stars ≤ a.stars)
    (h : ∀ stars, l.filter (fun r => r.stars = stars) = l'.filter fun r => r.stars = stars) :
    l = l' := by
  induction l generalizing l' with
  | nil =>
      cases l' with
      | nil => rfl
      | cons b l' => simpa using h b.stars
  | cons a l ih =>
      cases l' with
      | nil => simpa using h a.stars
      | cons b l' =>
          obtain ⟨ha, hrest⟩ := List.pairwise_cons.mp hl
          obtain ⟨hb, hrest'⟩ := List.pairwise_cons.mp hl'
          have hmost {c d : Repository} {m : List Repository} (hc : ∀ r ∈ m, r.stars ≤ c.stars)
              (hd : d ∈ c :: m) : d.stars ≤ c.stars := by
            rcases List.mem_cons.mp hd with rfl | hd
            · exact UInt64.le_refl _
            · exact hc d hd
          have hmem : a ∈ b :: l' := by
            have hfilter : a ∈ (a :: l).filter fun r => r.stars = a.stars := by simp
            rw [h] at hfilter
            exact (List.mem_filter.mp hfilter).1
          have hmem' : b ∈ a :: l := by
            have hfilter : b ∈ (b :: l').filter fun r => r.stars = b.stars := by simp
            rw [← h] at hfilter
            exact (List.mem_filter.mp hfilter).1
          -- Both lists begin with the most stars, so their first records are in one part.
          have hstars : a.stars = b.stars := UInt64.le_antisymm (hmost hb hmem) (hmost ha hmem')
          have hpart := h a.stars
          rw [List.filter_cons_of_pos (by simp), List.filter_cons_of_pos (by simp [hstars])] at hpart
          obtain ⟨rfl, -⟩ := List.cons.inj hpart
          congr 1
          refine ih hrest hrest' fun stars => ?_
          have htail := h stars
          rw [List.filter_cons, List.filter_cons] at htail
          split at htail
          · exact (List.cons.inj htail).2
          · exact htail

/-- Records have one ranking. -/
theorem IsRanking.unique {records sorted sorted' : List Repository} (h : IsRanking records sorted)
    (h' : IsRanking records sorted') : sorted = sorted' :=
  eq_of_filter_stars h.descending h'.descending fun stars =>
    (h.stable stars).trans (h'.stable stars).symm

/-- Records that are in order are their own ranking. -/
theorem IsRanking.self {records : List Repository}
    (h : records.Pairwise fun a b => b.stars ≤ a.stars) : IsRanking records records :=
  ⟨List.Perm.refl records, h, fun _ => rfl⟩

/-- The entry says of a repository what its record says, and where it is checked out. -/
structure Entry.Describes (folder : String) (r : Repository) (e : Entry) : Prop where
  name : e.name = r.owner ++ "/" ++ r.name
  path : e.path = Files.Path.join (Files.Path.join folder r.owner) r.name
  remote : e.remote = r.cloneHttp
  page : e.page = r.page
  revisions : e.revisions = ["HEAD"]

theorem Entry.describes_ofRepository (folder : String) (r : Repository) :
    (ofRepository folder r).Describes folder r :=
  ⟨rfl, rfl, rfl, rfl, rfl⟩

/-- **An index lists all records, ranked.**  There is one ranking of the records, and the entries of
their index describe its records one by one.  So they are the entries of the given records in another
order.  Ranking changes nothing the second time: the index of the ranking is the same index, and
records along which stars never increase are listed as they are. -/
theorem build_ranked (name folder : String) (records : List Repository) :
    ∃ sorted, IsRanking records sorted ∧ (∀ other, IsRanking records other → other = sorted) ∧
      List.Forall₂ (Entry.Describes folder) sorted (build name folder records).repos ∧
      (build name folder records).repos.Perm (records.map (Entry.ofRepository folder)) ∧
      build name folder sorted = build name folder records ∧
      (records.Pairwise (fun a b => b.stars ≤ a.stars) → sorted = records) := by
  have hranking : IsRanking records (ranked records) := isRanking_ranked records
  refine ⟨ranked records, hranking, fun other hother => hother.unique hranking, ?_, ?_, ?_, ?_⟩
  · refine List.forall₂_map_right_iff.mpr (List.forall₂_same.mpr fun r _ => ?_)
    exact Entry.describes_ofRepository folder r
  · exact hranking.perm.map (Entry.ofRepository folder)
  · have hagain : ranked (ranked records) = ranked records :=
      (isRanking_ranked (ranked records)).unique (.self hranking.descending)
    rw [build, build, hagain]
  · intro hdescending
    exact hranking.unique (.self hdescending)

/-- Records of which three have equal stars, two of them the same record. -/
def ties : List Repository :=
  [.sample ⟨"a", "r"⟩ 3, .sample ⟨"b", "r"⟩ 7, .sample ⟨"c", "r"⟩ 3, .sample ⟨"a", "r"⟩ 3,
    .sample ⟨"d", "r"⟩ 0xFFFFFFFFFFFFFFFF]

/-- Those with equal stars stay in their order, and the list in that order is its own ranking. -/
theorem build_ranked_ties :
    let inOrder : List Repository :=
      [.sample ⟨"d", "r"⟩ 0xFFFFFFFFFFFFFFFF, .sample ⟨"b", "r"⟩ 7, .sample ⟨"a", "r"⟩ 3,
        .sample ⟨"c", "r"⟩ 3, .sample ⟨"a", "r"⟩ 3]
    IsRanking ties inOrder ∧ inOrder.Pairwise (fun a b => b.stars ≤ a.stars) ∧
      List.Forall₂ (Entry.Describes "out") inOrder (build "idx" "out" ties).repos ∧
      List.Forall₂ (Entry.Describes "out") inOrder (build "idx" "out" inOrder).repos := by
  intro inOrder
  have hranking : IsRanking ties inOrder := by decide
  have hdescending : inOrder.Pairwise fun a b => b.stars ≤ a.stars := by decide
  obtain ⟨sorted, -, hone, hentries, -⟩ := build_ranked "idx" "out" ties
  obtain ⟨sorted', -, -, hentries', -, -, hself⟩ := build_ranked "idx" "out" inOrder
  rw [← hone inOrder hranking] at hentries
  rw [hself hdescending] at hentries'
  exact ⟨hranking, hdescending, hentries, hentries'⟩

end ForkCensus.SearchIndex
