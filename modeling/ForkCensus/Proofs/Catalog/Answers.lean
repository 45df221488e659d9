import ForkCensus.Proofs.Catalog.Kept
import ForkCensus.Proofs.Discovery.Once

/-
# What a catalog answers

A catalog answers the same whenever it is asked: `Catalog.still` is the
service without the catalog in its state, and `Catalog.Answered` says of
an exchange that its reply is the catalog's.

`Catalog.listing` is what the listing of a repository brings.  Of the
chapters of a survey of a well kept catalog, each has brought the
beginning of its listing (`Chapter.Standing.prefix_listing`), all of it
once the chapter is complete (`Chapter.Complete.records_eq`), and none is
broken (`Chapter.Broken.not_answered`).
-/

namespace ForkCensus

open Exchange

namespace Catalog

/-- The service of a catalog, which no question changes. -/
def still (c : Catalog) (clock : Nat → Int64) : Forge (List Call) where
  quota s := (c.answerQuota, s ++ [.quota])
  repository k s := (c.answerRepository k, s ++ [.repository k])
  forkPage k page s := (c.answerPage k page, s ++ [.forkPage k page])
  pause seconds s := s ++ [.pause seconds]
  now s := clock s.length
  note _ s := s

theorem forge_alike_still (c : Catalog) (clock : Nat → Int64) :
    Forge.Alike (fun s t => s = (t, c)) (forge clock) (c.still clock) where
  quota h := by rw [h]; exact ⟨rfl, rfl⟩
  pause _ h := by rw [h]; rfl
  now h := by rw [h]; rfl
  note _ h := h
  repository _ h := by rw [h]; exact ⟨rfl, rfl⟩
  forkPage _ _ h := by rw [h]; exact ⟨rfl, rfl⟩

/-- Whether the reply of an exchange is the catalog's. -/
def Answered (c : Catalog) : Exchange → Prop
  | .quota reply _ => reply = c.answerQuota
  | .repository k reply => reply = c.answerRepository k
  | .forkPage k page reply => reply = c.answerPage k page
  | .pause _ => True

theorem answered_of_from {c : Catalog} {clock : Nat → Int64} {x : Exchange}
    (h : x.From (c.still clock)) : c.Answered x := by
  cases x with
  | pause seconds => trivial
  | quota reply time =>
      obtain ⟨s, rfl⟩ := h
      rfl
  | repository k reply =>
      obtain ⟨s, rfl⟩ := h
      rfl
  | forkPage k page reply =>
      obtain ⟨s, rfl⟩ := h
      rfl

/-! ## Answers without failures -/

variable {c : Catalog}

theorem forkList_congr {j k : Slug} (h : j.same k = true) : c.forkList j = c.forkList k := by
  rw [forkList, forkList, c.forks.get?_congr h]

theorem forkCount_congr {j k : Slug} (h : j.same k = true) : c.forkCount j = c.forkCount k := by
  rw [forkCount, forkCount, c.forkCounts.get?_congr h, forkList_congr h]

theorem record?_congr {j k : Slug} (h : j.same k = true) : c.record? j = c.record? k := by
  rw [record?, record?, c.repos.get?_congr h, forkCount_congr h]

theorem exists_record {k : Slug} (h : c.repos.contains k = true) : ∃ r, c.record? k = some r := by
  obtain ⟨r, hr⟩ := SlugMap.contains_iff.mp h
  exact ⟨_, by rw [record?, hr]; rfl⟩

theorem record?_eq_none {k : Slug} (h : c.repos.contains k = false) : c.record? k = none := by
  rw [record?, Option.map_eq_none_iff, ← Option.not_isSome_iff_eq_none]
  exact Bool.eq_false_iff.mp h

theorem contains_of_record {k : Slug} {r : Repository} (h : c.record? k = some r) :
    c.repos.contains k = true := by
  rw [record?, Option.map_eq_some_iff] at h
  obtain ⟨r', hr', -⟩ := h
  exact SlugMap.contains_iff.mpr ⟨r', hr'⟩

/-- The record of a repository has its slug and the number of its forks. -/
theorem WellKept.record (h : c.WellKept) {k : Slug} {r : Repository} (hr : c.record? k = some r) :
    r.slug.same k = true ∧ r.forks = c.forkCount k := by
  rw [record?, Option.map_eq_some_iff] at hr
  obtain ⟨r', hr', rfl⟩ := hr
  have hnamed := h.named hr'
  exact ⟨hnamed, rfl⟩

/-- The record is found again under the slug it has. -/
theorem WellKept.record_slug (h : c.WellKept) {k : Slug} {r : Repository}
    (hr : c.record? k = some r) : c.record? r.slug = some r := by
  rw [record?_congr (h.record hr).1, hr]

theorem WellKept.hasForks_iff (h : c.WellKept) {k : Slug} {r : Repository}
    (hr : c.record? k = some r) : r.hasForks = true ↔ 0 < c.forkCount k := by
  rw [Repository.hasForks, (h.record hr).2, decide_eq_true_eq]

theorem WellKept.answerQuota (h : c.WellKept) : c.answerQuota = .ok c.quota := by
  rw [Catalog.answerQuota, h.faultless]
  rfl

theorem WellKept.answerRepository (h : c.WellKept) {k : Slug} {r : Repository}
    (hr : c.record? k = some r) : c.answerRepository k = .ok ⟨r, false⟩ := by
  rw [Catalog.answerRepository, h.faultless, hr]
  rfl

theorem WellKept.answerPage (h : c.WellKept) {k : Slug} (hk : c.repos.contains k = true)
    (page : UInt32) :
    c.answerPage k page = .ok ⟨(c.pageOf k page).filterMap c.record?,
      c.spentPages.any fun spent => spent.1.same k && spent.2 == page⟩ := by
  rw [Catalog.answerPage, h.faultless, if_pos hk]
  rfl

/-- A repository that is not there has no answer. -/
theorem WellKept.answerRepository_unknown (h : c.WellKept) {k : Slug}
    (hk : c.repos.contains k = false) : c.answerRepository k = .error (notFound k) := by
  rw [Catalog.answerRepository, h.faultless, record?_eq_none hk]
  rfl

theorem WellKept.answerPage_unknown (h : c.WellKept) {k : Slug}
    (hk : c.repos.contains k = false) (page : UInt32) :
    c.answerPage k page = .error (notFound k) := by
  rw [Catalog.answerPage, h.faultless, if_neg (Bool.eq_false_iff.mp hk)]
  rfl

/-- Only a repository that is there has an answer. -/
theorem WellKept.record_of_answer (h : c.WellKept) {k : Slug} {a : Answer Repository}
    (ha : .ok a = c.answerRepository k) : c.record? k = some a.value := by
  rw [Catalog.answerRepository, h.faultless] at ha
  cases hr : c.record? k with
  | none =>
      rw [hr] at ha
      cases ha
  | some r =>
      rw [hr] at ha
      cases ha
      rfl

theorem WellKept.page_of_answer (h : c.WellKept) {k : Slug} {page : UInt32}
    {a : Answer (List Repository)} (ha : .ok a = c.answerPage k page) :
    a.value = (c.pageOf k page).filterMap c.record? := by
  rw [Catalog.answerPage, h.faultless] at ha
  simp only [List.findSome?_nil] at ha
  split at ha
  · cases ha
    rfl
  · cases ha

/-! ## Listings -/

/-- The records that listing a repository brings: its own and, if it has forks, those in its
list. -/
def listing (c : Catalog) (k : Slug) : List Repository :=
  match c.record? k with
  | none => []
  | some r => r :: if r.hasForks then (c.forkList k).filterMap c.record? else []

/-- How many pages the forks of a repository fill. -/
def pageCount (c : Catalog) (k : Slug) : Nat :=
  ((c.forkList k).length + c.pageSize - 1) / c.pageSize

/-- The forks on a page, as long as its number fits. -/
theorem pageOf_succ (c : Catalog) (k : Slug) {n : Nat} (hn : n + 1 < 2 ^ 32) :
    c.pageOf k (.ofNat (n + 1)) = ((c.forkList k).drop (n * c.pageSize)).take c.pageSize := by
  have hnumber : (UInt32.ofNat (n + 1)).toNat = n + 1 := UInt32.toNat_ofNat_of_lt' hn
  have hindex : max (n + 1) 1 - 1 = n := by omega
  rw [pageOf, hnumber, hindex]

/-- A page without records is past the last fork. -/
theorem WellKept.length_le_of_page (h : c.WellKept) {k : Slug} {n : Nat}
    (hpage : (((c.forkList k).drop (n * c.pageSize)).take c.pageSize).filterMap c.record? = []) :
    (c.forkList k).length ≤ n * c.pageSize := by
  by_contra hlt
  have hne : ((c.forkList k).drop (n * c.pageSize)).take c.pageSize ≠ [] := by
    intro hnil
    have hlength := congrArg List.length hnil
    have hpos := c.pageSize_pos
    rw [List.length_take, List.length_drop, List.length_nil] at hlength
    omega
  obtain ⟨j, hj⟩ := List.exists_mem_of_ne_nil _ hne
  obtain ⟨r, hr⟩ := exists_record (h.entered (List.mem_of_mem_drop (List.mem_of_mem_take hj)))
  have hin : r ∈ (((c.forkList k).drop (n * c.pageSize)).take c.pageSize).filterMap c.record? :=
    List.mem_filterMap.mpr ⟨j, hj, hr⟩
  rw [hpage] at hin
  cases hin

theorem length_listing_le (c : Catalog) (k : Slug) :
    (c.listing k).length ≤ (c.forkList k).length + 1 := by
  unfold listing
  split
  · exact Nat.zero_le _
  · rw [List.length_cons]
    split
    · exact Nat.succ_le_succ (List.length_filterMap_le _ _)
    · exact Nat.succ_le_succ (Nat.zero_le _)

theorem mem_listing {k : Slug} {r : Repository} (hr : r ∈ c.listing k) :
    c.record? k = some r ∨
      ∃ r' j, c.record? k = some r' ∧ r'.hasForks = true ∧ j ∈ c.forkList k ∧
        c.record? j = some r := by
  unfold listing at hr
  cases hk : c.record? k with
  | none =>
      rw [hk] at hr
      cases hr
  | some r' =>
      rw [hk] at hr
      rcases List.mem_cons.mp hr with rfl | hr
      · exact Or.inl rfl
      · split at hr
        · rename_i hforks
          obtain ⟨j, hj, hjr⟩ := List.mem_filterMap.mp hr
          exact Or.inr ⟨r', j, rfl, hforks, hj, hjr⟩
        · cases hr

end Catalog

/-! ## The chapters of a catalog -/

section

variable {c : Catalog}

/-- What a listing has read of a catalog: the record and the forks on the pages so far, none of
which was past the last. -/
theorem Listing.Read.of_catalog (hc : c.WellKept) {root : Slug}
    (hpages : c.pageCount root < 2 ^ 32 - 1) {rs : List Repository} {n : Nat} {spent : Bool}
    {log : List Exchange} (h : Read root rs n spent log) (hlog : ∀ x ∈ log, c.Answered x) :
    n ≤ c.pageCount root ∧ ∃ r, c.record? root = some r ∧ r.hasForks = true ∧
      rs = r :: ((c.forkList root).take (n * c.pageSize)).filterMap c.record? := by
  induction h with
  | @opened a g _ hf =>
      have ha := hlog _ (List.mem_append_right _ List.mem_cons_self)
      refine ⟨Nat.zero_le _, a.value, hc.record_of_answer ha, hf, ?_⟩
      rw [Nat.zero_mul, List.take_zero]
      rfl
  | @page rs n spent log g a _ _ hne ih =>
      obtain ⟨hn, r, hr, hf, hrs⟩ := ih fun x hx => hlog x (List.mem_append_left _ hx)
      have ha : .ok a = c.answerPage root (.ofNat (n + 1)) :=
        hlog (.forkPage root (.ofNat (n + 1)) (.ok a))
          (List.mem_append_right _ (List.mem_append_right _ List.mem_cons_self))
      have hvalue := hc.page_of_answer ha
      rw [c.pageOf_succ root (by omega)] at hvalue
      refine ⟨?_, r, hr, hf, ?_⟩
      · -- With a record on it, the page is not past the last fork.
        have hlt : n * c.pageSize < (c.forkList root).length := by
          by_contra hge
          rw [List.drop_eq_nil_of_le (Nat.not_lt.mp hge), List.take_nil] at hvalue
          exact hne hvalue
        rw [Catalog.pageCount, Nat.le_div_iff_mul_le c.pageSize_pos, Nat.succ_mul]
        have hpos := c.pageSize_pos
        omega
      · rw [hrs, hvalue, Nat.succ_mul, List.take_add, List.filterMap_append]
        rfl

namespace Chapter

variable {ch : Chapter}

theorem prefix_listing_of_read (hc : c.WellKept) {root : Slug}
    (hpages : c.pageCount root < 2 ^ 32 - 1) {rs : List Repository} {n : Nat} {spent : Bool}
    {log : List Exchange} (h : Listing.Read root rs n spent log)
    (hlog : ∀ x ∈ log, c.Answered x) : rs <+: c.listing root := by
  obtain ⟨-, r, hr, hf, rfl⟩ := h.of_catalog hc hpages hlog
  rw [Catalog.listing, hr]
  simp only [hf, if_true]
  exact (List.prefix_cons_inj r).mpr ((List.take_prefix _ _).filterMap _)

/-- A complete chapter has brought the listing of its repository. -/
theorem Complete.records_eq (h : ch.Complete) (hc : c.WellKept)
    (hpages : c.pageCount ch.root < 2 ^ 32 - 1) (hlog : ∀ x ∈ ch.log, c.Answered x) :
    ch.records = c.listing ch.root := by
  cases h with
  | @alone root a g hg hf =>
      have ha := hlog _ (List.mem_append_right _ List.mem_cons_self)
      rw [Catalog.listing, hc.record_of_answer ha]
      simp [hf]
  | @pages root rs n spent spent' log g hread hg =>
      dsimp only at hpages hlog ⊢
      obtain ⟨hn, r, hr, hf, rfl⟩ :=
        hread.of_catalog hc hpages fun x hx => hlog x (List.mem_append_left _ hx)
      have ha : .ok ⟨[], spent'⟩ = c.answerPage root (.ofNat (n + 1)) :=
        hlog (.forkPage root (.ofNat (n + 1)) (.ok ⟨[], spent'⟩))
          (List.mem_append_right _ (List.mem_append_right _ List.mem_cons_self))
      have hempty := hc.page_of_answer ha
      rw [c.pageOf_succ root (by omega)] at hempty
      rw [List.take_of_length_le (hc.length_le_of_page hempty.symm), Catalog.listing, hr]
      simp only [hf, if_true]

/-- A chapter has brought the beginning of the listing of its repository. -/
theorem Standing.prefix_listing (h : ch.Standing) (hc : c.WellKept)
    (hpages : c.pageCount ch.root < 2 ^ 32 - 1) (hlog : ∀ x ∈ ch.log, c.Answered x) :
    ch.records <+: c.listing ch.root := by
  cases h with
  | opened h =>
      cases h with
      | start => exact List.nil_prefix
      | paging hread =>
          exact (List.prefix_append _ _).trans (prefix_listing_of_read hc hpages hread hlog)
  | complete h =>
      exact ⟨[], by rw [List.append_nil, h.records_eq hc hpages hlog]⟩
  | broken h =>
      cases h with
      | ungated => exact List.nil_prefix
      | unanswered => exact List.nil_prefix
      | pageUngated hread =>
          exact prefix_listing_of_read hc hpages hread fun x hx =>
            hlog x (List.mem_append_left _ hx)
      | pageFailed hread =>
          exact prefix_listing_of_read hc hpages hread fun x hx =>
            hlog x (List.mem_append_left _ hx)

/-- A chapter about a repository that is there is never broken. -/
theorem Broken.not_answered (h : ch.Broken) (hc : c.WellKept)
    (hroot : c.repos.contains ch.root = true) : ¬∀ x ∈ ch.log, c.Answered x := by
  intro hlog
  cases h with
  | @ungated root e time =>
      have ha : .error e = c.answerQuota := hlog _ List.mem_cons_self
      rw [hc.answerQuota] at ha
      cases ha
  | @unanswered root e g =>
      have ha : .error e = c.answerRepository root :=
        hlog (.repository root (.error e)) (List.mem_append_right _ List.mem_cons_self)
      obtain ⟨r, hr⟩ := Catalog.exists_record hroot
      rw [hc.answerRepository hr] at ha
      cases ha
  | @pageUngated root rs n e time log =>
      have ha : .error e = c.answerQuota :=
        hlog (.quota (.error e) time) (List.mem_append_right _ List.mem_cons_self)
      rw [hc.answerQuota] at ha
      cases ha
  | @pageFailed root rs n spent e log g =>
      have ha : .error e = c.answerPage root (.ofNat (n + 1)) :=
        hlog (.forkPage root (.ofNat (n + 1)) (.error e))
          (List.mem_append_right _ (List.mem_append_right _ List.mem_cons_self))
      rw [hc.answerPage hroot] at ha
      cases ha

end Chapter

end

end ForkCensus
