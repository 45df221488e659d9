import ForkCensus.Proofs.Catalog.Answers

/-
# The two views of a catalog

A catalog is asked for a repository, or for the forks of one, page by
page, and the two answers are made apart.  However the catalog was built,
they say the same (`Catalog.views_agree`): what is on a page is what is
said of the repository alone, and the pages up to an empty one are the
whole list of forks.

What this list is can be told from the steps in which the catalog was
built (`Catalog.forkList_built`), whatever else was done between them.  A
page leaves out what it has no record of, and so may end a list too soon;
that it never does is `Catalog.WellKept.forall₂_records`.
-/

namespace ForkCensus.Catalog

/-! ## What the steps come to -/

/-- The fork that a step enters into the list of a repository. -/
def Edit.forkOf? (k : Slug) : Edit → Option Slug
  | .fork parent child => if parent.same k then some child else none
  | _ => none

/-- The number of forks that a step has a repository report. -/
def Edit.countOf? (k : Slug) : Edit → Option UInt64
  | .forkCount j count => if j.same k then some count else none
  | _ => none

theorem forkList_edit (c : Catalog) (e : Edit) (k : Slug) :
    (c.edit e).forkList k = c.forkList k ++ (e.forkOf? k).toList := by
  cases e with
  | fork parent fork =>
      rw [edit, forkList_withFork, Edit.forkOf?]
      cases h : parent.same k with
      | true => rw [forkList_congr h]; rfl
      | false => exact (List.append_nil _).symm
  | repo | forkCount | pageSize | spentPage | quota => exact (List.append_nil _).symm

theorem get?_forkCounts_edit (c : Catalog) (e : Edit) (k : Slug) :
    (c.edit e).forkCounts.get? k = (e.countOf? k).or (c.forkCounts.get? k) := by
  cases e with
  | forkCount j count =>
      rw [edit, withForkCount, SlugMap.get?_insert, Edit.countOf?]
      cases j.same k <;> rfl
  | repo | fork | pageSize | spentPage | quota => rfl

/-- The forks of a repository are those that were entered for it, in that order. -/
theorem forkList_built (edits : List Edit) (k : Slug) :
    (built edits).forkList k = edits.filterMap (Edit.forkOf? k) := by
  have hfold : ∀ (edits : List Edit) (c : Catalog),
      (edits.foldl edit c).forkList k = c.forkList k ++ edits.filterMap (Edit.forkOf? k) := by
    intro edits
    induction edits with
    | nil => exact fun c => (List.append_nil _).symm
    | cons e edits ih =>
        intro c
        rw [List.foldl_cons, ih, forkList_edit, List.append_assoc, List.filterMap_cons]
        cases e.forkOf? k <;> rfl
  exact hfold edits empty

/-- Of several counts that a repository is to report the last is reported. -/
theorem get?_forkCounts_built (edits : List Edit) (k : Slug) :
    (built edits).forkCounts.get? k = edits.reverse.findSome? (Edit.countOf? k) := by
  have hfold : ∀ (edits : List Edit) (c : Catalog), (edits.foldl edit c).forkCounts.get? k =
      (edits.reverse.findSome? (Edit.countOf? k)).or (c.forkCounts.get? k) := by
    intro edits
    induction edits with
    | nil => exact fun c => rfl
    | cons e edits ih =>
        intro c
        rw [List.foldl_cons, ih, get?_forkCounts_edit, List.reverse_cons, List.findSome?_append,
          Option.or_assoc, List.findSome?_singleton]
  rw [built, hfold]
  exact Option.or_none

/-! ## Pages -/

section

variable {c : Catalog}

/-- Every fork in a list has its record. -/
theorem WellKept.forall₂_records (h : c.WellKept) {forks : List Slug}
    (hforks : ∀ j ∈ forks, c.repos.contains j = true) :
    List.Forall₂ (fun j r => c.answerRepository j = .ok ⟨r, false⟩ ∧ r.slug.same j = true) forks
      (forks.filterMap c.record?) := by
  induction forks with
  | nil => exact .nil
  | cons j forks ih =>
      obtain ⟨hj, hforks⟩ := List.forall_mem_cons.mp hforks
      obtain ⟨r, hr⟩ := exists_record hj
      rw [List.filterMap_cons_some hr]
      exact .cons ⟨h.answerRepository hr, (h.record hr).1⟩ (ih hforks)

theorem WellKept.length_records (h : c.WellKept) {forks : List Slug}
    (hforks : ∀ j ∈ forks, c.repos.contains j = true) :
    (forks.filterMap c.record?).length = forks.length :=
  (h.forall₂_records hforks).length_eq.symm

/-- The pages up to a number have the beginning of the list. -/
theorem flatMap_pageOf (c : Catalog) (k : Slug) {n : Nat} (hn : n < 2 ^ 32) :
    (List.range' 1 n).flatMap (fun i => c.pageOf k (.ofNat i)) =
      (c.forkList k).take (n * c.pageSize) := by
  induction n with
  | zero => simp
  | succ n ih =>
      rw [List.range'_1_concat, List.flatMap_append, ih (by omega), List.flatMap_singleton,
        Nat.add_comm 1 n, c.pageOf_succ k hn, Nat.succ_mul, List.take_add]

/-- A page is empty exactly if there is room for the whole list on those before it. -/
theorem pageOf_eq_nil_iff (c : Catalog) (k : Slug) (page : UInt32) : c.pageOf k page = [] ↔
    (c.forkList k).length ≤ (max page.toNat 1 - 1) * c.pageSize := by
  have hpos := c.pageSize_pos
  rw [pageOf, ← List.length_eq_zero_iff, List.length_take, List.length_drop]
  omega

/-- There is an empty page, but for lists that take up all numbers of pages. -/
theorem exists_pageOf_eq_nil_iff (c : Catalog) (k : Slug) :
    (∃ page, 0 < page ∧ c.pageOf k page = []) ↔ c.pageCount k < 2 ^ 32 - 1 := by
  have hcount (n : Nat) : c.pageCount k ≤ n ↔ (c.forkList k).length ≤ n * c.pageSize := by
    have hpos := c.pageSize_pos
    rw [pageCount, ← Nat.lt_succ_iff, Nat.div_lt_iff_lt_mul hpos, Nat.succ_mul]
    omega
  constructor
  · rintro ⟨page, hpage, hnil⟩
    have hpage' : 0 < page.toNat := UInt32.lt_iff_toNat_lt.mp hpage
    have hroom := (hcount _).mpr ((c.pageOf_eq_nil_iff k page).mp hnil)
    have hlt := page.toNat_lt
    omega
  · intro hlt
    have hfits : c.pageCount k + 1 < 2 ^ 32 := by omega
    have hnumber : (UInt32.ofNat (c.pageCount k + 1)).toNat = c.pageCount k + 1 :=
      UInt32.toNat_ofNat_of_lt' hfits
    refine ⟨.ofNat (c.pageCount k + 1), UInt32.lt_iff_toNat_lt.mpr ?_, ?_⟩
    · rw [hnumber]
      exact Nat.succ_pos _
    · rw [pageOf_eq_nil_iff, hnumber, ← hcount]
      omega

/-- The pages before an empty one have the whole list. -/
theorem flatMap_pageOf_of_nil {k : Slug} {last : UInt32} (hlast : 0 < last)
    (hnil : c.pageOf k last = []) :
    (List.range' 1 (last.toNat - 1)).flatMap (fun i => c.pageOf k (.ofNat i)) = c.forkList k := by
  have hpos : 0 < last.toNat := UInt32.lt_iff_toNat_lt.mp hlast
  have hlt := last.toNat_lt
  have hroom := (c.pageOf_eq_nil_iff k last).mp hnil
  rw [show max last.toNat 1 - 1 = last.toNat - 1 by omega] at hroom
  rw [c.flatMap_pageOf k (by omega), List.take_of_length_le hroom]

end

/-- **The two views of a catalog agree**, in whatever steps it was built.  Each fork in a list has
its record, and what is on a page is what the catalog answers when asked for it alone.  The pages of
a repository that is there, counted from 1, come to an empty one, unless their numbers do not
suffice; those before it have the records of all forks that were entered for the repository, in that
order, and those after it are empty.  Its record counts them, or says what it was last told to. -/
theorem views_agree (edits : List Edit) :
    let c := built edits
    (∀ k, ∀ j ∈ c.forkList k, ∃ r, c.answerRepository j = .ok ⟨r, false⟩ ∧
      r.slug.same j = true) ∧
    (∀ k page a, c.answerPage k page = .ok a →
      ∀ r ∈ a.value, c.answerRepository r.slug = .ok ⟨r, false⟩) ∧
    ∀ k own, c.answerRepository k = .ok own → ∃ pages : UInt32 → List Repository,
      (∀ page, ∃ spent, c.answerPage k page = .ok ⟨pages page, spent⟩) ∧
      pages 0 = pages 1 ∧
      ((∃ page, 0 < page ∧ pages page = []) ↔ c.pageCount k < 2 ^ 32 - 1) ∧
      ∀ last, 0 < last → pages last = [] →
        let whole := (List.range' 1 (last.toNat - 1)).flatMap fun n => pages (.ofNat n)
        List.Forall₂ (fun j r => c.answerRepository j = .ok ⟨r, false⟩ ∧ r.slug.same j = true)
            (edits.filterMap (Edit.forkOf? k)) whole ∧
          (∀ page, last ≤ page → pages page = []) ∧
          own.value.forks =
            (edits.reverse.findSome? (Edit.countOf? k)).getD (.ofNat whole.length) := by
  intro c
  have hc : c.WellKept := built_wellKept edits
  refine ⟨?_, ?_, ?_⟩
  · intro k j hj
    obtain ⟨r, hr⟩ := exists_record (hc.entered hj)
    exact ⟨r, hc.answerRepository hr, (hc.record hr).1⟩
  · intro k page a ha r hr
    rw [hc.page_of_answer ha.symm] at hr
    obtain ⟨j, -, hj⟩ := List.mem_filterMap.mp hr
    exact hc.answerRepository (hc.record_slug hj)
  · intro k own hown
    have hown := hc.record_of_answer hown.symm
    have hentered (page : UInt32) : ∀ j ∈ c.pageOf k page, c.repos.contains j = true := fun j hj =>
      hc.entered (List.mem_of_mem_drop (List.mem_of_mem_take hj))
    -- A page with no records is one without forks, for none is without its record.
    have hnil (page : UInt32) :
        (c.pageOf k page).filterMap c.record? = [] ↔ c.pageOf k page = [] := by
      rw [← List.length_eq_zero_iff, hc.length_records (hentered page), List.length_eq_zero_iff]
    refine ⟨fun page => (c.pageOf k page).filterMap c.record?, fun page => ?_, rfl, ?_, ?_⟩
    · exact ⟨_, hc.answerPage (contains_of_record hown) page⟩
    · simp only [hnil]
      exact c.exists_pageOf_eq_nil_iff k
    · intro last hlast hempty
      rw [hnil] at hempty
      dsimp only
      rw [← List.filterMap_flatMap, flatMap_pageOf_of_nil hlast hempty, ← forkList_built]
      refine ⟨hc.forall₂_records fun j hj => hc.entered hj, fun page hpage => ?_, ?_⟩
      · rw [pageOf_eq_nil_iff] at hempty
        rw [hnil, pageOf_eq_nil_iff]
        have hle : max last.toNat 1 - 1 ≤ max page.toNat 1 - 1 := by
          have := UInt32.le_iff_toNat_le.mp hpage
          omega
        exact Nat.le_trans hempty (Nat.mul_le_mul_right _ hle)
      · rw [hc.length_records fun j hj => hc.entered hj, (hc.record hown).2, forkCount,
          get?_forkCounts_built]

/-- A repository that is entered anew between its forks, of which one is itself and two are the
same. -/
def reentered : List Edit :=
  [.fork ⟨"a", "r"⟩ ⟨"b", "r"⟩, .pageSize 2, .repo ⟨"a", "r"⟩ 5, .fork ⟨"a", "r"⟩ ⟨"a", "r"⟩,
    .fork ⟨"a", "r"⟩ ⟨"b", "r"⟩, .forkCount ⟨"b", "r"⟩ 7]

theorem views_agree_reentered :
    ∃ own whole, (built reentered).answerRepository ⟨"a", "r"⟩ = .ok own ∧
      own.value.stars = 5 ∧ own.value.forks = 3 ∧
      List.Forall₂
        (fun j r => (built reentered).answerRepository j = .ok ⟨r, false⟩ ∧ r.slug.same j = true)
        [⟨"b", "r"⟩, ⟨"a", "r"⟩, ⟨"b", "r"⟩] whole := by
  obtain ⟨own, hown, hstars⟩ : ∃ own, (built reentered).answerRepository ⟨"a", "r"⟩ = .ok own ∧
      own.value.stars = 5 :=
    ⟨⟨{ Repository.sample ⟨"a", "r"⟩ 5 with forks := 3 }, false⟩, by decide +kernel, rfl⟩
  have hlast : (built reentered).answerPage ⟨"a", "r"⟩ 3 = .ok ⟨[], false⟩ := by decide +kernel
  have hentered : reentered.filterMap (Edit.forkOf? ⟨"a", "r"⟩) =
      [⟨"b", "r"⟩, ⟨"a", "r"⟩, ⟨"b", "r"⟩] := by
    decide +kernel
  have hcounts : reentered.reverse.findSome? (Edit.countOf? ⟨"a", "r"⟩) = none := by
    decide +kernel
  obtain ⟨-, -, hviews⟩ := views_agree reentered
  obtain ⟨pages, hpages, -, -, hwhole⟩ := hviews ⟨"a", "r"⟩ own hown
  have hempty : pages 3 = [] := by
    obtain ⟨spent, hpage⟩ := hpages 3
    exact congrArg Answer.value (Except.ok.inj (hpage.symm.trans hlast))
  obtain ⟨hforks, -, hcount⟩ := hwhole 3 (by decide) hempty
  rw [hentered] at hforks
  rw [hcounts, ← hforks.length_eq] at hcount
  exact ⟨own, _, hown, hstars, hcount, hforks⟩

end ForkCensus.Catalog
