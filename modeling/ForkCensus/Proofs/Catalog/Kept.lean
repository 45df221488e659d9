import ForkCensus.Forge.Catalog

/-
# Catalogs that are built step by step

An `Edit` is one of the steps in which a catalog is built, those that make
it fail apart; `Catalog.built` takes a number of them, from the empty
catalog.  In whatever order they come, the catalog is well kept
(`Catalog.built_wellKept`): every repository has its own slug on its
record, every fork in a list has a record, and no question fails.

The tables of a catalog are lists of entries.  `SlugMap.get?_update` is
all that is needed of them.
-/

namespace ForkCensus

/-! ## Tables -/

namespace SlugMap

variable {α : Type}

/-- A table does not tell the spellings of a slug apart. -/
theorem get?_congr (m : SlugMap α) {j k : Slug} (h : j.same k = true) : m.get? j = m.get? k := by
  simp only [get?, Slug.same_congr h]

theorem get?_cons (j : Slug) (a : α) (rest : List (Slug × α)) (k : Slug) :
    (⟨(j, a) :: rest⟩ : SlugMap α).get? k =
      if j.same k then some a else (⟨rest⟩ : SlugMap α).get? k := by
  unfold get?
  rw [List.find?_cons]
  cases j.same k <;> rfl

/-- What an update changes: the value under its slug. -/
theorem get?_update (k : Slug) (f : Option α → α) (entries : List (Slug × α)) (j : Slug) :
    (⟨update k f entries⟩ : SlugMap α).get? j =
      if k.same j then some (f ((⟨entries⟩ : SlugMap α).get? k))
      else (⟨entries⟩ : SlugMap α).get? j := by
  induction entries with
  | nil => exact get?_cons _ _ _ _
  | cons e rest ih =>
      obtain ⟨i, a⟩ := e
      cases hi : i.same k with
      | true =>
          have hij : i.same j = k.same j := by
            rw [Slug.same_comm i, Slug.same_comm k, Slug.same_congr hi]
          simp only [update, hi, if_true, get?_cons, hij]
          split <;> rfl
      | false =>
          simp only [update, hi, Bool.false_eq_true, if_false, get?_cons, ih]
          cases hij : i.same j with
          | false => rfl
          | true =>
              have hkj : k.same j = false := by
                refine Bool.eq_false_iff.mpr fun hkj => ?_
                rw [Slug.same_comm] at hkj
                rw [Slug.same_trans hij hkj] at hi
                cases hi
              rw [hkj]
              rfl

theorem get?_insert (m : SlugMap α) (k : Slug) (a : α) (j : Slug) :
    (m.insert k a).get? j = if k.same j then some a else m.get? j :=
  get?_update _ _ _ _

theorem get?_insertNew (m : SlugMap α) (k : Slug) (a : α) (j : Slug) :
    (m.insertNew k a).get? j = if k.same j then some ((m.get? k).getD a) else m.get? j :=
  get?_update _ _ _ _

theorem contains_iff {m : SlugMap α} {k : Slug} : m.contains k = true ↔ ∃ a, m.get? k = some a :=
  Option.isSome_iff_exists

theorem contains_congr (m : SlugMap α) {j k : Slug} (h : j.same k = true) :
    m.contains j = m.contains k := by
  rw [contains, contains, m.get?_congr h]

/-- An insertion loses nothing. -/
theorem contains_insert {m : SlugMap α} {k j : Slug} {a : α} (h : m.contains j = true) :
    (m.insert k a).contains j = true := by
  rw [contains, get?_insert]
  split
  · rfl
  · exact h

theorem contains_insertNew {m : SlugMap α} {k j : Slug} {a : α} :
    (m.insertNew k a).contains j = true ↔ k.same j = true ∨ m.contains j = true := by
  rw [contains, get?_insertNew]
  cases k.same j <;> simp [contains]

end SlugMap

/-! ## Edits -/

namespace Catalog

/-- A step in which a catalog is built. -/
inductive Edit where
  | repo (repo : Slug) (stars : UInt64)
  | fork (parent fork : Slug)
  | forkCount (repo : Slug) (count : UInt64)
  | pageSize (size : Nat)
  | spentPage (repo : Slug) (page : UInt32)
  | quota (q : Quota)

/-- The catalog after a step. -/
def edit (c : Catalog) : Edit → Catalog
  | .repo k stars => c.withRepo k stars
  | .fork parent fork => c.withFork parent fork
  | .forkCount k count => c.withForkCount k count
  | .pageSize size => c.withPageSize size
  | .spentPage k page => c.withSpentPage k page
  | .quota q => c.withQuota q

/-- The catalog that is built in these steps. -/
def built (edits : List Edit) : Catalog :=
  edits.foldl edit empty

/-- What every catalog without failures satisfies. -/
structure WellKept (c : Catalog) : Prop where
  named : ∀ {k r}, c.repos.get? k = some r → r.slug.same k = true
  entered : ∀ {k j}, j ∈ c.forkList k → c.repos.contains j = true
  faultless : c.faults = []

variable {c : Catalog}

theorem wellKept_empty : empty.WellKept where
  named := nofun
  entered := nofun
  faultless := rfl

theorem WellKept.withRepo (h : c.WellKept) (k : Slug) (stars : UInt64) :
    (c.withRepo k stars).WellKept where
  named {j r} hr := by
    rw [Catalog.withRepo, SlugMap.get?_insert] at hr
    split at hr
    · rename_i hkj
      cases hr
      exact hkj
    · exact h.named hr
  entered hj := SlugMap.contains_insert (h.entered hj)
  faultless := h.faultless

theorem WellKept.ensureRepo (h : c.WellKept) (k : Slug) : (c.ensureRepo k).WellKept where
  named {j r} hr := by
    rw [Catalog.ensureRepo, SlugMap.get?_insertNew] at hr
    split at hr
    · rename_i hkj
      cases hk : c.repos.get? k with
      | none =>
          rw [hk] at hr
          cases hr
          exact hkj
      | some old =>
          rw [hk] at hr
          cases hr
          exact Slug.same_trans (h.named hk) hkj
    · exact h.named hr
  entered hj := SlugMap.contains_insertNew.mpr (Or.inr (h.entered hj))
  faultless := h.faultless

theorem contains_ensureRepo {k j : Slug} :
    (c.ensureRepo k).repos.contains j = true ↔ k.same j = true ∨ c.repos.contains j = true :=
  SlugMap.contains_insertNew

/-- The list of forks of a repository after a fork was appended to a list. -/
theorem forkList_withFork (c : Catalog) (parent fork k : Slug) :
    (c.withFork parent fork).forkList k =
      if parent.same k then c.forkList parent ++ [fork] else c.forkList k := by
  rw [forkList, Catalog.withFork, SlugMap.get?_update]
  cases parent.same k <;> rfl

theorem WellKept.withFork (h : c.WellKept) (parent fork : Slug) :
    (c.withFork parent fork).WellKept where
  named := ((h.ensureRepo parent).ensureRepo fork).named
  entered {k j} hj := by
    have hcontains : c.repos.contains j = true →
        (c.withFork parent fork).repos.contains j = true := fun hin =>
      contains_ensureRepo.mpr (Or.inr (contains_ensureRepo.mpr (Or.inr hin)))
    rw [forkList_withFork] at hj
    split at hj
    · rcases List.mem_append.mp hj with hj | hj
      · exact hcontains (h.entered hj)
      · rw [List.mem_singleton.mp hj]
        exact contains_ensureRepo.mpr (Or.inl (Slug.same_refl _))
    · exact hcontains (h.entered hj)
  faultless := h.faultless

theorem WellKept.edit (h : c.WellKept) (e : Edit) : (c.edit e).WellKept := by
  cases e with
  | repo k stars => exact h.withRepo k stars
  | fork parent fork => exact h.withFork parent fork
  | forkCount k count => exact ⟨h.named, h.entered, h.faultless⟩
  | pageSize size => exact ⟨h.named, h.entered, h.faultless⟩
  | spentPage k page => exact ⟨h.named, h.entered, h.faultless⟩
  | quota q => exact ⟨h.named, h.entered, h.faultless⟩

/-- A catalog is well kept, however it was built. -/
theorem built_wellKept (edits : List Edit) : (built edits).WellKept := by
  have hfold : ∀ (edits : List Edit) (c : Catalog), c.WellKept →
      (edits.foldl Catalog.edit c).WellKept := by
    intro edits
    induction edits with
    | nil => exact fun c h => h
    | cons e edits ih => exact fun c h => ih _ (h.edit e)
  exact hfold edits empty wellKept_empty

end Catalog

end ForkCensus
