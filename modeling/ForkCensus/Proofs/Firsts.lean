import Mathlib.Data.List.Induction
import Mathlib.Data.List.Nodup
import ForkCensus.Repository

/-
# The first record of each repository

A discovery meets the same repository again and again.  What it hands out
is the list of the records it met without those whose slug was met
before, in whatever spelling: `Repository.firsts`.
-/

namespace ForkCensus.Repository

/-- The records without those whose slug came before, in order. -/
def firsts (records : List Repository) : List Repository :=
  records.foldl
    (fun kept r => if kept.any fun a => a.slug.same r.slug then kept else kept ++ [r]) []

@[simp] theorem firsts_nil : firsts [] = [] := rfl

theorem firsts_concat (records : List Repository) (r : Repository) :
    firsts (records ++ [r]) =
      if (firsts records).any fun a => a.slug.same r.slug then firsts records
      else firsts records ++ [r] := by
  simp [firsts, List.foldl_append]

theorem firsts_concat_old {records : List Repository} {r a : Repository}
    (ha : a ∈ firsts records) (h : a.slug.fold = r.slug.fold) :
    firsts (records ++ [r]) = firsts records := by
  rw [firsts_concat, if_pos]
  exact List.any_eq_true.mpr ⟨a, ha, Slug.same_iff.mpr h⟩

theorem firsts_concat_new {records : List Repository} {r : Repository}
    (h : ∀ a ∈ firsts records, a.slug.fold ≠ r.slug.fold) :
    firsts (records ++ [r]) = firsts records ++ [r] := by
  rw [firsts_concat, if_neg]
  intro hany
  obtain ⟨a, ha, hsame⟩ := List.any_eq_true.mp hany
  exact h a ha (Slug.same_iff.mp hsame)

theorem firsts_sublist (records : List Repository) : (firsts records).Sublist records := by
  induction records using List.reverseRecOn with
  | nil => exact List.Sublist.refl _
  | append_singleton records r ih =>
      rw [firsts_concat]
      split
      · exact ih.trans (List.sublist_append_left _ _)
      · exact ih.append (List.Sublist.refl _)

/-- No repository is lost. -/
theorem exists_firsts {records : List Repository} {r : Repository} (hr : r ∈ records) :
    ∃ a ∈ firsts records, a.slug.fold = r.slug.fold := by
  induction records using List.reverseRecOn with
  | nil => cases hr
  | append_singleton records r' ih =>
      by_cases hold : ∃ a ∈ firsts records, a.slug.fold = r'.slug.fold
      · obtain ⟨a, ha, hfold⟩ := hold
        rw [firsts_concat_old ha hfold]
        rcases List.mem_append.mp hr with hr | hr
        · exact ih hr
        · exact ⟨a, ha, by rw [hfold, List.mem_singleton.mp hr]⟩
      · rw [firsts_concat_new (fun a ha hfold => hold ⟨a, ha, hfold⟩)]
        rcases List.mem_append.mp hr with hr | hr
        · obtain ⟨a, ha, hfold⟩ := ih hr
          exact ⟨a, List.mem_append_left _ ha, hfold⟩
        · exact ⟨r, List.mem_append_right _ hr, rfl⟩

/-- No repository is kept twice. -/
theorem firsts_nodup (records : List Repository) :
    ((firsts records).map fun r => r.slug.fold).Nodup := by
  induction records using List.reverseRecOn with
  | nil => exact List.nodup_nil
  | append_singleton records r ih =>
      rw [firsts_concat]
      split
      · exact ih
      · rename_i hnew
        rw [List.map_append, List.nodup_append]
        refine ⟨ih, List.pairwise_singleton _ _, fun x hx y hy hxy => hnew ?_⟩
        obtain ⟨a, ha, rfl⟩ := List.mem_map.mp hx
        rw [List.map_singleton, List.mem_singleton] at hy
        exact List.any_eq_true.mpr ⟨a, ha, Slug.same_iff.mpr (hxy.trans hy)⟩

/-- Of lists with the same records, one for each repository, the same is kept. -/
theorem firsts_perm {records records' : List Repository} (hmem : ∀ r, r ∈ records ↔ r ∈ records')
    (hone : ∀ a ∈ records, ∀ b ∈ records, a.slug.fold = b.slug.fold → a = b) :
    (firsts records).Perm (firsts records') := by
  have hkeep : ∀ {l l' : List Repository}, (∀ r, r ∈ l ↔ r ∈ l') →
      (∀ a ∈ l, ∀ b ∈ l, a.slug.fold = b.slug.fold → a = b) → ∀ r ∈ firsts l, r ∈ firsts l' := by
    intro l l' hmem hone r hr
    have hin : r ∈ l := (firsts_sublist l).subset hr
    obtain ⟨a, ha, hfold⟩ := exists_firsts ((hmem r).mp hin)
    have hain : a ∈ l := (hmem a).mpr ((firsts_sublist l').subset ha)
    rwa [hone a hain r hin hfold] at ha
  have hnodup (l : List Repository) : (firsts l).Nodup := List.Nodup.of_map _ (firsts_nodup l)
  refine (List.perm_ext_iff_of_nodup (hnodup _) (hnodup _)).mpr fun r =>
    ⟨hkeep hmem hone r, hkeep (fun r => (hmem r).symm) ?_ r⟩
  intro a ha b hb
  exact hone a ((hmem a).mpr ha) b ((hmem b).mpr hb)

end ForkCensus.Repository
