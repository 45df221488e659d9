import ForkCensus.Proofs.Json.Fields

/-
# Which values are records

Reading takes a record in two forms: as an object that has the fields, in
any order and among others (`HasFields`), and as the array of their
values.  `record?_eq_some_iff` says that nothing else is one, so an object
in which a field is missing or there twice is none.

What makes the converse of `HasFields.record?` is that a member found by
its name can be taken out of the object, and the rest of the fields are
then found in what is left (`hasFields_of_only?`).
-/

namespace ForkCensus.Json

/-- Just these fields, as an object that may have more of them or as the array of their values. -/
def IsRecord (fields : List (String × Json)) (v : Json) : Prop :=
  v = .array (fields.map Prod.snd) ∨ HasFields fields v

/-! ## All of a list or none -/

theorem mapM_eq_some_iff {α β : Type} {f : α → Option β} {xs : List α} {ys : List β} :
    xs.mapM f = some ys ↔ List.Forall₂ (fun x y => f x = some y) xs ys := by
  induction xs generalizing ys with
  | nil =>
      rw [List.forall₂_nil_left_iff]
      exact ⟨fun h => (Option.some.inj h).symm, fun h => h ▸ rfl⟩
  | cons x xs ih =>
      rw [List.mapM_cons, List.forall₂_cons_left_iff]
      constructor
      · intro h
        obtain ⟨y, hy, h⟩ := Option.bind_eq_some_iff.mp h
        obtain ⟨rest, hrest, h⟩ := Option.bind_eq_some_iff.mp h
        cases h
        exact ⟨y, rest, hy, ih.mp hrest, rfl⟩
      · rintro ⟨y, rest, hy, hrest, rfl⟩
        rw [hy, ih.mpr hrest]
        rfl

theorem list?_eq_some_iff {α : Type} {item : Json → Option α} {v : Json} {found : List α} :
    v.list? item = some found ↔
      ∃ items, v = .array items ∧ List.Forall₂ (fun w a => item w = some a) items found := by
  constructor
  · intro h
    cases v with
    | array items => exact ⟨items, rfl, mapM_eq_some_iff.mp h⟩
    | _ => cases h
  · rintro ⟨items, rfl, hitems⟩
    exact mapM_eq_some_iff.mpr hitems

/-! ## Records -/

theorem only?_eq_some_iff {name : String} {members : List (Option String × Json)} {v : Json} :
    only? name members = some v ↔
      (members.filter fun m => m.1 == some name) = [(some name, v)] := by
  constructor
  · intro h
    rw [only?] at h
    split at h
    · rename_i m hfilter
      have hname : m.1 = some name := by
        have hmem : m ∈ members.filter fun m => m.1 == some name := by
          rw [hfilter]
          exact List.mem_singleton_self m
        exact beq_iff_eq.mp (List.mem_filter.mp hmem).2
      cases h
      rw [hfilter, ← hname]
    · cases h
  · intro h
    rw [only?, h]

/-- A member of one name does not change what is found by another. -/
theorem only?_filter_ne {name other : String} (hne : name ≠ other)
    (members : List (Option String × Json)) :
    only? name (members.filter fun m => !(m.1 == some other)) = only? name members := by
  have hfilter : ((members.filter fun m => !(m.1 == some other)).filter
      fun m => m.1 == some name) = members.filter fun m => m.1 == some name := by
    rw [List.filter_filter]
    refine List.filter_congr fun m _ => ?_
    cases hm : m.1 == some name with
    | false => rfl
    | true =>
        rw [beq_iff_eq.mp hm, Bool.true_and, Bool.not_eq_true', beq_eq_false_iff_ne, ne_eq,
          Option.some.injEq]
        exact hne
  rw [only?, only?, hfilter]

/-- Members of which each field is the only one of its name are the fields and others. -/
theorem hasFields_of_only? {fields : List (String × Json)}
    (hnodup : (fields.map Prod.fst).Nodup) : ∀ {members : List (Option String × Json)},
    (∀ m ∈ members, m.1.isSome = true) → (∀ f ∈ fields, only? f.1 members = some f.2) →
    HasFields fields (.object members) := by
  induction fields with
  | nil =>
      intro members hnamed _
      refine ⟨members, members, rfl, List.Perm.refl _, fun m hm => ?_⟩
      obtain ⟨name, hname⟩ := Option.isSome_iff_exists.mp (hnamed m hm)
      exact ⟨name, hname, List.not_mem_nil⟩
  | cons f fields ih =>
      intro members hnamed hfound
      obtain ⟨hnew, hnodup⟩ := List.nodup_cons.mp hnodup
      obtain ⟨hf, hfound⟩ := List.forall_mem_cons.mp hfound
      have hrest : HasFields fields (.object (members.filter fun m => !(m.1 == some f.1))) := by
        refine ih hnodup (fun m hm => hnamed m (List.mem_filter.mp hm).1) fun g hg => ?_
        have hne : g.1 ≠ f.1 := fun h => hnew (List.mem_map.mpr ⟨g, hg, h⟩)
        rw [only?_filter_ne hne]
        exact hfound g hg
      obtain ⟨rest, others, heq, hperm, hothers⟩ := hrest
      cases heq
      refine ⟨members, others, rfl, ?_, fun m hm => ?_⟩
      · have hsplit := (List.filter_append_perm (fun m => m.1 == some f.1) members).symm
        rw [only?_eq_some_iff.mp hf] at hsplit
        exact hsplit.trans (hperm.cons _)
      · obtain ⟨name, hname, hother⟩ := hothers m hm
        refine ⟨name, hname, fun hmem => ?_⟩
        rcases List.mem_cons.mp hmem with rfl | hmem
        · have hleft := (List.mem_filter.mp (hperm.mem_iff.mpr (List.mem_append_right _ hm))).2
          rw [hname, beq_self_eq_true] at hleft
          cases hleft
        · exact hother hmem

/-- **Records are taken in their two forms, and in no other.** -/
theorem record?_eq_some_iff {fields : List (String × Json)} {v : Json}
    (hnodup : (fields.map Prod.fst).Nodup) :
    v.record? (fields.map Prod.fst) = some (fields.map Prod.snd) ↔ IsRecord fields v := by
  constructor
  · intro h
    cases v with
    | array items =>
        rw [record?] at h
        split at h
        · exact Or.inl (congrArg array (Option.some.inj h))
        · cases h
    | object members =>
        rw [record?] at h
        split at h
        · rename_i hnamed
          refine Or.inr (hasFields_of_only? hnodup (List.all_eq_true.mp hnamed) ?_)
          rw [mapM_eq_some_iff, List.forall₂_map_left_iff, List.forall₂_map_right_iff,
            List.forall₂_same] at h
          exact h
        · cases h
    | _ => cases h
  · rintro (rfl | h)
    · rw [record?, List.length_map, List.length_map, if_pos rfl]
    · exact h.record? hnodup

/-! ## Texts and numbers -/

theorem text?_eq_some_iff {v : Json} {s : String} :
    v.text? = some s ↔ v = .string (some s) := by
  constructor
  · intro h
    cases v with
    | string text => exact congrArg string h
    | _ => cases h
  · rintro rfl
    rfl

/-- **A count is written in one way**: without a sign, a point or an exponent. -/
theorem uint64?_eq_some_iff {v : Json} {n : UInt64} : v.uint64? = some n ↔ v = count n := by
  constructor
  · intro h
    obtain ⟨i, hi, h⟩ := Option.bind_eq_some_iff.mp h
    split at h
    · rename_i hsize
      cases h
      unfold integer? at hi
      split at hi
      · cases hi
        rw [count, UInt64.toNat_ofNat_of_lt' hsize.2]
        rfl
      · split at hi
        · cases hi
        · cases hi
          omega
      · cases hi
    · cases h
  · rintro rfl
    exact uint64?_count n

end ForkCensus.Json
