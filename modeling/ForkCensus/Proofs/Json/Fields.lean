import Mathlib.Data.List.Perm.Basic
import ForkCensus.Json.Basic

/-
# Fields in any order

Whoever writes an object is free in the order of its members, and may add
others.  `Json.HasFields` says that certain fields are there, once each,
and `HasFields.record?` that they are found, whatever stands before,
between and after them.
-/

namespace ForkCensus.Json

/-- An object with just these fields, in any order among other members with other names. -/
def HasFields (fields : List (String × Json)) (v : Json) : Prop :=
  ∃ members others, v = .object members ∧
    members.Perm ((fields.map fun f => (some f.1, f.2)) ++ others) ∧
    ∀ m ∈ others, ∃ name, m.1 = some name ∧ name ∉ fields.map Prod.fst

theorem hasFields_object (fields : List (String × Json)) :
    HasFields fields (.object (fields.map fun f => (some f.1, f.2))) :=
  ⟨_, [], rfl, by rw [List.append_nil], nofun⟩

/-- Of fields with different names, each is the only one of its name. -/
theorem filter_name {name : String} {v : Json} {fields : List (String × Json)}
    (hnodup : (fields.map Prod.fst).Nodup) (hf : (name, v) ∈ fields) :
    ((fields.map fun f => (some f.1, f.2)).filter fun m => m.1 == some name) =
      [(some name, v)] := by
  induction fields with
  | nil => cases hf
  | cons f fields ih =>
      obtain ⟨hnew, hnodup⟩ := List.nodup_cons.mp hnodup
      rcases List.mem_cons.mp hf with rfl | hf
      · have hrest : ((fields.map fun f => (some f.1, f.2)).filter
            fun m => m.1 == some name) = [] := by
          rw [List.filter_eq_nil_iff]
          intro m hm heq
          obtain ⟨f, hf, rfl⟩ := List.mem_map.mp hm
          rw [beq_iff_eq, Option.some.injEq] at heq
          exact hnew (List.mem_map.mpr ⟨f, hf, heq⟩)
        rw [List.map_cons, List.filter_cons, beq_self_eq_true, if_pos rfl, hrest]
      · have hne : ¬(some f.1 == some name) = true := by
          rw [beq_iff_eq, Option.some.injEq]
          intro heq
          exact hnew (List.mem_map.mpr ⟨_, hf, heq.symm⟩)
        rw [List.map_cons, List.filter_cons, if_neg hne, ih hnodup hf]

theorem only?_of_perm {name : String} {v : Json} {fields : List (String × Json)}
    {members others : List (Option String × Json)} (hnodup : (fields.map Prod.fst).Nodup)
    (hperm : members.Perm ((fields.map fun f => (some f.1, f.2)) ++ others))
    (hothers : ∀ m ∈ others, ∃ name, m.1 = some name ∧ name ∉ fields.map Prod.fst)
    (hf : (name, v) ∈ fields) : only? name members = some v := by
  have hnone : (others.filter fun m => m.1 == some name) = [] := by
    rw [List.filter_eq_nil_iff]
    intro m hm heq
    obtain ⟨other, hother, hnew⟩ := hothers m hm
    rw [hother, beq_iff_eq, Option.some.injEq] at heq
    exact hnew (List.mem_map.mpr ⟨_, hf, heq.symm⟩)
  have hfilter := hperm.filter fun m => m.1 == some name
  rw [List.filter_append, filter_name hnodup hf, hnone, List.append_nil] at hfilter
  rw [only?, hfilter.eq_singleton]

/-- **The fields are found**, in the order in which they are asked for. -/
theorem HasFields.record? {fields : List (String × Json)} {v : Json} (h : HasFields fields v)
    (hnodup : (fields.map Prod.fst).Nodup) :
    v.record? (fields.map Prod.fst) = some (fields.map Prod.snd) := by
  obtain ⟨members, others, rfl, hperm, hothers⟩ := h
  have hnamed : (members.all fun m => m.1.isSome) = true := by
    rw [List.all_eq_true]
    intro m hm
    rcases List.mem_append.mp (hperm.mem_iff.mp hm) with hm | hm
    · obtain ⟨f, -, rfl⟩ := List.mem_map.mp hm
      rfl
    · obtain ⟨name, hname, -⟩ := hothers m hm
      rw [hname]
      rfl
  have hfound : ∀ f ∈ fields, only? f.1 members = some f.2 := fun f hf =>
    only?_of_perm hnodup hperm hothers hf
  have hall : ∀ some : List (String × Json), (∀ f ∈ some, only? f.1 members = .some f.2) →
      (some.map Prod.fst).mapM (fun name => only? name members) = .some (some.map Prod.snd) := by
    intro some
    induction some with
    | nil => exact fun _ => rfl
    | cons f some ih =>
        intro hsome
        obtain ⟨hf, hrest⟩ := List.forall_mem_cons.mp hsome
        rw [List.map_cons, List.mapM_cons, hf, ih hrest]
        rfl
  rw [Json.record?, if_pos hnamed]
  exact hall fields hfound

/-! ## Numbers -/

/-- A count as it is written. -/
def count (n : UInt64) : Json :=
  .number false n.toNat true

/-- A signed number as it is written. -/
def signed (n : Int64) : Json :=
  .number (n.toInt < 0) n.toInt.natAbs true

theorem uint64?_count (n : UInt64) : (count n).uint64? = some n := by
  have hsize : 0 ≤ (n.toNat : Int) ∧ (n.toNat : Int).toNat < UInt64.size :=
    ⟨Int.natCast_nonneg _, n.toNat_lt_size⟩
  rw [uint64?, count, integer?, Option.bind_some, if_pos hsize, Int.toNat_natCast,
    UInt64.ofNat_toNat]

theorem integer?_signed (n : Int64) : (signed n).integer? = some n.toInt := by
  by_cases hneg : n.toInt < 0
  · have hwhole : n.toInt.natAbs ≠ 0 := by omega
    have hvalue : -(n.toInt.natAbs : Int) = n.toInt := by omega
    rw [signed, decide_eq_true hneg, integer?, if_neg hwhole, hvalue]
  · have hvalue : (n.toInt.natAbs : Int) = n.toInt := by omega
    rw [signed, decide_eq_false hneg, integer?, hvalue]

theorem int64?_signed (n : Int64) : (signed n).int64? = some n := by
  have hrange : Int64.minValue.toInt ≤ n.toInt ∧ n.toInt ≤ Int64.maxValue.toInt :=
    ⟨n.minValue_le_toInt, n.toInt_le⟩
  rw [int64?, integer?_signed, Option.bind_some, if_pos hrange, Int64.ofInt_toInt]

end ForkCensus.Json
