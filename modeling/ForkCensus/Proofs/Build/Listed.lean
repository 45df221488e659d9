import ForkCensus.Build
import ForkCensus.Proofs.Firsts

/-
# What a build lists

The surveys of a build hand out records one after the other
(`Build.discoveries`), and what comes of them is the first record of each
repository, `Repository.firsts` of all.  The tally carries this
(`Tally.Lists`): its set has the slugs of its records.
-/

namespace ForkCensus.Build

variable {σ : Type}

/-! ## The tally -/

/-- What was listed when these records were handed out. -/
structure Tally.Lists (tally : Tally) (handed : List Repository) : Prop where
  records_eq : tally.records = Repository.firsts handed
  listed_eq : tally.listed.members.reverse = tally.records.map Repository.slug

namespace Tally

variable {tally : Tally} {handed : List Repository}

theorem lists_empty : empty.Lists [] := ⟨rfl, rfl⟩

theorem Lists.contains_iff (h : tally.Lists handed) {k : Slug} :
    tally.listed.contains k = true ↔
      ∃ a ∈ Repository.firsts handed, a.slug.fold = k.fold := by
  rw [SlugSet.contains_iff]
  constructor
  · rintro ⟨m, hm, hfold⟩
    rw [← List.mem_reverse, h.listed_eq, h.records_eq] at hm
    obtain ⟨a, ha, rfl⟩ := List.mem_map.mp hm
    exact ⟨a, ha, hfold.symm⟩
  · rintro ⟨a, ha, hfold⟩
    refine ⟨a.slug, ?_, hfold.symm⟩
    rw [← List.mem_reverse, h.listed_eq, h.records_eq]
    exact List.mem_map_of_mem ha

theorem Lists.add (h : tally.Lists handed) (verbosity : Verbosity) (r : Repository) :
    (tally.add verbosity r).1.Lists (handed ++ [r]) := by
  unfold Tally.add SlugSet.insert
  cases hr : tally.listed.contains r.slug with
  | true =>
      obtain ⟨a, ha, hfold⟩ := h.contains_iff.mp hr
      exact ⟨by rw [Repository.firsts_concat_old ha hfold]; exact h.records_eq, h.listed_eq⟩
  | false =>
      have hfirsts : Repository.firsts (handed ++ [r]) = Repository.firsts handed ++ [r] := by
        refine Repository.firsts_concat_new fun a ha hfold => ?_
        rw [h.contains_iff.mpr ⟨a, ha, hfold⟩] at hr
        cases hr
      refine ⟨by rw [hfirsts, ← h.records_eq]; rfl, ?_⟩
      simp [h.listed_eq]

theorem Lists.addAll (verbosity : Verbosity) (records : List Repository) :
    ∀ {tally : Tally} {handed : List Repository}, tally.Lists handed →
      (tally.addAll verbosity records).1.Lists (handed ++ records) := by
  induction records with
  | nil =>
      intro tally handed h
      rw [List.append_nil]
      exact h
  | cons r records ih =>
      intro tally handed h
      have hrest := ih (h.add verbosity r)
      rwa [List.append_assoc] at hrest

theorem skipped_addAll (verbosity : Verbosity) (records : List Repository) :
    ∀ tally : Tally, (tally.addAll verbosity records).1.skipped = tally.skipped := by
  induction records with
  | nil => exact fun _ => rfl
  | cons r records ih =>
      intro tally
      have hadd : (tally.add verbosity r).1.skipped = tally.skipped := by
        unfold Tally.add
        split <;> rfl
      exact (ih _).trans hadd

end Tally

/-! ## The surveys -/

/-- Whether a source names no repository. -/
def isRefused (source : String) : Bool :=
  (Source.slug? source).toOption.isNone

variable (F : Forge σ) (budget : Nat)

/-- What the surveys of the sources hand out, one list for each survey that was begun. -/
def discoveries (recursive : Bool) : List String → σ → List (List Repository)
  | [], _ => []
  | source :: rest, s =>
    match Source.slug? source with
    | .error _ => discoveries recursive rest s
    | .ok root =>
      let (survey, s) := Survey.begin F root recursive s
      match survey.drain F budget s with
      | (records, some .complete, _, t) => records :: discoveries recursive rest t
      | (records, _) => [records]

/-- **What a build has listed when its surveys are complete**: the first record of each repository
that they handed out. -/
theorem gather_lists (recursive : Bool) (verbosity : Verbosity) (sources : List String) :
    ∀ {tally tally' : Tally} {handed : List Repository} (s : σ), tally.Lists handed →
      (gather F budget recursive verbosity sources tally s).outcome = some (.ok tally') →
      tally'.Lists (handed ++ (discoveries F budget recursive sources s).flatten) ∧
        tally'.skipped = tally.skipped + sources.countP isRefused := by
  induction sources with
  | nil =>
      intro tally tally' handed s h hok
      cases hok
      rw [discoveries, List.flatten_nil, List.append_nil]
      exact ⟨h, rfl⟩
  | cons source rest ih =>
      intro tally tally' handed s h hok
      rw [gather] at hok
      rw [discoveries, List.countP_cons, isRefused]
      cases hsource : Source.slug? source with
      | error e =>
          rw [hsource] at hok
          obtain ⟨hlists, hskipped⟩ := @ih { tally with skipped := tally.skipped + 1 } _ _ s
            ⟨h.records_eq, h.listed_eq⟩ hok
          refine ⟨hlists, ?_⟩
          rw [hskipped]
          simp only [Except.toOption, Option.isNone_none, if_true]
          omega
      | ok root =>
          rw [hsource] at hok
          rcases hdrain : (Survey.start root recursive).drain F budget
            (F.note (.discovering root recursive) s) with ⟨records, ending, left, t⟩
          simp only [Survey.begin, hdrain] at hok ⊢
          rcases ending with _ | ending
          · cases hok
          · cases ending with
            | broken e => cases hok
            | complete =>
                obtain ⟨hlists, hskipped⟩ := ih t (h.addAll verbosity records) hok
                rw [List.append_assoc] at hlists
                refine ⟨hlists, ?_⟩
                rw [hskipped, Tally.skipped_addAll]
                rfl

end ForkCensus.Build
