import ForkCensus.Proofs.Catalog.Found
import ForkCensus.Proofs.Forge.Respelling

/-
# Catalogs with failures

A catalog may be told to leave questions unanswered.  In whatever order
that is done and the rest is built, without its failures the catalog is
well kept (`Catalog.assembled_mended`).

A catalog that leaves questions unanswered answers all others as it would
without its failures, and in every spelling alike
(`Catalog.still_echoedBy`).  So a survey of it ends
(`Catalog.drain_faulty_ends`), and if it does so without a failure it has
found what it is to find (`Catalog.reports_of_brings`).
-/

namespace ForkCensus.Catalog

/-- A step in which a catalog is built, those that make it fail among them. -/
inductive Step where
  | edit (e : Edit)
  | fault (f : Fault)

/-- The catalog after a step. -/
def step (c : Catalog) : Step → Catalog
  | .edit e => c.edit e
  | .fault f => c.withFault f

/-- The catalog that is built in these steps. -/
def assembled (steps : List Step) : Catalog :=
  steps.foldl step empty

/-- The catalog without its failures. -/
def mended (c : Catalog) : Catalog :=
  { c with faults := [] }

variable {c : Catalog}

theorem mended_edit (c : Catalog) (e : Edit) : (c.edit e).mended = c.mended.edit e := by
  cases e <;> rfl

/-- However a catalog is built, without its failures it is well kept. -/
theorem assembled_mended (steps : List Step) : (assembled steps).mended.WellKept := by
  have hfold : ∀ (steps : List Step) (c : Catalog), c.mended.WellKept →
      (steps.foldl step c).mended.WellKept := by
    intro steps
    induction steps with
    | nil => exact fun c h => h
    | cons s steps ih =>
        intro c h
        refine ih _ ?_
        cases s with
        | edit e =>
            rw [step, mended_edit]
            exact h.edit e
        | fault f => exact h
  exact hfold steps empty wellKept_empty

/-! ## Answers in spite of failures -/

variable {faults : List Fault} (hsub : faults.Sublist c.faults)

include hsub

theorem answerQuota_of_sublist {q : Quota} (h : c.answerQuota = .ok q) :
    ({ c with faults } : Catalog).answerQuota = .ok q := by
  unfold answerQuota at h ⊢
  split at h
  · cases h
  · rename_i hfine
    rw [hsub.findSome?_eq_none hfine]
    exact h

theorem answerRepository_of_sublist {j k : Slug} (hjk : j.same k = true) {a : Answer Repository}
    (h : c.answerRepository j = .ok a) :
    ({ c with faults } : Catalog).answerRepository k = .ok a := by
  have hrecord : ({ c with faults } : Catalog).record? k = c.record? j := (record?_congr hjk).symm
  unfold answerRepository at h ⊢
  rw [hrecord]
  simp only [← Slug.same_congr hjk]
  split at h
  · cases h
  · rename_i hfine
    rw [hsub.findSome?_eq_none hfine]
    cases hr : c.record? j with
    | none =>
        rw [hr] at h
        cases h
    | some r =>
        rw [hr] at h
        exact h

theorem answerPage_of_sublist {j k : Slug} (hjk : j.same k = true) {page : UInt32}
    {a : Answer (List Repository)} (h : c.answerPage j page = .ok a) :
    ({ c with faults } : Catalog).answerPage k page = .ok a := by
  have hpage : ({ c with faults } : Catalog).pageOf k page = c.pageOf j page := by
    rw [pageOf, pageOf, forkList_congr hjk]
    rfl
  unfold answerPage at h ⊢
  rw [hpage]
  simp only [← Slug.same_congr hjk, ← c.repos.contains_congr hjk]
  split at h
  · cases h
  · rename_i hfine
    rw [hsub.findSome?_eq_none hfine]
    split at h
    · rename_i hj
      rw [if_pos hj]
      exact h
    · cases h

/-- **A catalog with fewer failures answers what it answers with more**, in every spelling. -/
theorem still_echoedBy (clock clock' : Nat → Int64) :
    (c.still clock).EchoedBy (({ c with faults } : Catalog).still clock') where
  awaitQuota s t h := by
    rw [Gate.awaitQuota_fst] at h ⊢
    cases hq : c.answerQuota with
    | error e =>
        rw [show ((c.still clock).quota s).1 = .error e from hq] at h
        cases h
    | ok q =>
        rw [show ((({ c with faults } : Catalog).still clock').quota t).1 = .ok q from
          answerQuota_of_sublist hsub hq]
        rfl
  repository _ _ hjk h := answerRepository_of_sublist hsub hjk h
  forkPage _ _ _ hjk h := answerPage_of_sublist hsub hjk h

omit hsub

/-- A catalog does not tell spellings apart, nor is it a matter of time what it answers. -/
theorem still_echoedBy_self (c : Catalog) (clock clock' : Nat → Int64) :
    (c.still clock).EchoedBy (c.still clock') :=
  still_echoedBy (List.Sublist.refl c.faults) clock clock'

/-- Without its failures a catalog answers what it answers with them. -/
theorem still_echoedBy_mended (c : Catalog) (clock clock' : Nat → Int64) :
    (c.still clock).EchoedBy (c.mended.still clock') :=
  still_echoedBy (List.nil_sublist c.faults) clock clock'

/-! ## Surveys in spite of failures -/

section

variable {root : Slug} {recursive : Bool} {budget : Nat} (hc : c.mended.WellKept)
  (hpages : ∀ k, c.pageCount k < 2 ^ 32 - 1) (hbudget : c.budget (.start root recursive) ≤ budget)
  {clock : Nat → Int64}

include hc hpages hbudget

/-- A survey of a catalog with failures ends. -/
theorem drain_faulty_ends (calls : List Call) :
    ((Survey.start root recursive).drain (c.still clock) budget calls).2.1 ≠ none := by
  rcases (c.still_echoedBy_mended clock clock).drain budget calls calls
    (Survey.alike_start (Slug.same_refl root) recursive) with ⟨e, he⟩ | ⟨-, hending⟩
  · rw [he]
    nofun
  · rw [← hending]
    exact drain_ends hc hpages root hbudget clock calls

/-- **A survey of a catalog with failures** that comes to its end has found what it is to find. -/
theorem reports_of_brings {records : List Repository}
    (h : (c.still clock).Brings budget recursive root records) :
    c.mended.Reports (c.mended.Found root recursive) records := by
  -- Without the failures it would bring the same.
  obtain ⟨rest, hdrain⟩ :=
    (c.still_echoedBy_mended clock clock).brings (Slug.same_refl root) h []
  cases hroot : c.mended.repos.contains root with
  | true =>
      obtain ⟨found, rest', hdrain', hfound⟩ := drain_found hc hpages hroot hbudget clock []
      rw [hdrain] at hdrain'
      rwa [show records = found from congrArg Prod.fst hdrain']
  | false =>
      have hleast : 2 ≤ c.budget (.start root recursive) := by
        rw [Catalog.budget]
        omega
      obtain ⟨rest', hdrain'⟩ :=
        drain_unknown hc hroot recursive (Nat.le_trans hleast hbudget) clock []
      rw [hdrain] at hdrain'
      cases hdrain'

end

end ForkCensus.Catalog
