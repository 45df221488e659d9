import ForkCensus.Proofs.Discovery.Course

/-
# One failure ends everything

Whatever question a service leaves unanswered, the discovery that asked
it ends there, with that failure.  So the failures in a transcript are
none but the one that the discovery ended with
(`Survey.drain_errors`): no reply that failed is passed over, and none is
made up.
-/

namespace ForkCensus

namespace Exchange

/-- The failure that a question met with. -/
def error? : Exchange → Option ApiError
  | quota (.error e) _ => some e
  | repository _ (.error e) => some e
  | forkPage _ _ (.error e) => some e
  | _ => none

/-- The failures in a transcript. -/
def errors (log : List Exchange) : List ApiError :=
  log.filterMap error?

@[simp] theorem errors_nil : errors [] = [] := rfl

@[simp] theorem errors_append (log log' : List Exchange) :
    errors (log ++ log') = errors log ++ errors log' :=
  List.filterMap_append

end Exchange

open Exchange

/-- The failure that a pull ends with. -/
def Pull.error? : Pull → Option ApiError
  | .failed e => some e
  | _ => none

/-- The failure that a step ends with. -/
def Move.error? : Move → Option ApiError
  | .failed e => some e
  | _ => none

/-- The failure that a survey ends with. -/
def Ending.error? : Ending → Option ApiError
  | .broken e => some e
  | .complete => none

/-! ## Pulls and steps -/

theorem Gate.Passed.errors {g : List Exchange} (h : Gate.Passed g) : errors g = [] := by
  cases h <;> rfl

theorem Listing.PageGate.errors {spent : Bool} {g : List Exchange} (h : PageGate spent g) :
    errors g = [] := by
  cases spent with
  | false => rw [show g = [] from h]; rfl
  | true => exact Gate.Passed.errors h

theorem Listing.Pulled.errors {l l' : Listing} {p : Pull} {g : List Exchange}
    (h : l.Pulled p l' g) : errors g = p.error?.toList := by
  cases h with
  | buffered => rfl
  | idle => rfl
  | rootUngated => rfl
  | rootFailed _ _ hg => rw [errors_append, hg.errors]; rfl
  | root _ _ hg => rw [errors_append, hg.errors]; rfl
  | pageUngated => rfl
  | pageFailed _ _ hg => rw [errors_append, hg.errors]; rfl
  | lastPage _ _ hg => rw [errors_append, hg.errors]; rfl
  | page _ _ hg => rw [errors_append, hg.errors]; rfl

theorem Crawl.Stepped.errors {c c' : Crawl} {m : Move} {g : List Exchange}
    (h : c.Stepped m c' g) : errors g = m.error?.toList := by
  cases h with
  | finished => rfl
  | skipped => rfl
  | begun => rfl
  | failed _ hp => exact hp.errors
  | ended _ hp => exact hp.errors
  | repeated _ hp => exact hp.errors
  | found _ hp => exact hp.errors

theorem Survey.Stepped.errors {v v' : Survey} {m : Move} {g : List Exchange}
    (h : v.Stepped m v' g) : errors g = m.error?.toList := by
  cases h with
  | @direct l l' p g hp =>
      rw [hp.errors]
      cases p <;> rfl
  | recursive hst => exact hst.errors

/-! ## Whole surveys -/

/-- **A survey ends with the first failure it meets**, and there is none in its transcript
besides. -/
theorem Survey.drain_errors {σ : Type} (F : Forge σ) :
    ∀ (budget : Nat) (v : Survey) (log : List Exchange) (s : σ) {records : List Repository}
      {ending : Option Ending} {v' : Survey} {log' : List Exchange} {t : σ},
      v.drain F.watched budget (log, s) = (records, ending, v', log', t) →
        errors log' = errors log ++ (ending.bind Ending.error?).toList
  | 0, v, log, s, records, ending, v', log', t, h => by
      cases h
      simp
  | budget + 1, v, log, s, records, ending, v', log', t, h => by
      obtain ⟨m, w, g, u, hstep, hst⟩ := v.step_watched F log s
      have hg : errors (log ++ g) = errors log ++ m.error?.toList := by
        rw [errors_append, hst.errors]
      simp only [drain, hstep] at h
      cases m with
      | finished =>
          cases h
          exact hg
      | failed e =>
          cases h
          exact hg
      | passed =>
          have hrest := drain_errors F budget w (log ++ g) u h
          rw [hrest, hg]
          simp [Move.error?]
      | item r =>
          rcases hw : w.drain F.watched budget (log ++ g, u) with ⟨rs, ending', w', log'', u'⟩
          dsimp only at h
          rw [hw] at h
          cases h
          have hrest := drain_errors F budget w (log ++ g) u hw
          rw [hrest, hg]
          simp [Move.error?]

end ForkCensus
