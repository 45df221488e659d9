import ForkCensus.Proofs.Build.Listed
import ForkCensus.Proofs.Forge.Simulation

/-
# Builds that cannot be told apart

Services that match everywhere and in every failure are the same to a
build: it prints the same lines, ends the same way and leaves the same
files (`Forge.Match.run`).
-/

namespace ForkCensus.Forge.Match

variable {σ τ : Type} {R : σ → τ → Prop} {F : Forge σ} {G : Forge τ}

/-- One survey after the other hands out the same. -/
theorem discoveries (M : Match (fun _ => True) Eq R F G) (budget : Nat) (recursive : Bool)
    (sources : List String) : ∀ {s : σ} {t : τ}, R s t →
      Build.discoveries F budget recursive sources s =
        Build.discoveries G budget recursive sources t := by
  induction sources with
  | nil => exact fun _ => rfl
  | cons source rest ih =>
      intro s t h
      rw [Build.discoveries, Build.discoveries]
      cases Source.slug? source with
      | error e => exact ih h
      | ok root =>
          obtain ⟨records, p, q, hF, hG, h'⟩ := (M.drain_eq budget (.start root recursive)
            (M.note (.discovering root recursive) h)).split
          obtain ⟨ending, p', q', rfl, rfl, h''⟩ := h'.split
          obtain ⟨left, s', t', rfl, rfl, hst⟩ := h''.split
          simp only [Survey.begin, hF, hG]
          rcases ending with _ | _ | e
          · rfl
          · exact congrArg (records :: ·) (ih hst)
          · rfl

/-- Gathered on two services: the same lines and outcome, with related states behind them. -/
def Gathered (R : σ → τ → Prop) (g : Build.Gathered σ) (g' : Build.Gathered τ) : Prop :=
  g.lines = g'.lines ∧ g.outcome = g'.outcome ∧ R g.state g'.state

theorem Gathered.after {g : Build.Gathered σ} {g' : Build.Gathered τ} (h : Gathered R g g')
    (lines : List Line) : Gathered R (g.after lines) (g'.after lines) :=
  ⟨congrArg (lines ++ ·) h.1, h.2⟩

theorem gather (M : Match (fun _ => True) Eq R F G) (budget : Nat) (recursive : Bool)
    (verbosity : Verbosity) (sources : List String) :
    ∀ (tally : Build.Tally) {s : σ} {t : τ}, R s t →
      Gathered R (Build.gather F budget recursive verbosity sources tally s)
        (Build.gather G budget recursive verbosity sources tally t) := by
  induction sources with
  | nil => exact fun _ _ _ h => ⟨rfl, rfl, h⟩
  | cons source rest ih =>
      intro tally s t h
      rw [Build.gather, Build.gather]
      cases Source.slug? source with
      | error e => exact (ih _ h).after _
      | ok root =>
          obtain ⟨records, p, q, hF, hG, h'⟩ := (M.drain_eq budget (.start root recursive)
            (M.note (.discovering root recursive) h)).split
          obtain ⟨ending, p', q', rfl, rfl, h''⟩ := h'.split
          obtain ⟨left, s', t', rfl, rfl, hst⟩ := h''.split
          simp only [Survey.begin, hF, hG]
          rcases ending with _ | _ | e
          · exact ⟨rfl, rfl, hst⟩
          · exact (ih _ hst).after _
          · exact ⟨rfl, rfl, hst⟩

/-- Built on two services: the same lines, outcome and files, with related states behind them. -/
def Built (R : σ → τ → Prop) (r : Build.Result σ) (r' : Build.Result τ) : Prop :=
  r.lines = r'.lines ∧ r.outcome = r'.outcome ∧ r.tree = r'.tree ∧ R r.state r'.state

theorem emit (M : Match (fun _ => True) Eq R F G) (plan : Plan) (tree : FileTree)
    (lines : List Line) (tally : Build.Tally) {s : σ} {t : τ} (h : R s t) :
    Built R (Build.emit F plan tree lines tally s) (Build.emit G plan tree lines tally t) := by
  unfold Build.emit
  dsimp only
  split
  · exact ⟨rfl, rfl, rfl, h⟩
  · exact ⟨rfl, rfl, rfl, M.note _ h⟩

/-- **A build does not tell matching services apart.** -/
theorem run (M : Match (fun _ => True) Eq R F G) (budget : Nat) (plan : Plan) (tree : FileTree)
    {s : σ} {t : τ} (h : R s t) :
    Built R (Build.run F budget plan tree s) (Build.run G budget plan tree t) := by
  unfold Build.run
  rcases tree.makeFolders plan.folder with ⟨made, cause | _⟩
  · exact ⟨rfl, rfl, rfl, h⟩
  · obtain ⟨hlines, houtcome, hstate⟩ :=
      M.gather budget plan.recursive plan.verbosity plan.sources .empty h
    dsimp only
    rw [hlines, houtcome]
    split
    · exact ⟨rfl, rfl, rfl, hstate⟩
    · exact ⟨rfl, rfl, rfl, hstate⟩
    · exact M.emit plan made _ _ hstate

end ForkCensus.Forge.Match
