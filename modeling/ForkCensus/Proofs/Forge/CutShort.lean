import ForkCensus.Proofs.Forge.Simulation

/-
# Services that fail earlier

A service that answers as another does until it fails takes a survey
along the same way, up to the failure.  There the survey stops, while on
the other service it may go on.

`Forge.CutShort` says so for one question: the two answer alike and leave
states behind that `R` relates, or the first fails with some `e` and
leaves behind what `Q e` relates.  This file lifts that through the gate,
one pull, one step and whole surveys; at every level the result is one of
these two (`Cut`).  In the second case nothing more is asked on the first
side, so what is left is to follow the second, which has to keep to `Q e`
whatever it is asked (`Forge.Keeps`).
-/

namespace ForkCensus

/-! ## One service by itself -/

/-- Whatever the service is asked, its states stay in `I`. -/
structure Forge.Keeps {σ : Type} (I : σ → Prop) (F : Forge σ) : Prop where
  quota : ∀ {s}, I s → I (F.quota s).2
  pause : ∀ {s} (seconds : UInt64), I s → I (F.pause seconds s)
  note : ∀ {s} (e : Event), I s → I (F.note e s)
  repository : ∀ {s} (k : Slug), I s → I (F.repository k s).2
  forkPage : ∀ {s} (k : Slug) (page : UInt32), I s → I (F.forkPage k page s).2

theorem Forge.Keeps.alike {σ : Type} {I : σ → Prop} {F : Forge σ} (K : Keeps I F) :
    Alike (fun s t => s = t ∧ I s) F F where
  quota h := ⟨by rw [h.1], by rw [h.1], K.quota h.2⟩
  pause seconds h := ⟨by rw [h.1], K.pause seconds h.2⟩
  now h := by rw [h.1]
  note e h := ⟨by rw [h.1], K.note e h.2⟩
  repository k h := ⟨by rw [h.1], by rw [h.1], K.repository k h.2⟩
  forkPage k page h := ⟨by rw [h.1], by rw [h.1], K.forkPage k page h.2⟩

theorem Forge.Keeps.drain {σ : Type} {I : σ → Prop} {F : Forge σ} (K : Keeps I F) (budget : Nat)
    (v : Survey) {s : σ} (h : I s) : I (v.drain F budget s).2.2.2 :=
  (K.alike.drain budget v ⟨rfl, h⟩).2.2.2.2

/-! ## The same, or a failure on the first side -/

/-- The same result on both sides, with what is left related by `same`; or a failure on the first
side, with what is left related by `cut`. -/
def Cut {α β γ : Type} (failed : ApiError → α) (same : β → γ → Prop) (cut : ApiError → β → γ → Prop)
    (p : α × β) (q : α × γ) : Prop :=
  Agree same p q ∨ ∃ e, p.1 = failed e ∧ cut e p.2 q.2

theorem Cut.split {α β γ : Type} {failed : ApiError → α} {same : β → γ → Prop}
    {cut : ApiError → β → γ → Prop} {p : α × β} {q : α × γ} (h : Cut failed same cut p q) :
    (∃ a x y, p = (a, x) ∧ q = (a, y) ∧ same x y) ∨
      ∃ e x a y, p = (failed e, x) ∧ q = (a, y) ∧ cut e x y := by
  rcases h with h | ⟨e, he, hcut⟩
  · exact Or.inl h.split
  · exact Or.inr ⟨e, p.2, q.1, q.2, Prod.ext he rfl, rfl, hcut⟩

/-- `F` answers as `G` does until it fails. -/
structure Forge.CutShort {σ τ : Type} (R : σ → τ → Prop) (Q : ApiError → σ → τ → Prop)
    (F : Forge σ) (G : Forge τ) : Prop where
  quota : ∀ {s t}, R s t → Cut .error R Q (F.quota s) (G.quota t)
  pause : ∀ {s t} (seconds : UInt64), R s t → R (F.pause seconds s) (G.pause seconds t)
  now : ∀ {s t}, R s t → F.now s = G.now t
  note : ∀ {s t} (e : Event), R s t → R (F.note e s) (G.note e t)
  repository : ∀ {s t} (k : Slug), R s t → Cut .error R Q (F.repository k s) (G.repository k t)
  forkPage : ∀ {s t} (k : Slug) (page : UInt32), R s t →
    Cut .error R Q (F.forkPage k page s) (G.forkPage k page t)
  /-- Once `F` has failed, whatever `G` is asked. -/
  after : ∀ e s, G.Keeps (Q e s)

namespace Forge.CutShort

variable {σ τ : Type} {R : σ → τ → Prop} {Q : ApiError → σ → τ → Prop} {F : Forge σ} {G : Forge τ}
  {s : σ} {t : τ}

theorem awaitQuota (C : CutShort R Q F G) (h : R s t) :
    Cut .error R Q (F.awaitQuota s) (G.awaitQuota t) := by
  obtain ⟨reply, s', t', hF, hG, h'⟩ | ⟨e, s', reply, t', hF, hG, hcut⟩ := (C.quota h).split
  · simp only [Gate.awaitQuota, hF, hG]
    cases reply with
    | error e => exact Or.inl ⟨rfl, h'⟩
    | ok q =>
        simp only [C.now h']
        cases q.wait (G.now t') with
        | none => exact Or.inl ⟨rfl, C.note _ h'⟩
        | some seconds => exact Or.inl ⟨rfl, C.pause _ (C.note _ h')⟩
  · simp only [Gate.awaitQuota, hF, hG]
    refine Or.inr ⟨e, rfl, ?_⟩
    cases reply with
    | error e' => exact hcut
    | ok q =>
        dsimp only
        cases q.wait (G.now t') with
        | none => exact (C.after e s').note _ hcut
        | some seconds => exact (C.after e s').pause _ ((C.after e s').note _ hcut)

theorem awaitPage (C : CutShort R Q F G) (l : Listing) (h : R s t) :
    Cut .error R Q (l.awaitPage F s) (l.awaitPage G t) := by
  unfold Listing.awaitPage
  split
  · exact C.awaitQuota h
  · exact Or.inl ⟨rfl, h⟩

/-! ## One pull of a listing -/

/-- How a pull goes on either side. -/
def Pulled (R : σ → τ → Prop) (Q : ApiError → σ → τ → Prop) :
    Pull × Listing × σ → Pull × Listing × τ → Prop :=
  Cut .failed (Agree R) fun e x y => Q e x.2 y.2

theorem pullRoot (C : CutShort R Q F G) (l : Listing) (h : R s t) :
    Pulled R Q (l.pullRoot F s) (l.pullRoot G t) := by
  unfold Listing.pullRoot
  obtain ⟨gate, s', t', hF, hG, h'⟩ | ⟨e, s', gate, t', hF, hG, hcut⟩ :=
    (C.awaitQuota (C.note (.fetchingRepository l.root) h)).split
  · simp only [hF, hG]
    cases gate with
    | error e => exact Or.inl ⟨rfl, rfl, h'⟩
    | ok _ =>
        obtain ⟨reply, s'', t'', hF', hG', h''⟩ | ⟨e, s'', reply, t'', hF', hG', hcut⟩ :=
          (C.repository l.root h').split
        · simp only [hF', hG']
          cases reply <;> exact Or.inl ⟨rfl, rfl, h''⟩
        · simp only [hF', hG']
          refine Or.inr ⟨e, rfl, ?_⟩
          cases reply <;> exact hcut
  · simp only [hF, hG]
    refine Or.inr ⟨e, rfl, ?_⟩
    cases gate with
    | error e' => exact hcut
    | ok _ =>
        have hcut' := (C.after e s').repository l.root hcut
        dsimp only
        rcases hG' : G.repository l.root t' with ⟨_ | answer, t''⟩ <;> rwa [hG'] at hcut'

theorem pullPage (C : CutShort R Q F G) (l : Listing) (h : R s t) :
    Pulled R Q (l.pullPage F s) (l.pullPage G t) := by
  unfold Listing.pullPage
  obtain ⟨gate, s', t', hF, hG, h'⟩ | ⟨e, s', gate, t', hF, hG, hcut⟩ := (C.awaitPage l h).split
  · simp only [hF, hG]
    cases gate with
    | error e => exact Or.inl ⟨rfl, rfl, h'⟩
    | ok _ =>
        obtain ⟨reply, s'', t'', hF', hG', h''⟩ | ⟨e, s'', reply, t'', hF', hG', hcut⟩ :=
          (C.forkPage l.root l.nextPage h').split
        · simp only [hF', hG']
          cases reply with
          | error e => exact Or.inl ⟨rfl, rfl, h''⟩
          | ok answer =>
              obtain ⟨records, spent⟩ := answer
              cases records <;> exact Or.inl ⟨rfl, rfl, C.note _ h''⟩
        · simp only [hF', hG']
          refine Or.inr ⟨e, rfl, ?_⟩
          cases reply with
          | error e' => exact hcut
          | ok answer =>
              obtain ⟨records, spent⟩ := answer
              cases records <;> exact (C.after e s'').note _ hcut
  · simp only [hF, hG]
    refine Or.inr ⟨e, rfl, ?_⟩
    cases gate with
    | error e' => exact hcut
    | ok _ =>
        have hcut' := (C.after e s').forkPage l.root l.nextPage hcut
        dsimp only
        rcases hG' : G.forkPage l.root l.nextPage t' with ⟨_ | ⟨records, spent⟩, t''⟩
        · rwa [hG'] at hcut'
        · rw [hG'] at hcut'
          cases records <;> exact (C.after e s').note _ hcut'

theorem pullListing (C : CutShort R Q F G) (l : Listing) (h : R s t) :
    Pulled R Q (l.pull F s) (l.pull G t) := by
  unfold Listing.pull
  cases l.buffer with
  | cons r rest => exact Or.inl ⟨rfl, rfl, h⟩
  | nil =>
      cases l.phase with
      | start => exact C.pullRoot l h
      | paging => exact C.pullPage l h
      | «over» => exact Or.inl ⟨rfl, rfl, h⟩

/-! ## One step of a survey -/

/-- How a step goes on either side. -/
def Stepped {α : Type} (R : σ → τ → Prop) (Q : ApiError → σ → τ → Prop) :
    Move × α × σ → Move × α × τ → Prop :=
  Cut .failed (Agree R) fun e x y => Q e x.2 y.2

theorem stepCrawl (C : CutShort R Q F G) (c : Crawl) (h : R s t) :
    Stepped R Q (c.step F s) (c.step G t) := by
  unfold Crawl.step
  cases c.current with
  | none =>
      -- Going on to the next listing asks nothing.
      show Stepped R Q (c.descend F s) (c.descend G t)
      unfold Crawl.descend
      cases c.stack with
      | nil => exact Or.inl ⟨rfl, rfl, h⟩
      | cons k stack =>
          dsimp only
          rcases c.listed.insert k with ⟨_ | _, listed⟩
          · exact Or.inl ⟨rfl, rfl, h⟩
          · exact Or.inl ⟨rfl, rfl, C.note _ h⟩
  | some l =>
      obtain ⟨p, x, y, hF, hG, hsame⟩ | ⟨e, x, p, y, hF, hG, hcut⟩ := (C.pullListing l h).split
      · obtain ⟨l', s', t', rfl, rfl, h'⟩ := hsame.split
        simp only [hF, hG]
        cases p <;> exact Or.inl ⟨rfl, rfl, h'⟩
      · simp only [hF, hG]
        refine Or.inr ⟨e, rfl, ?_⟩
        cases p <;> exact hcut

theorem step (C : CutShort R Q F G) (v : Survey) (h : R s t) :
    Stepped R Q (v.step F s) (v.step G t) := by
  cases v with
  | direct l =>
      unfold Survey.step
      obtain ⟨p, x, y, hF, hG, hsame⟩ | ⟨e, x, p, y, hF, hG, hcut⟩ := (C.pullListing l h).split
      · obtain ⟨l', s', t', rfl, rfl, h'⟩ := hsame.split
        simp only [hF, hG]
        cases p <;> exact Or.inl ⟨rfl, rfl, h'⟩
      · simp only [hF, hG]
        refine Or.inr ⟨e, rfl, ?_⟩
        cases p <;> exact hcut
  | recursive c =>
      unfold Survey.step
      obtain ⟨m, x, y, hF, hG, hsame⟩ | ⟨e, x, m, y, hF, hG, hcut⟩ := (C.stepCrawl c h).split
      · obtain ⟨c', s', t', rfl, rfl, h'⟩ := hsame.split
        simp only [hF, hG]
        exact Or.inl ⟨rfl, rfl, h'⟩
      · simp only [hF, hG]
        exact Or.inr ⟨e, rfl, hcut⟩

/-! ## Whole surveys -/

/-- How a survey goes on either side: the same way, or with a failure on the first side after records
with which the second begins. -/
inductive Drained (R : σ → τ → Prop) (Q : ApiError → σ → τ → Prop) :
    List Repository × Option Ending × Survey × σ → List Repository × Option Ending × Survey × τ → Prop
  | same {records ending v s t} : R s t → Drained R Q (records, ending, v, s) (records, ending, v, t)
  | cut {e records v s records' ending' v' t} : records <+: records' → Q e s t →
    Drained R Q (records, some (.broken e), v, s) (records', ending', v', t)

theorem drain (C : CutShort R Q F G) : ∀ (budget : Nat) (v : Survey) {s : σ} {t : τ}, R s t →
    Drained R Q (v.drain F budget s) (v.drain G budget t)
  | 0, _, _, _, h => .same h
  | budget + 1, v, s, t, h => by
      unfold Survey.drain
      obtain ⟨m, x, y, hF, hG, hsame⟩ | ⟨e, ⟨v', s'⟩, m, ⟨w, t'⟩, hF, hG, hcut⟩ :=
        (C.step v h).split
      · obtain ⟨v', s', t', rfl, rfl, h'⟩ := hsame.split
        simp only [hF, hG]
        cases m with
        | finished => exact .same h'
        | failed e => exact .same h'
        | passed => exact C.drain budget v' h'
        | item r =>
            have hrest := C.drain budget v' h'
            rcases hF' : v'.drain F budget s' with ⟨records, ending, x⟩
            rcases hG' : v'.drain G budget t' with ⟨records', ending', y⟩
            rw [hF', hG'] at hrest
            simp only [hF', hG']
            cases hrest with
            | same h'' => exact .same h''
            | cut hrecords hcut => exact .cut ((List.prefix_cons_inj r).mpr hrecords) hcut
      · -- Nothing was handed out yet on the first side; the second goes on.
        simp only [hF, hG]
        have hcut' := (C.after e s').drain budget w hcut
        cases m with
        | finished => exact .cut List.nil_prefix hcut
        | failed e' => exact .cut List.nil_prefix hcut
        | passed => exact .cut List.nil_prefix hcut'
        | item r => exact .cut List.nil_prefix hcut'

end Forge.CutShort

end ForkCensus
