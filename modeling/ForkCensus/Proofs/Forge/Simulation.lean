import ForkCensus.Discovery.Survey

/-
# Services that cannot be told apart

Two hosting services look the same to a run when their states can be
related so that every question, asked in related states, gets the same
reply and leaves related states behind.  `Forge.Alike` says so for one
question; this file lifts it through the quota gate, one pull, one step
and whole surveys.

It is used in three ways: with a service and the same service watched
(watching changes nothing), with two services that answer alike, and with
one service on both sides, where the relation `s = t ∧ I s` says that
`I` is never left.

A run does not see all of that, and `Forge.Match` asks only for what it
sees: that the gate opens on both sides, whatever the quota and however
long the wait, and that questions for a repository that a run can come
to (`K`) are answered alike, up to what the failures say (`E`).  The lift
is done once, for `Match`.  The gate opens wherever the quota is answered
(`Gate.awaitQuota_ok`).
-/

namespace ForkCensus

/-- Related results, with related states behind them. -/
def Both {α β σ τ : Type} (P : α → β → Prop) (R : σ → τ → Prop) (p : α × σ) (q : β × τ) : Prop :=
  P p.1 q.1 ∧ R p.2 q.2

theorem Both.split {α β σ τ : Type} {P : α → β → Prop} {R : σ → τ → Prop} {p : α × σ} {q : β × τ}
    (h : Both P R p q) : ∃ a b s t, p = (a, s) ∧ q = (b, t) ∧ P a b ∧ R s t := by
  obtain ⟨a, s⟩ := p
  obtain ⟨b, t⟩ := q
  exact ⟨a, b, s, t, rfl, rfl, h.1, h.2⟩

/-- The same result, with related states behind it. -/
def Agree {α σ τ : Type} (R : σ → τ → Prop) (p : α × σ) (q : α × τ) : Prop :=
  p.1 = q.1 ∧ R p.2 q.2

theorem Agree.split {α σ τ : Type} {R : σ → τ → Prop} {p : α × σ} {q : α × τ}
    (h : Agree R p q) : ∃ a s t, p = (a, s) ∧ q = (a, t) ∧ R s t := by
  obtain ⟨a, b, s, t, hp, hq, rfl, hst⟩ := Both.split (P := Eq) h
  exact ⟨a, s, t, hp, hq, hst⟩

/-! ## The gate -/

/-- Where the quota is always answered, the gate opens, and what asking, pausing and taking notes
keep is kept. -/
theorem Gate.awaitQuota_ok {σ : Type} {G : Gate σ} {I : σ → Prop}
    (hnote : ∀ e {s}, I s → I (G.note e s)) (hpause : ∀ seconds {s}, I s → I (G.pause seconds s))
    (hquota : ∀ {s}, I s → ∃ q t, G.quota s = (.ok q, t) ∧ I t) {s : σ} (h : I s) :
    ∃ t, G.awaitQuota s = (.ok (), t) ∧ I t := by
  obtain ⟨q, t, hq, ht⟩ := hquota h
  simp only [awaitQuota, hq]
  cases q.wait (G.now t) with
  | none => exact ⟨_, rfl, hnote _ ht⟩
  | some seconds => exact ⟨_, rfl, hpause _ (hnote _ ht)⟩

/-- The gate opens exactly where the quota is answered. -/
theorem Gate.awaitQuota_fst {σ : Type} (G : Gate σ) (s : σ) :
    (G.awaitQuota s).1 = (G.quota s).1.map fun _ => () := by
  rcases hq : G.quota s with ⟨_ | q, t⟩
  · simp only [awaitQuota, hq]
    rfl
  · simp only [awaitQuota, hq]
    cases q.wait (G.now t) <;> rfl

/-- Gates that answer alike open alike. -/
theorem Gate.awaitQuota_agree {σ τ : Type} {R : σ → τ → Prop} {G : Gate σ} {H : Gate τ}
    (hquota : ∀ {s t}, R s t → Agree R (G.quota s) (H.quota t))
    (hpause : ∀ {s t} seconds, R s t → R (G.pause seconds s) (H.pause seconds t))
    (hnow : ∀ {s t}, R s t → G.now s = H.now t)
    (hnote : ∀ {s t} e, R s t → R (G.note e s) (H.note e t)) {s : σ} {t : τ} (h : R s t) :
    Agree R (G.awaitQuota s) (H.awaitQuota t) := by
  obtain ⟨reply, s', t', hG, hH, h'⟩ := (hquota h).split
  simp only [awaitQuota, hG, hH]
  cases reply with
  | error e => exact ⟨rfl, h'⟩
  | ok q =>
      simp only [hnow h']
      cases q.wait (H.now t') with
      | none => exact ⟨rfl, hnote _ h'⟩
      | some seconds => exact ⟨rfl, hpause _ (hnote _ h')⟩

/-! ## Results that match -/

/-- The same reply, of which `P` holds, or two failures that `E` relates. -/
inductive Forge.SameReply {α : Type} (P : α → Prop) (E : ApiError → ApiError → Prop) :
    Except ApiError α → Except ApiError α → Prop
  | ok {a : α} : P a → SameReply P E (.ok a) (.ok a)
  | error {e e' : ApiError} : E e e' → SameReply P E (.error e) (.error e')

/-- The same record, whose slug is in `K`, or two failures that `E` relates. -/
inductive Pull.Same (K : Slug → Prop) (E : ApiError → ApiError → Prop) : Pull → Pull → Prop
  | item {r : Repository} : K r.slug → Same K E (.item r) (.item r)
  | finished : Same K E .finished .finished
  | failed {e e' : ApiError} : E e e' → Same K E (.failed e) (.failed e')

/-- The same move, or two failures that `E` relates. -/
inductive Move.Same (E : ApiError → ApiError → Prop) : Move → Move → Prop
  | item {r : Repository} : Same E (.item r) (.item r)
  | passed : Same E .passed .passed
  | finished : Same E .finished .finished
  | failed {e e' : ApiError} : E e e' → Same E (.failed e) (.failed e')

/-- The same ending, or two failures that `E` relates. -/
inductive Ending.Same (E : ApiError → ApiError → Prop) : Option Ending → Option Ending → Prop
  | unfinished : Same E none none
  | complete : Same E (some .complete) (some .complete)
  | broken {e e' : ApiError} : E e e' → Same E (some (.broken e)) (some (.broken e'))

theorem Ending.Same.eq {a b : Option Ending} (h : Ending.Same Eq a b) : a = b := by
  cases h with
  | unfinished => rfl
  | complete => rfl
  | broken he => rw [he]

theorem Ending.Same.complete_of {E : ApiError → ApiError → Prop} {a b : Option Ending}
    (h : Ending.Same E a b) (hb : b = some .complete) : a = some .complete := by
  subst hb
  cases h with
  | complete => rfl

/-! ## What a run can come to -/

/-- The listing is of a repository in `K`, and holds only records of such. -/
def Listing.Within (K : Slug → Prop) (l : Listing) : Prop :=
  K l.root ∧ ∀ r ∈ l.buffer, K r.slug

/-- The crawl has only repositories in `K` before it. -/
def Crawl.Within (K : Slug → Prop) (c : Crawl) : Prop :=
  (∀ k ∈ c.stack, K k) ∧ ∀ l ∈ c.current, l.Within K

/-- The survey has only repositories in `K` before it. -/
def Survey.Within (K : Slug → Prop) : Survey → Prop
  | .direct l => l.Within K
  | .recursive c => c.Within K

theorem Listing.Within.start {K : Slug → Prop} {root : Slug} (h : K root) :
    (Listing.start root).Within K :=
  ⟨h, nofun⟩

theorem Survey.Within.start {K : Slug → Prop} {root : Slug} (h : K root) (recursive : Bool) :
    (Survey.start root recursive).Within K := by
  cases recursive with
  | false => exact Listing.Within.start h
  | true => exact ⟨fun k hk => by rw [List.mem_singleton.mp hk]; exact h, nofun⟩

theorem Survey.within_any (v : Survey) : v.Within fun _ => True := by
  cases v with
  | direct l => exact ⟨trivial, fun _ _ => trivial⟩
  | recursive c => exact ⟨fun _ _ => trivial, fun _ _ => ⟨trivial, fun _ _ => trivial⟩⟩

theorem Crawl.Within.push {K : Slug → Prop} {c : Crawl} (h : c.Within K) {r : Repository}
    (hr : K r.slug) : (c.push r).Within K := by
  unfold Crawl.push
  split
  · exact ⟨List.forall_mem_cons.mpr ⟨hr, h.1⟩, h.2⟩
  · exact h

/-- Two services that a run cannot tell apart as long as it comes only to repositories in `K`, but
for what is said of failures, which `E` relates. -/
structure Forge.Match {σ τ : Type} (K : Slug → Prop) (E : ApiError → ApiError → Prop)
    (R : σ → τ → Prop) (F : Forge σ) (G : Forge τ) : Prop where
  note : ∀ {s t} (e : Event), R s t → R (F.note e s) (G.note e t)
  awaitQuota : ∀ {s t}, R s t →
    Both (SameReply (fun _ => True) E) R (F.awaitQuota s) (G.awaitQuota t)
  repository : ∀ {s t k}, K k → R s t →
    Both (SameReply (fun a => K a.value.slug) E) R (F.repository k s) (G.repository k t)
  forkPage : ∀ {s t k} (page : UInt32), K k → R s t →
    Both (SameReply (fun a => ∀ r ∈ a.value, K r.slug) E) R (F.forkPage k page s)
      (G.forkPage k page t)

namespace Forge.Match

variable {σ τ : Type} {K : Slug → Prop} {E : ApiError → ApiError → Prop} {R : σ → τ → Prop}
  {F : Forge σ} {G : Forge τ} {s : σ} {t : τ}

/-! ## One pull of a listing -/

/-- Pulls that match leave the same listing behind, which stays within `K`. -/
def Pulled (K : Slug → Prop) (E : ApiError → ApiError → Prop) (R : σ → τ → Prop) :
    Pull × Listing × σ → Pull × Listing × τ → Prop :=
  Both (Pull.Same K E) (Both (fun l l' => l = l' ∧ l.Within K) R)

theorem pullRoot (M : Match K E R F G) {l : Listing} (hl : l.Within K) (h : R s t) :
    Pulled K E R (l.pullRoot F s) (l.pullRoot G t) := by
  obtain ⟨gate, gate', s', t', hF, hG, hgate, h'⟩ :=
    (M.awaitQuota (M.note (.fetchingRepository l.root) h)).split
  simp only [Listing.pullRoot, hF, hG]
  cases hgate with
  | error he => exact ⟨.failed he, ⟨rfl, hl.1, nofun⟩, h'⟩
  | ok _ =>
      obtain ⟨reply, reply', s'', t'', hF', hG', hreply, h''⟩ := (M.repository hl.1 h').split
      simp only [hF', hG']
      cases hreply with
      | error he => exact ⟨.failed he, ⟨rfl, hl.1, nofun⟩, h''⟩
      | ok hslug => exact ⟨.item hslug, ⟨rfl, hl⟩, h''⟩

theorem awaitPage (M : Match K E R F G) (l : Listing) (h : R s t) :
    Both (SameReply (fun _ => True) E) R (l.awaitPage F s) (l.awaitPage G t) := by
  unfold Listing.awaitPage
  split
  · exact M.awaitQuota h
  · exact ⟨.ok trivial, h⟩

theorem pullPage (M : Match K E R F G) {l : Listing} (hl : l.Within K) (h : R s t) :
    Pulled K E R (l.pullPage F s) (l.pullPage G t) := by
  obtain ⟨gate, gate', s', t', hF, hG, hgate, h'⟩ := (M.awaitPage l h).split
  simp only [Listing.pullPage, hF, hG]
  cases hgate with
  | error he => exact ⟨.failed he, ⟨rfl, hl.1, nofun⟩, h'⟩
  | ok _ =>
      obtain ⟨reply, reply', s'', t'', hF', hG', hreply, h''⟩ :=
        (M.forkPage l.nextPage hl.1 h').split
      simp only [hF', hG']
      cases hreply with
      | error he => exact ⟨.failed he, ⟨rfl, hl.1, nofun⟩, h''⟩
      | @ok answer hslugs =>
          obtain ⟨records, spent⟩ := answer
          cases records with
          | nil => exact ⟨.finished, ⟨rfl, hl.1, nofun⟩, M.note _ h''⟩
          | cons r rest =>
              obtain ⟨hr, hrest⟩ := List.forall_mem_cons.mp hslugs
              exact ⟨.item hr, ⟨rfl, hl.1, hrest⟩, M.note _ h''⟩

theorem pullListing (M : Match K E R F G) {l : Listing} (hl : l.Within K) (h : R s t) :
    Pulled K E R (l.pull F s) (l.pull G t) := by
  unfold Listing.pull
  cases hb : l.buffer with
  | cons r rest =>
      obtain ⟨hr, hrest⟩ := List.forall_mem_cons.mp (hb ▸ hl.2)
      exact ⟨.item hr, ⟨rfl, hl.1, hrest⟩, h⟩
  | nil =>
      cases l.phase with
      | start => exact M.pullRoot hl h
      | paging => exact M.pullPage hl h
      | «over» => exact ⟨.finished, ⟨rfl, hl⟩, h⟩

/-! ## One step of a survey -/

/-- Moves that match leave the same behind, which stays within `K`. -/
def Stepped {α : Type} (Within : α → Prop) (E : ApiError → ApiError → Prop) (R : σ → τ → Prop) :
    Move × α × σ → Move × α × τ → Prop :=
  Both (Move.Same E) (Both (fun v v' => v = v' ∧ Within v) R)

theorem stepCrawl (M : Match K E R F G) {c : Crawl} (hc : c.Within K) (h : R s t) :
    Stepped (Crawl.Within K) E R (c.step F s) (c.step G t) := by
  unfold Crawl.step
  cases hcur : c.current with
  | none =>
      show Stepped (Crawl.Within K) E R (c.descend F s) (c.descend G t)
      unfold Crawl.descend
      cases hstack : c.stack with
      | nil => exact ⟨.finished, ⟨rfl, hc⟩, h⟩
      | cons k stack =>
          obtain ⟨hk, hrest⟩ := List.forall_mem_cons.mp (hstack ▸ hc.1)
          dsimp only
          rcases c.listed.insert k with ⟨_ | _, listed⟩
          · exact ⟨.passed, ⟨rfl, hrest, hc.2⟩, h⟩
          · refine ⟨.passed, ⟨rfl, hrest, fun l hl => ?_⟩, M.note _ h⟩
            obtain rfl := Option.mem_some_iff.mp hl
            exact .start hk
  | some l =>
      obtain ⟨pull, pull', p, q, hF, hG, hpull, h'⟩ := (M.pullListing (hc.2 l hcur) h).split
      obtain ⟨l', _, s', t', rfl, rfl, ⟨rfl, hl'⟩, h''⟩ := h'.split
      simp only [hF, hG]
      cases hpull with
      | finished => exact ⟨.passed, ⟨rfl, hc.1, nofun⟩, h''⟩
      | failed he => exact ⟨.failed he, ⟨rfl, nofun, nofun⟩, h''⟩
      | @item r hr =>
          have hcur' : ({ c with current := some l' } : Crawl).Within K := by
            refine ⟨hc.1, fun l hl => ?_⟩
            obtain rfl := Option.mem_some_iff.mp hl
            exact hl'
          have hpush := hcur'.push hr
          dsimp only [Crawl.take]
          rcases (({ c with current := some l' } : Crawl).push r).seen.insert r.slug with
            ⟨_ | _, seen⟩
          · exact ⟨.passed, ⟨rfl, hpush⟩, h''⟩
          · exact ⟨.item, ⟨rfl, hpush⟩, h''⟩

theorem step (M : Match K E R F G) {v : Survey} (hv : v.Within K) (h : R s t) :
    Stepped (Survey.Within K) E R (v.step F s) (v.step G t) := by
  cases v with
  | direct l =>
      obtain ⟨pull, pull', p, q, hF, hG, hpull, h'⟩ := (M.pullListing hv h).split
      obtain ⟨l', _, s', t', rfl, rfl, ⟨rfl, hl'⟩, h''⟩ := h'.split
      simp only [Survey.step, hF, hG]
      cases hpull with
      | item => exact ⟨.item, ⟨rfl, hl'⟩, h''⟩
      | finished => exact ⟨.finished, ⟨rfl, hl'⟩, h''⟩
      | failed he => exact ⟨.failed he, ⟨rfl, hl'⟩, h''⟩
  | recursive c =>
      obtain ⟨move, move', p, q, hF, hG, hmove, h'⟩ := (M.stepCrawl hv h).split
      obtain ⟨c', _, s', t', rfl, rfl, ⟨rfl, hc'⟩, h''⟩ := h'.split
      simp only [Survey.step, hF, hG]
      exact ⟨hmove, ⟨rfl, hc'⟩, h''⟩

/-! ## Whole surveys -/

theorem drain (M : Match K E R F G) : ∀ (budget : Nat) {v : Survey} {s : σ} {t : τ},
    v.Within K → R s t →
      Agree (Both (Ending.Same E) (Agree R)) (v.drain F budget s) (v.drain G budget t)
  | 0, _, _, _, _, h => ⟨rfl, .unfinished, rfl, h⟩
  | budget + 1, v, _, _, hv, h => by
      obtain ⟨move, move', p, q, hF, hG, hmove, h'⟩ := (M.step hv h).split
      obtain ⟨v', _, s', t', rfl, rfl, ⟨rfl, hv'⟩, h''⟩ := h'.split
      simp only [Survey.drain, hF, hG]
      cases hmove with
      | item =>
          obtain ⟨h1, h2, h3, h4⟩ := M.drain budget hv' h''
          exact ⟨by simp only [h1], h2, h3, h4⟩
      | passed => exact M.drain budget hv' h''
      | finished => exact ⟨rfl, .complete, rfl, h''⟩
      | failed he => exact ⟨rfl, .broken he, rfl, h''⟩

/-! ## Services that match everywhere and in every failure -/

theorem pull (M : Match (fun _ => True) Eq R F G) : ∀ (budget : Nat) (v : Survey) {s : σ} {t : τ},
    R s t → Agree (Agree R) (v.pull F budget s) (v.pull G budget t)
  | 0, _, _, _, h => ⟨rfl, rfl, h⟩
  | budget + 1, v, _, _, h => by
      obtain ⟨move, move', p, q, hF, hG, hmove, h'⟩ := (M.step v.within_any h).split
      obtain ⟨v', _, s', t', rfl, rfl, ⟨rfl, -⟩, h''⟩ := h'.split
      simp only [Survey.pull, hF, hG]
      cases hmove with
      | item => exact ⟨rfl, rfl, h''⟩
      | passed => exact M.pull budget v' h''
      | finished => exact ⟨rfl, rfl, h''⟩
      | failed he => exact ⟨by rw [he], rfl, h''⟩

theorem drain_eq (M : Match (fun _ => True) Eq R F G) (budget : Nat) (v : Survey) (h : R s t) :
    Agree (Agree (Agree R)) (v.drain F budget s) (v.drain G budget t) := by
  obtain ⟨hrecords, hending, hrest⟩ := M.drain budget v.within_any h
  exact ⟨hrecords, hending.eq, hrest⟩

end Forge.Match

/-! ## Services that answer alike -/

/-- Two services that answer alike in related states, and leave related states behind. -/
structure Forge.Alike {σ τ : Type} (R : σ → τ → Prop) (F : Forge σ) (G : Forge τ) : Prop where
  quota : ∀ {s t}, R s t → Agree R (F.quota s) (G.quota t)
  pause : ∀ {s t} (seconds : UInt64), R s t → R (F.pause seconds s) (G.pause seconds t)
  now : ∀ {s t}, R s t → F.now s = G.now t
  note : ∀ {s t} (e : Event), R s t → R (F.note e s) (G.note e t)
  repository : ∀ {s t} (k : Slug), R s t → Agree R (F.repository k s) (G.repository k t)
  forkPage : ∀ {s t} (k : Slug) (page : UInt32), R s t →
    Agree R (F.forkPage k page s) (G.forkPage k page t)

namespace Forge.Alike

variable {σ τ : Type} {R : σ → τ → Prop} {F : Forge σ} {G : Forge τ} {s : σ} {t : τ}

theorem awaitQuota (A : Alike R F G) (h : R s t) :
    Agree R (F.awaitQuota s) (G.awaitQuota t) :=
  Gate.awaitQuota_agree A.quota A.pause A.now A.note h

/-- The same reply is the same reply. -/
theorem sameReply {α : Type} {P : α → Prop} (hP : ∀ a, P a) {p : Except ApiError α × σ}
    {q : Except ApiError α × τ} (h : Agree R p q) : Both (SameReply P Eq) R p q := by
  obtain ⟨reply, s', t', rfl, rfl, h'⟩ := h.split
  refine ⟨?_, h'⟩
  cases reply with
  | ok a => exact .ok (hP a)
  | error e => exact .error rfl

/-- Services that answer alike match everywhere. -/
theorem toMatch (A : Alike R F G) : Match (fun _ => True) Eq R F G where
  note e h := A.note e h
  awaitQuota h := sameReply (fun _ => trivial) (A.awaitQuota h)
  repository _ h := sameReply (fun _ => trivial) (A.repository _ h)
  forkPage page _ h := sameReply (fun _ _ _ => trivial) (A.forkPage _ page h)

theorem drain (A : Alike R F G) (budget : Nat) (v : Survey) (h : R s t) :
    Agree (Agree (Agree R)) (v.drain F budget s) (v.drain G budget t) :=
  A.toMatch.drain_eq budget v h

end Forge.Alike

end ForkCensus
