import Mathlib.Data.List.Forall2
import ForkCensus.Discovery.Survey

/-
# Discoveries in another spelling

A service that does not tell the spellings of a slug apart answers a
discovery from `Octocat/Hello` as it answers one from `octocat/hello`.
The two keep different spellings in their states, and so may word a
failure differently; all else is the same, step by step.

`Forge.EchoedBy` says a little less of two services: what the first
answers, the second answers too, whatever its state and however the
question is spelled.  Then a discovery on the first either ends with a
failure or does what the same discovery does on the second
(`Forge.EchoedBy.drain`).  With one service on both sides this is about
spelling; with a service that fails now and then on the first side it says
that failures change nothing but the end.  In either case a discovery that
comes to its end brings what every other brings (`Forge.EchoedBy.brings`).
-/

namespace ForkCensus

/-- Whatever `F` answers, `G` answers too, in any state and any spelling of the slug. -/
structure Forge.EchoedBy {σ τ : Type} (F : Forge σ) (G : Forge τ) : Prop where
  awaitQuota : ∀ s t, (F.awaitQuota s).1 = .ok () → (G.awaitQuota t).1 = .ok ()
  repository : ∀ {j k : Slug} {a : Answer Repository} s t, j.same k = true →
    (F.repository j s).1 = .ok a → (G.repository k t).1 = .ok a
  forkPage : ∀ {j k : Slug} {a : Answer (List Repository)} page s t, j.same k = true →
    (F.forkPage j page s).1 = .ok a → (G.forkPage k page t).1 = .ok a

/-- A survey of `root`, in some state of the service, comes to its end with these records. -/
def Forge.Brings {σ : Type} (F : Forge σ) (budget : Nat) (recursive : Bool) (root : Slug)
    (records : List Repository) : Prop :=
  ∃ s rest, (Survey.start root recursive).drain F budget s = (records, some .complete, rest)

/-! ## States that differ in spelling -/

/-- The listings differ at most in the spelling of their root. -/
structure Listing.Alike (l m : Listing) : Prop where
  root : l.root.same m.root = true
  rest : m = { l with root := m.root }

/-- The crawls differ at most in the spelling of what they list. -/
structure Crawl.Alike (c d : Crawl) : Prop where
  stack : List.Forall₂ (fun j k => j.same k = true) c.stack d.stack
  listed : ∀ {j k : Slug}, j.same k = true → c.listed.contains j = d.listed.contains k
  seen : c.seen = d.seen
  current : (c.current = none ∧ d.current = none) ∨
    ∃ l m, c.current = some l ∧ d.current = some m ∧ l.Alike m

/-- The surveys are of one kind and differ at most in spelling. -/
inductive Survey.Alike : Survey → Survey → Prop
  | direct {l m : Listing} : l.Alike m → Alike (.direct l) (.direct m)
  | recursive {c d : Crawl} : c.Alike d → Alike (.recursive c) (.recursive d)

theorem Listing.alike_start {j k : Slug} (h : j.same k = true) :
    (Listing.start j).Alike (.start k) :=
  ⟨h, rfl⟩

theorem Survey.alike_start {j k : Slug} (h : j.same k = true) (recursive : Bool) :
    (Survey.start j recursive).Alike (.start k recursive) := by
  cases recursive with
  | false => exact .direct (Listing.alike_start h)
  | true => exact .recursive ⟨.cons h .nil, fun _ => rfl, rfl, Or.inl ⟨rfl, rfl⟩⟩

theorem Crawl.Alike.push {c d : Crawl} (h : c.Alike d) (r : Repository) :
    (c.push r).Alike (d.push r) := by
  unfold Crawl.push
  -- What comes in a reply is spelled the same on both sides.
  rw [h.listed (Slug.same_refl r.slug)]
  split
  · exact ⟨.cons (Slug.same_refl _) h.stack, h.listed, h.seen, h.current⟩
  · exact h

theorem Crawl.Alike.take {c d : Crawl} (h : c.Alike d) (r : Repository) :
    (d.take r).1 = (c.take r).1 ∧ (c.take r).2.Alike (d.take r).2 := by
  have hpush := h.push r
  rcases hs : (d.push r).seen.insert r.slug with ⟨new, seen⟩
  simp only [Crawl.take, hpush.seen, hs]
  cases new with
  | true => exact ⟨rfl, hpush.stack, hpush.listed, rfl, hpush.current⟩
  | false => exact ⟨rfl, hpush⟩

/-- Beginning to list one repository in two spellings. -/
theorem SlugSet.insert_alike {listed listed' : SlugSet} {j k : Slug} (hjk : j.same k = true)
    (h : ∀ {j k : Slug}, j.same k = true → listed.contains j = listed'.contains k) :
    (listed.insert j).1 = (listed'.insert k).1 ∧ ∀ {i i' : Slug}, i.same i' = true →
      (listed.insert j).2.contains i = (listed'.insert k).2.contains i' := by
  constructor
  · unfold SlugSet.insert
    rw [h hjk]
    split <;> rfl
  · intro i i' hi
    rw [Bool.eq_iff_iff, SlugSet.contains_insert, SlugSet.contains_insert, h hi,
      Slug.same_iff.mp hi, Slug.same_iff.mp hjk]

namespace Forge.EchoedBy

variable {σ τ : Type} {F : Forge σ} {G : Forge τ} {s : σ} {t : τ}

/-! ## Pulls and steps -/

/-- How a pull on `F` and the same pull on `G` go: the first fails, or they go alike. -/
def Pulled (p : Pull × Listing × σ) (q : Pull × Listing × τ) : Prop :=
  (∃ e, p.1 = .failed e) ∨ (q.1 = p.1 ∧ p.2.1.Alike q.2.1)

theorem pullRoot (h : F.EchoedBy G) {l m : Listing} (hl : l.Alike m) :
    Pulled (l.pullRoot F s) (m.pullRoot G t) := by
  obtain ⟨hroot, hrest⟩ := hl
  unfold Listing.pullRoot
  rcases hF : F.awaitQuota (F.note (.fetchingRepository l.root) s) with ⟨_ | _, s'⟩
  · exact Or.inl ⟨_, rfl⟩
  · have hgate := h.awaitQuota _ (G.note (.fetchingRepository m.root) t) (congrArg Prod.fst hF)
    rcases hG : G.awaitQuota (G.note (.fetchingRepository m.root) t) with ⟨reply, t'⟩
    rw [hG] at hgate
    obtain rfl : reply = .ok () := hgate
    dsimp only
    rcases hF' : F.repository l.root s' with ⟨_ | a, s''⟩
    · exact Or.inl ⟨_, rfl⟩
    · have hanswer := h.repository s' t' hroot (congrArg Prod.fst hF')
      rcases hG' : G.repository m.root t' with ⟨reply', t''⟩
      rw [hG'] at hanswer
      obtain rfl : reply' = .ok a := hanswer
      refine Or.inr ⟨rfl, hroot, ?_⟩
      rw [hrest]

theorem pullPage (h : F.EchoedBy G) {l m : Listing} (hl : l.Alike m) :
    Pulled (l.pullPage F s) (m.pullPage G t) := by
  obtain ⟨hroot, hrest⟩ := hl
  have hspent : m.quotaSpent = l.quotaSpent := by rw [hrest]
  have hpage : m.nextPage = l.nextPage := by rw [hrest]
  unfold Listing.pullPage
  rcases hF : l.awaitPage F s with ⟨_ | _, s'⟩
  · exact Or.inl ⟨_, rfl⟩
  · -- Both wait or neither, for what the last page said of the quota is the same.
    have hgate : ∃ t', m.awaitPage G t = (.ok (), t') := by
      unfold Listing.awaitPage at hF ⊢
      rw [hspent]
      cases hs : l.quotaSpent with
      | false => exact ⟨t, rfl⟩
      | true =>
          rw [hs, if_pos rfl] at hF
          exact ⟨_, Prod.ext (h.awaitQuota s t (congrArg Prod.fst hF)) rfl⟩
    obtain ⟨t', hG⟩ := hgate
    simp only [hG, hpage]
    rcases hF' : F.forkPage l.root l.nextPage s' with ⟨_ | ⟨records, spent⟩, s''⟩
    · exact Or.inl ⟨_, rfl⟩
    · have hanswer := h.forkPage l.nextPage s' t' hroot (congrArg Prod.fst hF')
      rcases hG' : G.forkPage m.root l.nextPage t' with ⟨reply', t''⟩
      rw [hG'] at hanswer
      obtain rfl : reply' = .ok ⟨records, spent⟩ := hanswer
      refine Or.inr ?_
      cases records with
      | nil => exact ⟨rfl, hroot, by rw [hrest]; rfl⟩
      | cons r rest => exact ⟨rfl, hroot, by rw [hrest]⟩

theorem pullListing (h : F.EchoedBy G) {l m : Listing} (hl : l.Alike m) :
    Pulled (l.pull F s) (m.pull G t) := by
  have hbuffer : m.buffer = l.buffer := by rw [hl.rest]
  have hphase : m.phase = l.phase := by rw [hl.rest]
  unfold Listing.pull
  rw [hbuffer, hphase]
  cases l.buffer with
  | cons r rest => exact Or.inr ⟨rfl, hl.root, by rw [hl.rest]⟩
  | nil =>
      cases l.phase with
      | start => exact h.pullRoot hl
      | paging => exact h.pullPage hl
      | «over» => exact Or.inr ⟨rfl, hl⟩

/-- How a step on `F` and the same step on `G` go: the first fails, or they go alike. -/
def Stepped {α : Type} (Alike : α → α → Prop) (p : Move × α × σ) (q : Move × α × τ) : Prop :=
  (∃ e, p.1 = .failed e) ∨ (q.1 = p.1 ∧ Alike p.2.1 q.2.1)

theorem descend {c d : Crawl} (hc : c.Alike d) :
    Stepped Crawl.Alike (c.descend F s) (d.descend G t) := by
  have hstack := hc.stack
  unfold Crawl.descend
  cases hcs : c.stack with
  | nil =>
      rw [hcs] at hstack
      rw [List.forall₂_nil_left_iff.mp hstack]
      exact Or.inr ⟨rfl, hc⟩
  | cons j stack =>
      rw [hcs] at hstack
      obtain ⟨k, stack', hjk, hrest, hds⟩ := List.forall₂_cons_left_iff.mp hstack
      obtain ⟨hnew, hlisted⟩ := SlugSet.insert_alike hjk hc.listed
      rcases hi : c.listed.insert j with ⟨new, listed⟩
      rcases hi' : d.listed.insert k with ⟨new', listed'⟩
      rw [hi, hi'] at hnew hlisted
      obtain rfl : new = new' := hnew
      simp only [hds, hi, hi']
      cases new with
      | false => exact Or.inr ⟨rfl, hrest, hc.listed, hc.seen, hc.current⟩
      | true =>
          exact Or.inr ⟨rfl, hrest, hlisted, hc.seen,
            Or.inr ⟨_, _, rfl, rfl, Listing.alike_start hjk⟩⟩

theorem stepCrawl (h : F.EchoedBy G) {c d : Crawl} (hc : c.Alike d) :
    Stepped Crawl.Alike (c.step F s) (d.step G t) := by
  unfold Crawl.step
  rcases hc.current with ⟨hcur, hcur'⟩ | ⟨l, m, hcur, hcur', hl⟩
  · rw [hcur, hcur']
    exact descend hc
  · rw [hcur, hcur']
    have hpull := h.pullListing (s := s) (t := t) hl
    rcases hp : l.pull F s with ⟨p, l', s'⟩
    rcases hq : m.pull G t with ⟨q, m', t'⟩
    rw [hp, hq] at hpull
    simp only [hp, hq]
    rcases hpull with ⟨e, he⟩ | ⟨heq, hl'⟩
    · obtain rfl : p = .failed e := he
      exact Or.inl ⟨e, rfl⟩
    · obtain rfl : q = p := heq
      cases q with
      | failed e => exact Or.inl ⟨e, rfl⟩
      | finished =>
          exact Or.inr ⟨rfl, hc.stack, hc.listed, hc.seen, Or.inl ⟨rfl, rfl⟩⟩
      | item r =>
          have hnext : ({ c with current := some l' } : Crawl).Alike
              { d with current := some m' } :=
            ⟨hc.stack, hc.listed, hc.seen, Or.inr ⟨l', m', rfl, rfl, hl'⟩⟩
          exact Or.inr (hnext.take r)

theorem step (h : F.EchoedBy G) {v w : Survey} (hv : v.Alike w) :
    Stepped Survey.Alike (v.step F s) (w.step G t) := by
  cases hv with
  | @direct l m hl =>
      have hpull := h.pullListing (s := s) (t := t) hl
      unfold Survey.step
      rcases hp : l.pull F s with ⟨p, l', s'⟩
      rcases hq : m.pull G t with ⟨q, m', t'⟩
      simp only [hp, hq]
      rw [hp, hq] at hpull
      rcases hpull with ⟨e, he⟩ | ⟨heq, hl'⟩
      · obtain rfl : p = .failed e := he
        exact Or.inl ⟨e, rfl⟩
      · obtain rfl : q = p := heq
        cases q with
        | item r => exact Or.inr ⟨rfl, .direct hl'⟩
        | finished => exact Or.inr ⟨rfl, .direct hl'⟩
        | failed e => exact Or.inl ⟨e, rfl⟩
  | recursive hc =>
      rcases h.stepCrawl (s := s) (t := t) hc with hfailed | ⟨heq, hc'⟩
      · exact Or.inl hfailed
      · exact Or.inr ⟨heq, .recursive hc'⟩

/-! ## Whole surveys -/

/-- **A survey on `F` ends with a failure, or does what the same survey does on `G`**, in whatever
spelling: it hands out the same records and ends alike. -/
theorem drain (h : F.EchoedBy G) : ∀ (budget : Nat) {v w : Survey} (s : σ) (t : τ), v.Alike w →
    (∃ e, (v.drain F budget s).2.1 = some (.broken e)) ∨
      ((w.drain G budget t).1 = (v.drain F budget s).1 ∧
        (w.drain G budget t).2.1 = (v.drain F budget s).2.1)
  | 0, _, _, _, _, _ => Or.inr ⟨rfl, rfl⟩
  | budget + 1, v, w, s, t, hv => by
      -- Unless the first step fails on `F`, it leaves surveys that are alike again.
      have hstep := h.step (s := s) (t := t) hv
      unfold Survey.drain
      rcases hp : v.step F s with ⟨m, v', s'⟩
      rcases hq : w.step G t with ⟨m', w', t'⟩
      rw [hp, hq] at hstep
      rcases hstep with ⟨e, he⟩ | ⟨heq, hv'⟩
      · obtain rfl : m = .failed e := he
        exact Or.inl ⟨e, rfl⟩
      · obtain rfl : m' = m := heq
        cases m' with
        | finished => exact Or.inr ⟨rfl, rfl⟩
        | failed e => exact Or.inl ⟨e, rfl⟩
        | passed => exact h.drain budget s' t' hv'
        | item r =>
            rcases h.drain budget s' t' hv' with hbroken | ⟨hrecords, hending⟩
            · exact Or.inl hbroken
            · exact Or.inr ⟨congrArg (r :: ·) hrecords, hending⟩

/-- **What a survey on `F` brings, every survey on `G` brings**, in whatever state and spelling. -/
theorem brings (h : F.EchoedBy G) {j k : Slug} (hjk : j.same k = true) {budget : Nat}
    {recursive : Bool} {records : List Repository} (hj : F.Brings budget recursive j records)
    (t : τ) :
    ∃ rest, (Survey.start k recursive).drain G budget t = (records, some .complete, rest) := by
  obtain ⟨s, rest, hdrain⟩ := hj
  have hsame := h.drain budget s t (Survey.alike_start hjk recursive)
  rw [hdrain] at hsame
  rcases hsame with ⟨e, he⟩ | ⟨hrecords, hending⟩
  · cases he
  · exact ⟨_, Prod.ext hrecords (Prod.ext hending rfl)⟩

/-- Two surveys of one repository bring the same. -/
theorem brings_unique (h : F.EchoedBy F) {root : Slug} {budget : Nat} {recursive : Bool}
    {records records' : List Repository} (hbrings : F.Brings budget recursive root records)
    (hbrings' : F.Brings budget recursive root records') : records = records' := by
  obtain ⟨s, rest, hdrain⟩ := hbrings
  obtain ⟨rest', hdrain'⟩ := h.brings (Slug.same_refl root) hbrings' s
  rw [hdrain] at hdrain'
  exact congrArg Prod.fst hdrain'

end Forge.EchoedBy

end ForkCensus
