import ForkCensus.Proofs.Catalog.Reach
import ForkCensus.Proofs.Discovery.Bounds

/-
# Following forks of forks begins with the forks

A recursive survey lists its root first, with the very listing that a
direct survey is, and passes over what it has seen before.  So up to the
end of that listing the two go in lockstep: one step more of the crawl,
to begin with, and then step by step the same questions, the same replies
and the same records, those of a slug that came before left out
(`drain_follows`).  The crawl begins no other listing before that.

The two runs enter different things into the journal.  That must not
matter to the service: `Forge.Unread` names the states that it does not
tell apart, and entries lead only to such states.
-/

namespace ForkCensus

/-! ## Services that do not read the journal -/

/-- A service whose answers do not depend on the journal: of states that `R` relates it answers
alike, and an entry leads to a related state. -/
structure Forge.Unread {σ : Type} (R : σ → σ → Prop) (F : Forge σ) : Prop where
  equivalence : Equivalence R
  alike : F.Alike R F
  note : ∀ (e : Event) (s : σ), R s (F.note e s)

namespace Forge

variable {σ τ : Type} {R : σ → τ → Prop} {F : Forge σ} {G : Forge τ}

/-- The same transcript, and related states. -/
def SameLog (R : σ → τ → Prop) (s : List Exchange × σ) (t : List Exchange × τ) : Prop :=
  s.1 = t.1 ∧ R s.2 t.2

/-- Services that answer alike are still alike when they are watched, with the same transcript. -/
theorem Alike.watched (A : Alike R F G) : Alike (SameLog R) F.watched G.watched where
  quota {s t} h := by
    obtain ⟨reply, s', t', hF, hG, h'⟩ := (A.quota h.2).split
    simp only [Forge.watched, hF, hG]
    exact ⟨rfl, by rw [h.1, A.now h'], h'⟩
  pause seconds h := ⟨by simp only [Forge.watched, h.1], A.pause seconds h.2⟩
  now h := A.now h.2
  note e h := ⟨h.1, A.note e h.2⟩
  repository {s t} k h := by
    obtain ⟨reply, s', t', hF, hG, h'⟩ := (A.repository k h.2).split
    simp only [Forge.watched, hF, hG]
    exact ⟨rfl, by rw [h.1], h'⟩
  forkPage {s t} k page h := by
    obtain ⟨reply, s', t', hF, hG, h'⟩ := (A.forkPage k page h.2).split
    simp only [Forge.watched, hF, hG]
    exact ⟨rfl, by rw [h.1], h'⟩

/-- A service answers in a state as in the same state. -/
theorem Alike.refl (F : Forge σ) : Alike Eq F F where
  quota h := ⟨by rw [h], by rw [h]⟩
  pause _ h := by rw [h]
  now h := by rw [h]
  note _ h := by rw [h]
  repository _ h := ⟨by rw [h], by rw [h]⟩
  forkPage _ _ h := ⟨by rw [h], by rw [h]⟩

/-- Two entries in the journal instead of one are the same to the service. -/
theorem Unread.notes {R : σ → σ → Prop} (h : F.Unread R) (e e' e'' : Event) (s : σ) :
    R (F.note e s) (F.note e'' (F.note e' s)) :=
  h.equivalence.trans (h.equivalence.symm (h.note e s))
    (h.equivalence.trans (h.note e' s) (h.note e'' _))

end Forge

/-! ## One record -/

namespace Crawl

/-- What was handed out is one record of each repository among these. -/
def Past (c : Crawl) (records : List Repository) : Prop :=
  ∀ k, c.seen.contains k = true ↔ ∃ r ∈ Repository.firsts records, r.slug.fold = k.fold

theorem past_start (root : Slug) : (start root).Past [] :=
  fun _ => ⟨nofun, nofun⟩

/-- A record that is taken in is handed out exactly if it is the first of its repository. -/
theorem Past.take {c : Crawl} {records : List Repository} (h : c.Past records) (r : Repository) :
    ∃ m c', c.take r = (m, c') ∧ c'.Past (records ++ [r]) ∧ c'.current = c.current ∧
      c'.listed = c.listed ∧ (m = .passed ∨ m = .item r) ∧
      Repository.firsts (records ++ [r]) = Repository.firsts records ++ m.record?.toList := by
  simp only [Crawl.take, push_seen]
  cases hseen : c.seen.contains r.slug with
  | true =>
      obtain ⟨a, ha, hfold⟩ := (h r.slug).mp hseen
      have hfirsts := Repository.firsts_concat_old ha hfold
      rw [SlugSet.insert_old hseen]
      refine ⟨_, _, rfl, ?_, push_current c r, push_listed c r, .inl rfl, ?_⟩
      · intro k
        rw [push_seen, hfirsts]
        exact h k
      · rw [hfirsts]
        exact (List.append_nil _).symm
  | false =>
      have hnew : ∀ a ∈ Repository.firsts records, a.slug.fold ≠ r.slug.fold := by
        intro a ha hfold
        rw [(h r.slug).mpr ⟨a, ha, hfold⟩] at hseen
        cases hseen
      have hfirsts := Repository.firsts_concat_new hnew
      rw [SlugSet.insert_new hseen]
      refine ⟨_, _, rfl, ?_, push_current c r, push_listed c r, .inr rfl, hfirsts⟩
      intro k
      have hinsert := SlugSet.contains_insert (s := c.seen) (k := r.slug) (j := k)
      rw [SlugSet.insert_new hseen] at hinsert
      rw [hinsert, h k, hfirsts]
      constructor
      · rintro (⟨a, ha, hfold⟩ | hfold)
        · exact ⟨a, List.mem_append_left _ ha, hfold⟩
        · exact ⟨r, List.mem_append_right _ List.mem_cons_self, hfold.symm⟩
      · rintro ⟨a, ha, hfold⟩
        rcases List.mem_append.mp ha with ha | ha
        · exact .inl ⟨a, ha, hfold⟩
        · rw [List.mem_singleton.mp ha] at hfold
          exact .inr hfold.symm

end Crawl

/-! ## One listing -/

namespace Survey

variable {σ : Type} {F : Forge σ}

theorem step_recursive {c c' : Crawl} {s t : σ} {m : Move} (h : c.step F s = (m, c', t)) :
    (recursive c).step F s = (m, recursive c', t) := by
  simp only [step, h]

/-- **In lockstep.**  A listing that is drained as a direct survey, and the same listing within a
crawl: after as many steps the crawl is through with it, has handed out the same records but for
what came before, and the service is in the same state. -/
theorem drain_follows : ∀ {budget : Nat} {l : Listing} {c : Crawl} {before D : List Repository}
    {s t : σ} {rest : Survey}, c.current = some l → c.Past before →
    (direct l).drain F budget s = (D, some .complete, rest, t) →
    ∃ c' kept, c'.current = none ∧ c'.listed = c.listed ∧
      Repository.firsts (before ++ D) = Repository.firsts before ++ kept ∧
      ∀ more, (recursive c).drain F (D.length + 1 + more) s =
        (recursive c').drainAfter F kept more t
  | 0, _, _, _, _, _, _, _, _, _, hdrain => by cases hdrain
  | budget + 1, l, c, before, D, s, t, rest, hc, hpast, hdrain => by
      rcases hpull : l.pull F s with ⟨p, l', u⟩
      cases p with
      | failed e =>
          simp only [drain, step, hpull] at hdrain
          cases hdrain
      | finished =>
          simp only [drain, step, hpull] at hdrain
          cases hdrain
          have hstep : c.step F s = (.passed, { c with current := none }, t) := by
            simp only [Crawl.step, hc, hpull]
          refine ⟨{ c with current := none }, [], rfl, rfl, by simp, fun more => ?_⟩
          rw [List.length_nil, Nat.zero_add, Nat.add_comm]
          exact drain_of_step (step_recursive hstep) rfl more
      | item r =>
          have hnext : (direct l).step F s = (.item r, direct l', u) := by
            simp only [step, hpull]
          rw [drain_of_step hnext rfl] at hdrain
          obtain ⟨D', hlater, rfl⟩ : ∃ D', (direct l').drain F budget u =
              (D', some .complete, rest, t) ∧ D = r :: D' := by
            obtain ⟨hD, hrest⟩ := Prod.mk.inj hdrain
            exact ⟨_, Prod.ext rfl hrest, hD.symm⟩
          obtain ⟨m, c', htake, hpast', hc', hlisted, hm, hfirsts⟩ :=
            Crawl.Past.take (c := { c with current := some l' }) hpast r
          have hstep : c.step F s = (m, c', u) := by
            simp only [Crawl.step, hc, hpull, htake]
          obtain ⟨c'', kept, hc'', hlisted', hkept, hdrains⟩ := drain_follows hc' hpast' hlater
          refine ⟨c'', m.record?.toList ++ kept, hc'', hlisted'.trans hlisted, ?_, fun more => ?_⟩
          · rw [← List.append_assoc, ← hfirsts, ← hkept, List.append_assoc]
            rfl
          · have hgoing : m.ending? = none := by rcases hm with rfl | rfl <;> rfl
            have hbudget : (r :: D').length + 1 + more = D'.length + 1 + more + 1 := by
              rw [List.length_cons]
              omega
            rw [hbudget, drain_of_step (step_recursive hstep) hgoing, drainAfter, hdrains]
            simp only [drainAfter, List.append_assoc]

/-! ## From the start -/

/-- A whole discovery of a watched service, from its start. -/
def discover (F : Forge σ) (root : Slug) (recursive : Bool) (budget : Nat) (s : σ) :
    List Repository × Option Ending × Survey × List Exchange × σ :=
  let (v, t) := begin F.watched root recursive ([], s)
  v.drain F.watched budget t

/-- **A recursive survey begins with all that a direct one hands out.**  Where a direct survey of
`root` comes to its end, with the records `D` and the transcript `log`, a recursive one of the same
service in the same state first hands out `D` without the records whose slug came before, and asks
for exactly the same, in `D.length + 2` steps; then it has begun to list nothing but `root`, and
that listing is through.  Whatever it does after that comes after these records and after that
transcript. -/
theorem recursive_extends_direct {R : σ → σ → Prop} (hF : F.Unread R) (root : Slug) (budget : Nat)
    (s : σ) {D : List Repository} {rest : Survey} {log : List Exchange} {t : σ}
    (hdirect : discover F root false budget s = (D, some .complete, rest, log, t)) :
    ∃ (c : Crawl) (t' : σ), c.current = none ∧ c.listed.members = [root] ∧ R t t' ∧
      ∀ more, discover F root true (D.length + 2 + more) s =
        (recursive c).drainAfter F.watched (Repository.firsts D) more (log, t') := by
  -- The listing within the crawl starts in a state that differs in the journal only.
  let begun : σ := F.note (.expanding root 0) (F.note (.discovering root true) s)
  have hagree := (hF.alike.watched).drain budget (.direct (.start root))
    (s := ([], F.note (.discovering root false) s)) (t := ([], begun)) ⟨rfl, hF.notes _ _ _ s⟩
  obtain ⟨records, p, q, hleft, hright, hpq⟩ := hagree.split
  obtain ⟨ending, p', q', rfl, rfl, hpq'⟩ := hpq.split
  obtain ⟨v, ⟨log₁, t₁⟩, ⟨log₂, t₂⟩, rfl, rfl, hlog, ht⟩ := hpq'.split
  have hsame : (records, ending, v, log₁, t₁) = (D, some .complete, rest, log, t) :=
    hleft.symm.trans hdirect
  cases hsame
  cases show log = log₂ from hlog
  let opened : Crawl := ⟨[], ⟨[root]⟩, .empty, some (.start root)⟩
  obtain ⟨c, kept, hc, hlisted, hfirsts, hdrains⟩ :=
    drain_follows (c := opened) rfl (Crawl.past_start root) hright
  have hopen : (start root true).step F.watched ([], F.note (.discovering root true) s) =
      (.passed, recursive opened, [], begun) := rfl
  refine ⟨c, t₂, hc, congrArg SlugSet.members hlisted, ht, fun more => ?_⟩
  have hbudget : D.length + 2 + more = D.length + 1 + more + 1 := by omega
  rw [show Repository.firsts D = kept from hfirsts, hbudget, ← hdrains]
  exact drain_of_step hopen rfl _

end Survey

/-! ## A catalog with cycles and repetitions -/

/-- A catalog does not read the journal. -/
theorem Catalog.forge_unread (clock : Nat → Int64) : (forge clock).Unread Eq where
  equivalence := eq_equivalence
  alike := Forge.Alike.refl _
  note _ _ := rfl

namespace Survey

/-- A survey of the knot from `a`. -/
def ofKnot (recursive : Bool) (budget : Nat) :
    List Repository × Option Ending × Survey × List Exchange × List Call × Catalog :=
  discover (Catalog.forge fun _ => 0) ⟨"a", "r"⟩ recursive budget
    ([], Catalog.built Catalog.knot)

/-- The direct survey of the knot hands out `a` and `b` twice, and the recursive one once. -/
theorem recursive_extends_direct_knot :
    (Catalog.forge fun _ => 0).Unread Eq ∧
    ∃ D rest log t, ofKnot false 9 = (D, some .complete, rest, log, t) ∧
      D.map Repository.owner = ["a", "b", "a", "b"] ∧
      (Repository.firsts D).map Repository.owner = ["a", "b"] ∧
      ∃ (c : Crawl) (t' : List Call × Catalog),
        c.current = none ∧ c.listed.members = [⟨"a", "r"⟩] ∧ t = t' ∧
        ∀ more, ofKnot true (D.length + 2 + more) =
          (recursive c).drainAfter (Catalog.forge fun _ => 0).watched (Repository.firsts D) more
            (log, t') := by
  have hending : (ofKnot false 9).2.1 = some .complete := by decide +kernel
  have hdirect : ofKnot false 9 = ((ofKnot false 9).1, some .complete, (ofKnot false 9).2.2) := by
    rw [← hending]
  refine ⟨Catalog.forge_unread _, _, _, _, _, hdirect, by decide +kernel, by decide +kernel, ?_⟩
  exact recursive_extends_direct (Catalog.forge_unread _) _ _ _ hdirect

end Survey

end ForkCensus
