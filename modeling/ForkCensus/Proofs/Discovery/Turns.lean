import ForkCensus.Proofs.Discovery.Bounds
import ForkCensus.Proofs.Discovery.Failures

/-
# What a listing hands out, and when it asks

A listing is pulled turn by turn, and the service may answer each turn as
if the ones before had not been.  `Listing.turns_exact` says of any number
of turns what they bring and what they ask for: the record, then pages 1,
2, … while they come with something on them; and nothing else is handed
out than what came, in the order in which it came, all of it, before
anything more is asked for.

The transcript of the turns is a chapter, so what it looks like is known.
`Listing.Told` ties what was handed out to it, and one lemma carries that
over a pull (`Listing.Told.pulled`).
-/

namespace ForkCensus

open Exchange

/-- How the reply to a question ends a listing, if it does: a failure at once, an empty page and a
repository without forks as soon as what came is handed out. -/
def Exchange.verdict? : Exchange → Option Pull
  | quota (.error e) _ => some (.failed e)
  | repository _ (.error e) => some (.failed e)
  | repository _ (.ok answer) => if answer.value.hasForks then none else some .finished
  | forkPage _ _ (.error e) => some (.failed e)
  | forkPage _ _ (.ok answer) => if answer.value.isEmpty then some .finished else none
  | _ => none

/-- How the last reply ends a listing. -/
def Exchange.verdictOf (log : List Exchange) : Option Pull :=
  log.getLast?.bind verdict?

@[simp] theorem Exchange.verdictOf_concat (log : List Exchange) (x : Exchange) :
    verdictOf (log ++ [x]) = x.verdict? := by
  simp [verdictOf]

namespace Listing

/-- One pull: what it brings, and what it asks for. -/
structure Turn where
  result : Pull
  asked : List Exchange

/-- The results of the pulls, in order. -/
def results (turns : List Turn) : List Pull :=
  turns.map Turn.result

/-- All that was asked for, in order. -/
def asked (turns : List Turn) : List Exchange :=
  turns.flatMap Turn.asked

@[simp] theorem results_append (turns turns' : List Turn) :
    results (turns ++ turns') = results turns ++ results turns' :=
  List.map_append

@[simp] theorem asked_append (turns turns' : List Turn) :
    asked (turns ++ turns') = asked turns ++ asked turns' :=
  List.flatMap_append

@[simp] theorem results_singleton (turn : Turn) : results [turn] = [turn.result] := rfl

@[simp] theorem asked_singleton (turn : Turn) : asked [turn] = turn.asked :=
  List.append_nil _

/-- A number of pulls in a row. -/
def turns {σ : Type} (F : Forge σ) : Nat → Listing → σ → List Turn
  | 0, _, _ => []
  | n + 1, l, s =>
    let (p, l', g, t) := l.pull F.watched ([], s)
    ⟨p, g⟩ :: turns F n l' t

/-- What pulls of a listing of `root` have to be like. -/
structure Exact (root : Slug) (turns : List Turn) : Prop where
  /-- Nothing is asked for but the record, once, and then pages, counted from 1. -/
  requests : ((asked turns).filter isRequest).map call = [] ∨ ∃ pages : List UInt32,
    ((asked turns).filter isRequest).map call = .repository root :: pages.map (.forkPage root) ∧
      pages.map UInt32.toNat = List.range' 1 pages.length
  /-- Pages are asked for only where the record counts forks. -/
  forked : ∀ x ∈ asked turns, x.isPage = true →
    ∃ answer, .repository root (.ok answer) ∈ asked turns ∧ answer.value.hasForks = true
  /-- Nothing more is asked for after a failure, an empty page or a record without forks. -/
  stops : ∀ x ∈ (asked turns).dropLast, x.verdict? = none
  /-- The turns bring what came, then the end that the last reply makes of it, then nothing more. -/
  hands : results turns <+: (brought (asked turns)).map Pull.item ++
    ((verdictOf (asked turns)).toList ++ List.replicate turns.length .finished)
  /-- As long as no reply ends the listing, every turn brings a record. -/
  goes : verdictOf (asked turns) = none → turns.length ≤ (brought (asked turns)).length
  /-- A turn asks for one page at most, and only when all that came before was handed out. -/
  waits : ∀ before turn after, turns = before ++ turn :: after → pageCalls turn.asked ≤ 1 ∧
    (pageCalls turn.asked ≠ 0 → results before = (brought (asked before)).map Pull.item)

/-! ## One pull -/

theorem Pulled.pageCalls {l l' : Listing} {p : Pull} {g : List Exchange} (h : l.Pulled p l' g) :
    pageCalls g ≤ 1 ∧ (pageCalls g ≠ 0 → l.buffer = [] ∧ l.phase = .paging) := by
  -- What the gate lets pass is no page, so only the question behind it counts.
  have hlast {g : List Exchange} (hg : Quiet g) (x : Exchange) :
      Exchange.pageCalls (g ++ [x]) = Exchange.pageCalls [x] := by
    have hquiet : Exchange.pageCalls g = 0 := List.countP_eq_zero.mpr fun y hy => by
      obtain ⟨_, _, rfl⟩ | ⟨_, rfl⟩ := quota_or_pause (hg y hy) <;> nofun
    rw [pageCalls_append, hquiet, Nat.zero_add]
  have hnone : 0 ≤ 1 ∧ (0 ≠ 0 → l.buffer = [] ∧ l.phase = .paging) :=
    ⟨Nat.zero_le _, fun h => absurd rfl h⟩
  cases h with
  | buffered => exact hnone
  | idle => exact hnone
  | rootUngated => exact hnone
  | rootFailed _ _ hg =>
      rw [hlast hg.quiet]
      exact hnone
  | root _ _ hg =>
      rw [hlast hg.quiet]
      exact hnone
  | pageUngated => exact hnone
  | pageFailed hb hp hg =>
      rw [hlast hg.quiet]
      exact ⟨Nat.le_refl _, fun _ => ⟨hb, hp⟩⟩
  | lastPage hb hp hg =>
      rw [hlast hg.quiet]
      exact ⟨Nat.le_refl _, fun _ => ⟨hb, hp⟩⟩
  | page hb hp hg =>
      rw [hlast hg.quiet]
      exact ⟨Nat.le_refl _, fun _ => ⟨hb, hp⟩⟩

theorem Pulled.verdict_failed {l l' : Listing} {e : ApiError} {g : List Exchange}
    (h : l.Pulled (.failed e) l' g) (log : List Exchange) :
    verdictOf (log ++ g) = some (.failed e) := by
  cases h with
  | rootUngated => exact verdictOf_concat _ _
  | rootFailed => rw [← List.append_assoc, verdictOf_concat]; rfl
  | pageUngated => exact verdictOf_concat _ _
  | pageFailed => rw [← List.append_assoc, verdictOf_concat]; rfl

end Listing

/-! ## The replies of a chapter -/

theorem Gate.Passed.verdict {g : List Exchange} (h : Gate.Passed g) :
    ∀ x ∈ g, x.verdict? = none := by
  cases h <;> simp [verdict?]

theorem Listing.PageGate.verdict {spent : Bool} {g : List Exchange} (h : PageGate spent g) :
    ∀ x ∈ g, x.verdict? = none := by
  cases spent with
  | false => rw [show g = [] from h]; nofun
  | true => exact Gate.Passed.verdict h

namespace Listing.Read

variable {root : Slug} {rs : List Repository} {n : Nat} {spent : Bool} {log : List Exchange}

theorem verdict (h : Read root rs n spent log) : ∀ x ∈ log, x.verdict? = none := by
  induction h with
  | opened hg hforks =>
      simp only [List.forall_mem_append, List.forall_mem_singleton]
      exact ⟨hg.verdict, by simp [verdict?, hforks]⟩
  | page _ hg ha ih =>
      simp only [List.forall_mem_append, List.forall_mem_singleton]
      exact ⟨ih, hg.verdict, by simp [verdict?, ha]⟩

theorem forked (h : Read root rs n spent log) :
    ∃ answer, .repository root (.ok answer) ∈ log ∧ answer.value.hasForks = true := by
  induction h with
  | @opened a g _ hforks => exact ⟨a, by simp, hforks⟩
  | page _ _ _ ih =>
      obtain ⟨answer, hmem, hforks⟩ := ih
      exact ⟨answer, List.mem_append_left _ hmem, hforks⟩

end Listing.Read

namespace Chapter

variable {ch : Chapter}

theorem Complete.brought (h : ch.Complete) : Exchange.brought ch.log = ch.records := by
  cases h with
  | alone hg _ => rw [brought_append, hg.quiet.brought]; rfl
  | pages hread hg =>
      rw [brought_append, brought_append, hread.brought, hg.quiet.brought]
      exact List.append_nil _

theorem Complete.verdict (h : ch.Complete) : verdictOf ch.log = some .finished := by
  cases h with
  | alone hg hforks => simp [verdict?, hforks]
  | pages hread hg =>
      rw [← List.append_assoc, verdictOf_concat]
      rfl

theorem Broken.brought (h : ch.Broken) : Exchange.brought ch.log = ch.records := by
  cases h with
  | ungated => rfl
  | unanswered hg => rw [brought_append, hg.quiet.brought]; rfl
  | pageUngated hread =>
      rw [brought_append, hread.brought]
      exact List.append_nil _
  | pageFailed hread hg =>
      rw [brought_append, brought_append, hread.brought, hg.quiet.brought]
      exact List.append_nil _

/-- Only the last reply of a chapter can end it. -/
theorem Standing.verdict (h : ch.Standing) : ∀ x ∈ ch.log.dropLast, x.verdict? = none := by
  cases h with
  | opened h =>
      cases h with
      | start => nofun
      | paging hread => exact fun x hx => hread.verdict x (List.mem_of_mem_dropLast hx)
  | complete h =>
      cases h with
      | alone hg _ =>
          rw [List.dropLast_concat]
          exact hg.verdict
      | pages hread hg =>
          rw [← List.append_assoc, List.dropLast_concat]
          exact List.forall_mem_append.mpr ⟨hread.verdict, hg.verdict⟩
  | broken h =>
      cases h with
      | ungated => nofun
      | unanswered hg =>
          rw [List.dropLast_concat]
          exact hg.verdict
      | pageUngated hread =>
          rw [List.dropLast_concat]
          exact hread.verdict
      | pageFailed hread hg =>
          rw [← List.append_assoc, List.dropLast_concat]
          exact List.forall_mem_append.mpr ⟨hread.verdict, hg.verdict⟩

/-- Where a chapter has pages, its record counts forks. -/
theorem Standing.forked (h : ch.Standing) {x : Exchange} (hx : x ∈ ch.log)
    (hpage : x.isPage = true) :
    ∃ answer, .repository ch.root (.ok answer) ∈ ch.log ∧ answer.value.hasForks = true := by
  have hmore {root : Slug} {records : List Repository} {n : Nat} {spent : Bool}
      {log : List Exchange} (hread : Listing.Read root records n spent log) (g : List Exchange) :
      ∃ answer, .repository root (.ok answer) ∈ log ++ g ∧ answer.value.hasForks = true := by
    obtain ⟨answer, hmem, hforks⟩ := hread.forked
    exact ⟨answer, List.mem_append_left _ hmem, hforks⟩
  have hlast {g : List Exchange} (hg : Exchange.Quiet g) {root : Slug}
      {reply : Except ApiError (Answer Repository)} (hx : x ∈ g ++ [.repository root reply]) :
      False := by
    rcases List.mem_append.mp hx with hx | hx
    · have hquiet := hg x hx
      rw [isRequest, hpage, Bool.or_true] at hquiet
      cases hquiet
    · rw [List.mem_singleton.mp hx] at hpage
      cases hpage
  cases h with
  | opened h =>
      cases h with
      | start => cases hx
      | paging hread => exact hread.forked
  | complete h =>
      cases h with
      | alone hg _ => exact (hlast hg.quiet hx).elim
      | pages hread _ => exact hmore hread _
  | broken h =>
      cases h with
      | ungated =>
          rw [List.mem_singleton.mp hx] at hpage
          cases hpage
      | unanswered hg => exact (hlast hg.quiet hx).elim
      | pageUngated hread => exact hmore hread _
      | pageFailed hread _ => exact hmore hread _

/-- All that a chapter asks for is about its repository. -/
theorem Standing.requests (h : ch.Standing) :
    (ch.log.filter isRequest).map call = Exchange.callsAbout ch.root ch.log := by
  rw [callsAbout_eq]
  refine congrArg _ (List.filter_congr fun x hx => ?_)
  have hroot (k : Slug) (hk : x.call.about k = true) : k.same ch.root = true := by
    rw [Slug.same_comm]
    by_contra hother
    rw [h.about_other (Bool.eq_false_iff.mpr hother) x hx] at hk
    cases hk
  cases x with
  | repository k reply => exact (hroot k (Slug.same_refl k)).symm
  | forkPage k page reply => exact (hroot k (Slug.same_refl k)).symm
  | quota => rfl
  | pause => rfl

end Chapter

/-! ## Turns -/

namespace Listing

/-- Turns of a listing of `root`, as any service lets them come. -/
inductive Turns (root : Slug) : List Turn → Listing → Prop
  | start : Turns root [] (.start root)
  | turn {turns : List Turn} {l l' : Listing} {turn : Turn} : Turns root turns l →
      l.Pulled turn.result l' turn.asked → Turns root (turns ++ [turn]) l'

theorem turns_of_watched {σ : Type} (F : Forge σ) {root : Slug} : ∀ (n : Nat) {before : List Turn}
    {l : Listing} (s : σ), Turns root before l → ∃ l', Turns root (before ++ turns F n l s) l'
  | 0, before, l, s, h => ⟨l, by rwa [turns, List.append_nil]⟩
  | n + 1, before, l, s, h => by
      obtain ⟨p, l', g, t, hpull, hp⟩ := l.pull_watched F [] s
      rw [List.nil_append] at hpull
      have hnext : Turns root (before ++ [⟨p, g⟩]) l' := h.turn hp
      obtain ⟨l'', h'⟩ := turns_of_watched F n t hnext
      refine ⟨l'', ?_⟩
      rw [List.append_assoc, List.singleton_append] at h'
      simpa only [turns, hpull] using h'

/-- A turn among others begins where those before it have left the listing. -/
theorem Turns.split {root : Slug} {turns : List Turn} {l : Listing} (h : Turns root turns l) :
    ∀ {before after : List Turn} {turn : Turn}, turns = before ++ turn :: after →
      ∃ l₁ l₂, Turns root before l₁ ∧ l₁.Pulled turn.result l₂ turn.asked := by
  induction h with
  | start => intro before after turn heq; cases before <;> cases heq
  | turn hbefore hp ih =>
      intro before after turn heq
      rcases List.eq_nil_or_concat after with rfl | ⟨after', last, rfl⟩
      · obtain ⟨rfl, hturn⟩ := List.append_inj' heq rfl
        obtain rfl := List.singleton_inj.mp hturn
        exact ⟨_, _, hbefore, hp⟩
      · rw [List.concat_eq_append, ← List.cons_append, ← List.append_assoc] at heq
        exact ih (List.append_inj' heq rfl).1

/-- What turns have handed out so far: the records of a chapter that goes on, or all that came, and
perhaps the end, of one that does not. -/
def Told (root : Slug) (turns : List Turn) (l : Listing) : Prop :=
  ∃ ch : Chapter, ch.root = root ∧ ch.log = asked turns ∧ ch.Standing ∧
    ((ch.Open l ∧ results turns = ch.records.map Pull.item) ∨
      (l.Over ∧ ∃ p, verdictOf ch.log = some p ∧
        ((results turns = (brought ch.log).map Pull.item ∧ p = .finished) ∨
          ∃ n, results turns = (brought ch.log).map Pull.item ++ p :: List.replicate n .finished)))

theorem Told.pulled {root : Slug} {turns : List Turn} {l l' : Listing} {turn : Turn}
    (h : Told root turns l) (hp : l.Pulled turn.result l' turn.asked) :
    Told root (turns ++ [turn]) l' := by
  obtain ⟨p, g⟩ := turn
  dsimp only at hp
  obtain ⟨ch, hroot, hlog, hch, ⟨hopen, hresults⟩ | ⟨hover, q, hq, htold⟩⟩ := h
  · have hstands := hopen.pulled hp
    have hlog' : (ch.extend p g).log = asked (turns ++ [⟨p, g⟩]) := by
      rw [asked_append, asked_singleton, ← hlog]
      rfl
    refine ⟨ch.extend p g, hroot, hlog', ?_⟩
    rw [results_append, hresults]
    cases p with
    | item r =>
        rcases hstands with hopen' | ⟨hover, hcomplete⟩
        · exact ⟨.opened hopen', Or.inl ⟨hopen', by simp⟩⟩
        · refine ⟨.complete hcomplete, Or.inr ⟨hover, _, hcomplete.verdict, Or.inl ⟨?_, rfl⟩⟩⟩
          rw [hcomplete.brought]
          simp
    | finished =>
        obtain ⟨hover, hcomplete⟩ := hstands
        refine ⟨.complete hcomplete, Or.inr ⟨hover, _, hcomplete.verdict, Or.inr ⟨0, ?_⟩⟩⟩
        rw [hcomplete.brought]
        simp
    | failed e =>
        refine ⟨.broken hstands,
          Or.inr ⟨hp.over_of_failed, _, hp.verdict_failed ch.log, Or.inr ⟨0, ?_⟩⟩⟩
        rw [hstands.brought]
        simp
  · obtain ⟨rfl, rfl, rfl⟩ := hover.pulled hp
    refine ⟨ch, hroot, by rw [hlog, asked_append]; exact (List.append_nil _).symm, hch,
      Or.inr ⟨hover, q, hq, Or.inr ?_⟩⟩
    rw [results_append, results_singleton]
    rcases htold with ⟨hresults, rfl⟩ | ⟨n, hresults⟩
    · exact ⟨0, by rw [hresults]; rfl⟩
    · exact ⟨n + 1, by rw [hresults, List.replicate_succ', List.append_assoc, List.cons_append]⟩

theorem Turns.told {root : Slug} {turns : List Turn} {l : Listing} (h : Turns root turns l) :
    Told root turns l := by
  induction h with
  | start => exact ⟨⟨root, [], []⟩, rfl, rfl, .opened .start, Or.inl ⟨.start, rfl⟩⟩
  | turn _ hp ih => exact ih.pulled hp

/-! ## All of it -/

/-- Numbers that are not too large are written without loss. -/
theorem toNat_pages {n : Nat} (h : n < 2 ^ 32) :
    ((List.range' 1 n).map UInt32.ofNat).map UInt32.toNat = List.range' 1 n := by
  have hid : ∀ i ∈ List.range' 1 n, (UInt32.toNat ∘ UInt32.ofNat) i = id i := fun i hi => by
    rw [List.mem_range'_1] at hi
    exact UInt32.toNat_ofNat_of_lt' (by rw [UInt32.size]; omega)
  rw [List.map_map, List.map_congr_left hid, List.map_id]

theorem Told.waits {root : Slug} {turns : List Turn} {l : Listing} (h : Told root turns l)
    (hb : l.buffer = []) (hphase : l.phase = .paging) :
    results turns = (brought (asked turns)).map Pull.item := by
  obtain ⟨ch, -, hlog, -, ⟨hopen, hresults⟩ | ⟨hover, -⟩⟩ := h
  · rw [hresults, ← hlog]
    cases hopen with
    | start => cases hphase
    | paging hread =>
        obtain rfl := hb
        rw [hread.brought, List.append_nil]
  · rw [hover.1] at hphase
    cases hphase

theorem Told.hands {root : Slug} {turns : List Turn} {l : Listing} (h : Told root turns l) :
    results turns <+: (brought (asked turns)).map Pull.item ++
      ((verdictOf (asked turns)).toList ++ List.replicate turns.length .finished) := by
  obtain ⟨ch, -, hlog, hch, ⟨-, hresults⟩ | ⟨-, p, hp, ⟨hresults, rfl⟩ | ⟨n, hresults⟩⟩⟩ := h
  · rw [hresults, ← hlog]
    exact (hch.brought.map Pull.item).trans (List.prefix_append _ _)
  · rw [hresults, ← hlog]
    exact List.prefix_append _ _
  · have hlength : n ≤ turns.length := by
      have hsame := congrArg List.length hresults
      simp only [results, List.length_map, List.length_append, List.length_cons,
        List.length_replicate] at hsame
      omega
    rw [hresults, ← hlog, hp, List.prefix_append_right_inj, Option.toList_some,
      List.singleton_append, List.prefix_cons_inj]
    exact ⟨_, by rw [List.replicate_append_replicate, Nat.add_sub_cancel' hlength]⟩

theorem Told.goes {root : Slug} {turns : List Turn} {l : Listing} (h : Told root turns l)
    (hgoing : verdictOf (asked turns) = none) :
    turns.length ≤ (brought (asked turns)).length := by
  obtain ⟨ch, -, hlog, hch, ⟨-, hresults⟩ | ⟨-, p, hp, -⟩⟩ := h
  · have hlength := congrArg List.length hresults
    rw [results, List.length_map, List.length_map] at hlength
    rw [hlength, ← hlog]
    exact hch.brought.length_le
  · rw [← hlog, hp] at hgoing
    cases hgoing

/-- **A listing hands out exactly what comes, and asks for it only when it is wanted.**  Whatever
the service answers, and however its answers change from call to call: any number of turns bring the
record and then the forks on pages 1, 2, … in order, up to the first empty page or the first failure,
and each turn asks for one page at most, after everything before it was handed out.  How many forks
the record counts matters only as far as whether there are any. -/
theorem turns_exact {σ : Type} (F : Forge σ) (root : Slug) (n : Nat) (s : σ)
    (hpages : fullPages root (asked (turns F n (.start root) s)) < 2 ^ 32 - 1) :
    Exact root (turns F n (.start root) s) := by
  obtain ⟨l, h⟩ := turns_of_watched F n s (@Turns.start root)
  rw [List.nil_append] at h
  obtain ⟨ch, rfl, hlog, hch, -⟩ := h.told
  refine ⟨?requests, ?forked, ?stops, h.told.hands, h.told.goes, ?waits⟩
  case requests =>
    rw [← hlog] at hpages ⊢
    rw [hch.requests]
    rcases hch.callsAbout (Slug.same_refl _) with hnone | ⟨m, hm, hcalls⟩
    · exact Or.inl hnone
    · refine Or.inr ⟨(List.range' 1 m).map UInt32.ofNat, ?_, ?_⟩
      · rw [hcalls, Call.pages, List.map_map]
        rfl
      · -- All pages but the last had something on them, so every number fits.
        rw [toNat_pages (by omega), List.length_map, List.length_range']
  case forked =>
    rw [← hlog]
    exact fun x hx hpage => hch.forked hx hpage
  case stops =>
    rw [← hlog]
    exact hch.verdict
  case waits =>
    intro before turn after heq
    obtain ⟨l₁, l₂, hbefore, hp⟩ := h.split heq
    refine ⟨hp.pageCalls.1, fun hpage => ?_⟩
    obtain ⟨hbuffer, hphase⟩ := hp.pageCalls.2 hpage
    exact hbefore.told.waits hbuffer hphase

end Listing

/-- A repository that counts nine forks and lists three, two to a page. -/
def Catalog.miscounted : Catalog :=
  ((((Catalog.empty.withFork ⟨"a", "r"⟩ ⟨"b", "r"⟩).withFork ⟨"a", "r"⟩ ⟨"c", "r"⟩).withFork
    ⟨"a", "r"⟩ ⟨"d", "r"⟩).withForkCount ⟨"a", "r"⟩ 9).withPageSize 2

namespace Listing

/-- Six turns of a listing of it. -/
def turnsOfMiscounted : List Turn :=
  turns (Catalog.forge fun _ => 0) 6 (.start ⟨"a", "r"⟩) ([], Catalog.miscounted)

/-- The list ends with the third page, which is asked for in the fifth turn. -/
theorem turns_exact_miscounted :
    fullPages ⟨"a", "r"⟩ (asked turnsOfMiscounted) < 2 ^ 32 - 1 ∧
      Exact ⟨"a", "r"⟩ turnsOfMiscounted ∧
      turnsOfMiscounted.map (fun turn => pageCalls turn.asked) = [0, 1, 0, 1, 1, 0] ∧
      turnsOfMiscounted.map (fun turn => turn.result.record?.map Repository.owner) =
        [some "a", some "b", some "c", some "d", none, none] := by
  have hpages : fullPages ⟨"a", "r"⟩ (asked turnsOfMiscounted) < 2 ^ 32 - 1 := by decide +kernel
  exact ⟨hpages, turns_exact _ _ _ _ hpages, by decide +kernel, by decide +kernel⟩

end Listing

end ForkCensus
