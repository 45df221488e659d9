import ForkCensus.Proofs.Forge.Transcript

/-
# What a discovery can do

Against a service of which nothing is known, a discovery is a transition
system: each step appends something to the transcript, and the reply that
it gets may be any.  `Listing.Pulled` and `Crawl.Stepped` list the
transitions, guards included, once for all; `pull_watched` and
`step_watched` say that a watched service allows no others.

A `Course` is a sequence of such steps from a given survey, with what each
step brought and the transcript of them all.  Pulling (`pull_course`),
pulling again and again (`pulls_course`) and draining (`drain_course`)
follow a course.  So what holds along every course holds of every run
against every service, and is proved by induction on the course.
-/

namespace ForkCensus

/-- What the quota gate leaves in a transcript when it opens: a wait, exactly when the quota asks
for one. -/
inductive Gate.Passed : List Exchange → Prop
  | free {q : Quota} {time : Int64} : q.wait time = none → Passed [.quota (.ok q) time]
  | waited {q : Quota} {time : Int64} {seconds : UInt64} :
      q.wait time = some seconds → Passed [.quota (.ok q) time, .pause seconds]

theorem Gate.Passed.quiet {g : List Exchange} (h : Gate.Passed g) : Exchange.Quiet g := by
  cases h with
  | free => exact Exchange.quiet_quota _ _
  | waited =>
      simp [Exchange.Quiet, Exchange.isRequest, Exchange.isPage, Exchange.call, Call.isRepository,
        Call.page?]

/-- The quota gate of a watched service: its one question fails, or it opens. -/
theorem Forge.awaitQuota_watched {σ : Type} (F : Forge σ) (log : List Exchange) (s : σ) :
    (∃ e time t, F.watched.awaitQuota (log, s) = (.error e, log ++ [.quota (.error e) time], t)) ∨
      ∃ g t, Gate.Passed g ∧ F.watched.awaitQuota (log, s) = (.ok (), log ++ g, t) := by
  rcases hq : F.quota s with ⟨reply, t⟩
  simp only [Gate.awaitQuota, watched, hq]
  cases reply with
  | error e => exact Or.inl ⟨e, _, _, rfl⟩
  | ok q =>
      dsimp only
      cases hw : q.wait (F.now t) with
      | none => exact Or.inr ⟨_, _, .free hw, rfl⟩
      | some seconds =>
          have hlog (x y : Exchange) : log ++ [x] ++ [y] = log ++ [x, y] := by simp
          exact Or.inr ⟨_, _, .waited hw, by rw [← hlog]⟩

/-! ## Pulling a listing -/

/-- What stands before a page in a transcript: the gate, where the last page asked for it. -/
def Listing.PageGate (spent : Bool) (g : List Exchange) : Prop :=
  if spent then Gate.Passed g else g = []

theorem Listing.PageGate.quiet {spent : Bool} {g : List Exchange} (h : PageGate spent g) :
    Exchange.Quiet g := by
  cases spent with
  | false => rw [show g = [] from h]; exact Exchange.quiet_nil
  | true => exact Gate.Passed.quiet h

/-- The ways in which one pull can go: what it brings, the listing afterwards, and what it adds to
the transcript. -/
inductive Listing.Pulled (l : Listing) : Pull → Listing → List Exchange → Prop
  | buffered {r : Repository} {rest : List Repository} :
      l.buffer = r :: rest → Pulled l (.item r) { l with buffer := rest } []
  | idle : l.buffer = [] → l.phase = .over → Pulled l .finished l []
  | rootUngated {e : ApiError} {time : Int64} : l.buffer = [] → l.phase = .start →
      Pulled l (.failed e) l.close [.quota (.error e) time]
  | rootFailed {e : ApiError} {g : List Exchange} : l.buffer = [] → l.phase = .start →
      Gate.Passed g → Pulled l (.failed e) l.close (g ++ [.repository l.root (.error e)])
  | root {a : Answer Repository} {g : List Exchange} : l.buffer = [] → l.phase = .start →
      Gate.Passed g →
      Pulled l (.item a.value) { l with phase := if a.value.hasForks then .paging else .over }
        (g ++ [.repository l.root (.ok a)])
  | pageUngated {e : ApiError} {time : Int64} : l.buffer = [] → l.phase = .paging →
      l.quotaSpent = true → Pulled l (.failed e) l.close [.quota (.error e) time]
  | pageFailed {e : ApiError} {g : List Exchange} : l.buffer = [] → l.phase = .paging →
      PageGate l.quotaSpent g →
      Pulled l (.failed e) l.close (g ++ [.forkPage l.root l.nextPage (.error e)])
  | lastPage {spent : Bool} {g : List Exchange} : l.buffer = [] → l.phase = .paging →
      PageGate l.quotaSpent g →
      Pulled l .finished l.close (g ++ [.forkPage l.root l.nextPage (.ok ⟨[], spent⟩)])
  | page {r : Repository} {rest : List Repository} {spent : Bool} {g : List Exchange} :
      l.buffer = [] → l.phase = .paging → PageGate l.quotaSpent g →
      Pulled l (.item r)
        { l with nextPage := l.nextPage + 1, buffer := rest, quotaSpent := spent }
        (g ++ [.forkPage l.root l.nextPage (.ok ⟨r :: rest, spent⟩)])

namespace Listing

variable {σ : Type} (F : Forge σ)

theorem awaitPage_watched (l : Listing) (log : List Exchange) (s : σ) :
    (∃ e time t, l.quotaSpent = true ∧
      l.awaitPage F.watched (log, s) = (.error e, log ++ [.quota (.error e) time], t)) ∨
      ∃ g t, PageGate l.quotaSpent g ∧
        l.awaitPage F.watched (log, s) = (.ok (), log ++ g, t) := by
  unfold awaitPage PageGate
  cases l.quotaSpent with
  | false => exact Or.inr ⟨[], s, rfl, by simp⟩
  | true =>
      rcases F.awaitQuota_watched log s with ⟨e, time, t, h⟩ | ⟨g, t, hg, h⟩
      · exact Or.inl ⟨e, time, t, rfl, h⟩
      · exact Or.inr ⟨g, t, hg, h⟩

theorem pullRoot_watched {l : Listing} (hb : l.buffer = []) (hp : l.phase = .start)
    (log : List Exchange) (s : σ) : ∃ p l' g t,
      l.pullRoot F.watched (log, s) = (p, l', log ++ g, t) ∧ l.Pulled p l' g := by
  have hnote : F.watched.note (.fetchingRepository l.root) (log, s) =
      (log, F.note (.fetchingRepository l.root) s) := rfl
  unfold pullRoot
  rw [hnote]
  rcases F.awaitQuota_watched log (F.note (.fetchingRepository l.root) s) with
    ⟨e, time, t, h⟩ | ⟨g, t, hg, h⟩
  · rw [h]
    exact ⟨_, _, _, _, rfl, .rootUngated hb hp⟩
  · rw [h]
    rcases hr : F.repository l.root t with ⟨reply, u⟩
    simp only [Forge.watched, hr]
    cases reply with
    | error e => exact ⟨_, _, _, u, by rw [List.append_assoc], .rootFailed hb hp hg⟩
    | ok a => exact ⟨_, _, _, u, by rw [List.append_assoc], .root hb hp hg⟩

theorem pullPage_watched {l : Listing} (hb : l.buffer = []) (hp : l.phase = .paging)
    (log : List Exchange) (s : σ) : ∃ p l' g t,
      l.pullPage F.watched (log, s) = (p, l', log ++ g, t) ∧ l.Pulled p l' g := by
  unfold pullPage
  rcases l.awaitPage_watched F log s with ⟨e, time, t, hs, h⟩ | ⟨g, t, hg, h⟩
  · rw [h]
    exact ⟨_, _, _, _, rfl, .pageUngated hb hp hs⟩
  · rw [h]
    rcases hr : F.forkPage l.root l.nextPage t with ⟨reply, u⟩
    simp only [Forge.watched, hr]
    cases reply with
    | error e => exact ⟨_, _, _, u, by rw [List.append_assoc], .pageFailed hb hp hg⟩
    | ok a =>
        obtain ⟨records, spent⟩ := a
        cases records with
        | nil => exact ⟨_, _, _, _, by rw [List.append_assoc], .lastPage hb hp hg⟩
        | cons r rest => exact ⟨_, _, _, _, by rw [List.append_assoc], .page hb hp hg⟩

/-- **A pull of a watched service is one of the transitions.** -/
theorem pull_watched (l : Listing) (log : List Exchange) (s : σ) : ∃ p l' g t,
    l.pull F.watched (log, s) = (p, l', log ++ g, t) ∧ l.Pulled p l' g := by
  unfold pull
  cases hb : l.buffer with
  | cons r rest => exact ⟨_, _, [], s, by rw [List.append_nil], .buffered hb⟩
  | nil =>
      cases hp : l.phase with
      | start => exact pullRoot_watched F hb hp log s
      | paging => exact pullPage_watched F hb hp log s
      | «over» => exact ⟨_, _, [], s, by rw [List.append_nil], .idle hb hp⟩

end Listing

/-! ## Stepping a crawl -/

/-- The ways in which one step of a crawl can go. -/
inductive Crawl.Stepped (c : Crawl) : Move → Crawl → List Exchange → Prop
  | finished : c.current = none → c.stack = [] → Stepped c .finished c []
  | skipped {k : Slug} {stack : List Slug} : c.current = none → c.stack = k :: stack →
      c.listed.contains k = true → Stepped c .passed { c with stack } []
  | begun {k : Slug} {stack : List Slug} : c.current = none → c.stack = k :: stack →
      c.listed.contains k = false →
      Stepped c .passed
        { c with stack, listed := ⟨k :: c.listed.members⟩, current := some (.start k) } []
  | failed {l l' : Listing} {e : ApiError} {g : List Exchange} : c.current = some l →
      l.Pulled (.failed e) l' g → Stepped c (.failed e) c.close g
  | ended {l l' : Listing} {g : List Exchange} : c.current = some l →
      l.Pulled .finished l' g → Stepped c .passed { c with current := none } g
  | repeated {l l' : Listing} {r : Repository} {g : List Exchange} : c.current = some l →
      l.Pulled (.item r) l' g → c.seen.contains r.slug = true →
      Stepped c .passed ({ c with current := some l' }.push r) g
  | found {l l' : Listing} {r : Repository} {g : List Exchange} : c.current = some l →
      l.Pulled (.item r) l' g → c.seen.contains r.slug = false →
      Stepped c (.item r)
        { { c with current := some l' }.push r with seen := ⟨r.slug :: c.seen.members⟩ } g

namespace Crawl

@[simp] theorem push_listed (c : Crawl) (r : Repository) : (c.push r).listed = c.listed := by
  unfold push
  split <;> rfl

@[simp] theorem push_seen (c : Crawl) (r : Repository) : (c.push r).seen = c.seen := by
  unfold push
  split <;> rfl

@[simp] theorem push_current (c : Crawl) (r : Repository) : (c.push r).current = c.current := by
  unfold push
  split <;> rfl

/-- **A step against a watched service is one of the transitions.** -/
theorem step_watched {σ : Type} (F : Forge σ) (c : Crawl) (log : List Exchange) (s : σ) :
    ∃ m c' g t, c.step F.watched (log, s) = (m, c', log ++ g, t) ∧ c.Stepped m c' g := by
  cases hcur : c.current with
  | none =>
      have hstep : c.step F.watched (log, s) = c.descend F.watched (log, s) := by
        simp only [step, hcur]
      rw [hstep]
      unfold descend
      cases hstack : c.stack with
      | nil => exact ⟨_, _, [], s, by rw [List.append_nil], .finished hcur hstack⟩
      | cons k stack =>
          cases hk : c.listed.contains k with
          | true =>
              simp only [SlugSet.insert_old hk]
              exact ⟨_, _, [], s, by rw [List.append_nil], .skipped hcur hstack hk⟩
          | false =>
              simp only [SlugSet.insert_new hk]
              exact ⟨_, _, [], _, by rw [List.append_nil]; rfl, .begun hcur hstack hk⟩
  | some l =>
      obtain ⟨p, l', g, t, hpull, h⟩ := l.pull_watched F log s
      simp only [step, hcur, hpull]
      cases p with
      | finished => exact ⟨_, _, g, t, rfl, .ended hcur h⟩
      | failed e => exact ⟨_, _, g, t, rfl, .failed hcur h⟩
      | item r =>
          simp only [take, push_seen]
          cases hr : c.seen.contains r.slug with
          | true =>
              simp only [SlugSet.insert_old hr]
              exact ⟨_, _, g, t, rfl, .repeated hcur h hr⟩
          | false =>
              simp only [SlugSet.insert_new hr]
              exact ⟨_, _, g, t, rfl, .found hcur h hr⟩

end Crawl

/-! ## Courses -/

/-- What a pull brings, as what a step brings. -/
def Pull.move : Pull → Move
  | .item r => .item r
  | .finished => .finished
  | .failed e => .failed e

/-- The record that a pull hands out. -/
def Pull.record? : Pull → Option Repository
  | .item r => some r
  | _ => none

/-- The record that a step hands out. -/
def Move.record? : Move → Option Repository
  | .item r => some r
  | _ => none

/-- How a survey ends with a step, if it does. -/
def Move.ending? : Move → Option Ending
  | .finished => some .complete
  | .failed e => some (.broken e)
  | _ => none

namespace Survey

variable {σ : Type} {F : Forge σ}

/-- The ways in which one step of a survey can go. -/
inductive Stepped : Survey → Move → Survey → List Exchange → Prop
  | direct {l l' : Listing} {p : Pull} {g : List Exchange} :
      l.Pulled p l' g → Stepped (.direct l) p.move (.direct l') g
  | recursive {c c' : Crawl} {m : Move} {g : List Exchange} :
      c.Stepped m c' g → Stepped (.recursive c) m (.recursive c') g

theorem step_watched (F : Forge σ) (v : Survey) (log : List Exchange) (s : σ) : ∃ m v' g t,
    v.step F.watched (log, s) = (m, v', log ++ g, t) ∧ v.Stepped m v' g := by
  cases v with
  | direct l =>
      obtain ⟨p, l', g, t, hpull, h⟩ := l.pull_watched F log s
      simp only [step, hpull]
      cases p with
      | item r => exact ⟨_, _, g, t, rfl, .direct h⟩
      | finished => exact ⟨_, _, g, t, rfl, .direct h⟩
      | failed e => exact ⟨_, _, g, t, rfl, .direct h⟩
  | recursive c =>
      obtain ⟨m, c', g, t, hstep, h⟩ := c.step_watched F log s
      simp only [step, hstep]
      exact ⟨m, _, g, t, rfl, .recursive h⟩

/-- A number of steps from `v₀`: what each of them brought, the survey after them, and the
transcript of them all. -/
inductive Course (v₀ : Survey) : List Move → Survey → List Exchange → Prop
  | start : Course v₀ [] v₀ []
  | step {moves : List Move} {v v' : Survey} {log g : List Exchange} {m : Move} :
      Course v₀ moves v log → v.Stepped m v' g → Course v₀ (moves ++ [m]) v' (log ++ g)

/-- A pull passes over something a number of times, and then brings its result if the budget
lasts. -/
theorem pull_course {v₀ : Survey} : ∀ (budget : Nat) {moves : List Move} {v : Survey}
    {log : List Exchange} (s : σ), Course v₀ moves v log →
    ∃ n result v' log' t, v.pull F.watched budget (log, s) = (result, v', log', t) ∧
      Course v₀ (moves ++ (List.replicate n .passed ++ (result.map Pull.move).toList)) v' log' ∧
      (result = none → n = budget)
  | 0, moves, v, log, s, h => ⟨0, none, v, log, s, rfl, by simpa using h, fun _ => rfl⟩
  | budget + 1, moves, v, log, s, h => by
      obtain ⟨m, v', g, t, hstep, hst⟩ := v.step_watched F log s
      have h' := h.step hst
      simp only [pull, hstep]
      cases m with
      | item r => exact ⟨0, _, _, _, _, rfl, h', fun h => (Option.some_ne_none _ h).elim⟩
      | finished => exact ⟨0, _, _, _, _, rfl, h', fun h => (Option.some_ne_none _ h).elim⟩
      | failed e => exact ⟨0, _, _, _, _, rfl, h', fun h => (Option.some_ne_none _ h).elim⟩
      | passed =>
          obtain ⟨n, result, w, log', u, hpull, hw, hnone⟩ := pull_course budget t h'
          refine ⟨n + 1, result, w, log', u, hpull, ?_, fun hresult => by rw [hnone hresult]⟩
          simpa [List.replicate_succ] using hw

/-- A step that does not end the survey leaves its ending to the steps after it. -/
theorem ending_cons {m : Move} (hm : m.ending? = none) (moves : List Move) :
    (m :: moves).getLast?.bind Move.ending? = moves.getLast?.bind Move.ending? := by
  cases moves with
  | nil => exact hm
  | cons => rw [List.getLast?_cons_cons]

/-- Draining follows a course to where the survey ends, unless that takes more steps than the budget
has. -/
theorem drain_course {v₀ : Survey} : ∀ (budget : Nat) {moves : List Move} {v : Survey}
    {log : List Exchange} (s : σ), Course v₀ moves v log →
    ∃ moves' rest log' t, v.drain F.watched budget (log, s) =
        (moves'.filterMap Move.record?, moves'.getLast?.bind Move.ending?, rest, log', t) ∧
      Course v₀ (moves ++ moves') rest log' ∧
      (moves'.getLast?.bind Move.ending? = none →
        moves'.length = budget ∧ ∀ m ∈ moves', m.ending? = none)
  | 0, moves, v, log, s, h => ⟨[], v, log, s, rfl, by simpa using h, by simp⟩
  | budget + 1, moves, v, log, s, h => by
      obtain ⟨m, v', g, t, hstep, hst⟩ := v.step_watched F log s
      have h' := h.step hst
      simp only [drain, hstep]
      cases m with
      | finished => exact ⟨[.finished], _, _, _, rfl, h', by simp [Move.ending?]⟩
      | failed e => exact ⟨[.failed e], _, _, _, rfl, h', by simp [Move.ending?]⟩
      | item r =>
          obtain ⟨moves', rest, log', u, hdrain, hrest, hnone⟩ := drain_course budget t h'
          have hlast := ending_cons (m := .item r) rfl moves'
          refine ⟨.item r :: moves', rest, log', u, ?_, by simpa using hrest, fun hend => ?_⟩
          · simp only [hdrain, hlast]
            rfl
          · obtain ⟨hlength, hends⟩ := hnone (hlast ▸ hend)
            exact ⟨by rw [List.length_cons, hlength], List.forall_mem_cons.mpr ⟨rfl, hends⟩⟩
      | passed =>
          obtain ⟨moves', rest, log', u, hdrain, hrest, hnone⟩ := drain_course budget t h'
          have hlast := ending_cons (m := .passed) rfl moves'
          refine ⟨.passed :: moves', rest, log', u, ?_, by simpa using hrest, fun hend => ?_⟩
          · simp only [hdrain, hlast]
            rfl
          · obtain ⟨hlength, hends⟩ := hnone (hlast ▸ hend)
            exact ⟨by rw [List.length_cons, hlength], List.forall_mem_cons.mpr ⟨rfl, hends⟩⟩

/-- What a number of pulls come to: the result of each, the survey and the service after them.  The
result `none` is that of a pull whose budget did not last; the next pull goes on with it. -/
structure Pulls (σ : Type) where
  results : List (Option Pull)
  survey : Survey
  state : σ

/-- Pulls once for each budget. -/
def pulls (F : Forge σ) : List Nat → Survey → σ → Pulls σ
  | [], v, s => ⟨[], v, s⟩
  | budget :: budgets, v, s =>
    let (result, v', t) := v.pull F budget s
    let later := pulls F budgets v' t
    { later with results := result :: later.results }

/-- The records that were handed out. -/
def Pulls.records (p : Pulls σ) : List Repository :=
  p.results.filterMap fun result => result.bind Pull.record?

/-- Whether no pull is under way. -/
def Pulls.Returned (p : Pulls σ) : Prop :=
  p.results.getLast? ≠ some none

/-- What a step brought to whoever pulls. -/
def Move.pull? : Move → Option Pull
  | .item r => some (.item r)
  | .finished => some .finished
  | .failed e => some (.failed e)
  | .passed => none

theorem pull?_passed (n : Nat) : (List.replicate n Move.passed).filterMap Move.pull? = [] := by
  simp [Move.pull?]

theorem pull?_result (result : Option Pull) :
    (result.map Pull.move).toList.filterMap Move.pull? = result.toList := by
  cases result with
  | none => rfl
  | some p => cases p <;> rfl

/-- Pulls in a row follow a course; the last one, if it has returned, is its last step. -/
theorem pulls_course {v₀ : Survey} : ∀ (budgets : List Nat) {moves : List Move} {v : Survey}
    {log : List Exchange} (s : σ), Course v₀ moves v log →
    ∃ moves', Course v₀ (moves ++ moves') (v.pulls F.watched budgets (log, s)).survey
        (v.pulls F.watched budgets (log, s)).state.1 ∧
      (v.pulls F.watched budgets (log, s)).results.filterMap id = moves'.filterMap Move.pull? ∧
      ((v.pulls F.watched budgets (log, s)).results = [] → moves' = []) ∧
      ∀ p, (v.pulls F.watched budgets (log, s)).results.getLast? = some (some p) →
        moves'.getLast? = some p.move
  | [], moves, v, log, s, h => ⟨[], by simpa [pulls] using h, rfl, fun _ => rfl, nofun⟩
  | budget :: budgets, moves, v, log, s, h => by
      obtain ⟨n, result, v', log', t, hpull, h', -⟩ := pull_course (F := F) budget s h
      obtain ⟨moves', hcourse, hresults, hnil, hlast⟩ := pulls_course budgets t h'
      simp only [pulls, hpull]
      refine ⟨_, by simpa only [List.append_assoc] using hcourse, ?_, nofun, fun p hp => ?_⟩
      · rw [List.filterMap_append, List.filterMap_append, pull?_passed, pull?_result, ← hresults]
        cases result <;> rfl
      · cases hres : (v'.pulls F.watched budgets (log', t)).results with
        | nil =>
            rw [hres] at hp
            obtain rfl : result = some p := by simpa using hp
            rw [hnil hres]
            simp
        | cons x xs =>
            rw [hres, List.getLast?_cons_cons, ← hres] at hp
            rw [List.getLast?_append, List.getLast?_append, hlast p hp]
            rfl

/-- The records handed out are those of the steps. -/
theorem records_of_results {results : List (Option Pull)} {moves : List Move}
    (h : results.filterMap id = moves.filterMap Move.pull?) :
    results.filterMap (fun result => result.bind Pull.record?) =
      moves.filterMap Move.record? := by
  have hleft : results.filterMap (fun result => result.bind Pull.record?) =
      (results.filterMap id).filterMap Pull.record? := by
    rw [List.filterMap_filterMap]
    rfl
  rw [hleft, h, List.filterMap_filterMap]
  congr 1
  funext m
  cases m <;> rfl

/-- A failure among the steps is one among the results. -/
theorem failed_of_results {results : List (Option Pull)} {moves : List Move}
    (h : results.filterMap id = moves.filterMap Move.pull?) {e : ApiError}
    (hm : .failed e ∈ moves) : some (.failed e) ∈ results := by
  have hmem : Pull.failed e ∈ results.filterMap id := by
    rw [h]
    exact List.mem_filterMap.mpr ⟨_, hm, rfl⟩
  obtain ⟨result, hresult, hid⟩ := List.mem_filterMap.mp hmem
  rwa [show result = some (.failed e) from hid] at hresult

theorem pulls_returned {v₀ : Survey} {budgets : List Nat} {s : σ}
    (h : (v₀.pulls F.watched budgets ([], s)).Returned) :
    ∃ moves, Course v₀ moves (v₀.pulls F.watched budgets ([], s)).survey
        (v₀.pulls F.watched budgets ([], s)).state.1 ∧
      moves.getLast? ≠ some .passed := by
  obtain ⟨moves, hcourse, -, hnil, hlast⟩ := pulls_course (F := F) budgets s (@Course.start v₀)
  refine ⟨moves, hcourse, fun hm => ?_⟩
  cases hres : (v₀.pulls F.watched budgets ([], s)).results.getLast? with
  | none =>
      rw [hnil (List.getLast?_eq_none_iff.mp hres)] at hm
      cases hm
  | some result =>
      cases result with
      | none => exact h hres
      | some p =>
          rw [hlast p hres] at hm
          cases p <;> cases hm

/-! ## Induction on a course -/

/-- What holds of a crawl at the start of a course and is kept by its steps, holds at the end. -/
theorem Course.crawl {P : List Move → Crawl → List Exchange → Prop} {c₀ : Crawl}
    (start : P [] c₀ [])
    (step : ∀ {moves c log m c' g}, P moves c log → c.Stepped m c' g →
      P (moves ++ [m]) c' (log ++ g)) {moves : List Move} {v : Survey} {log : List Exchange}
    (h : Course (.recursive c₀) moves v log) : ∃ c, v = .recursive c ∧ P moves c log := by
  induction h with
  | start => exact ⟨c₀, rfl, start⟩
  | step _ hst ih =>
      obtain ⟨c, rfl, hc⟩ := ih
      cases hst with
      | recursive h => exact ⟨_, rfl, step hc h⟩

/-- What holds of a listing at the start of a course and is kept by its pulls, holds at the end. -/
theorem Course.listing {P : List Move → Listing → List Exchange → Prop} {l₀ : Listing}
    (start : P [] l₀ [])
    (step : ∀ {moves l log p l' g}, P moves l log → l.Pulled p l' g →
      P (moves ++ [p.move]) l' (log ++ g)) {moves : List Move} {v : Survey} {log : List Exchange}
    (h : Course (.direct l₀) moves v log) : ∃ l, v = .direct l ∧ P moves l log := by
  induction h with
  | start => exact ⟨l₀, rfl, start⟩
  | step _ hst ih =>
      obtain ⟨l, rfl, hl⟩ := ih
      cases hst with
      | direct h => exact ⟨_, rfl, step hl h⟩

end Survey

end ForkCensus
