import Mathlib.Logic.Function.Basic
import ForkCensus.Proofs.Build.Simulation
import ForkCensus.Proofs.Client.Answers
import ForkCensus.Proofs.Discovery.Course

/-
# Limits that cannot be seen

A server may turn a request down once or twice because the quota is used
up, before it gives its answer.  To a discovery, and to a build, it is the
same as a server that gives the answer at once (`Client.limits_unseen`).

What carries this is how often in a row each address was turned down:
`Client.Limiting` says how it counts, and `Limiting.attempt` that the
attempts a client has left are enough, since together with the refusals
so far they are never fewer than three.
-/

namespace ForkCensus

/-- The results of pulls on services that match everywhere and in every failure. -/
theorem Forge.Match.pulls {σ τ : Type} {R : σ → τ → Prop} {F : Forge σ} {G : Forge τ}
    (M : Match (fun _ => True) Eq R F G) (budgets : List Nat) :
    ∀ (v : Survey) {s : σ} {t : τ}, R s t →
      (v.pulls F budgets s).results = (v.pulls G budgets t).results := by
  induction budgets with
  | nil => exact fun _ _ _ _ => rfl
  | cons budget budgets ih =>
      intro v s t h
      obtain ⟨result, p, q, hF, hG, h'⟩ := (M.pull budget v h).split
      obtain ⟨v', s', t', rfl, rfl, hst⟩ := h'.split
      simp only [Survey.pulls, hF, hG]
      exact congrArg (result :: ·) (ih v' hst)

namespace Client

variable {σ τ : Type}

/-- The addresses of records and of pages of forks. -/
inductive Asks (c : Client) : String → Prop
  | repository (k : Slug) : Asks c (c.repositoryUrl k)
  | forkPage (k : Slug) (page : UInt32) : Asks c (c.pageUrl k page)

/-- A server with a fixed reply at each address of a record or a page. -/
structure Steady (c : Client) (W : Http.Web σ) (reply : String → Except String Http.Response) :
    Prop where
  get : ∀ {url}, c.Asks url → ∀ s, ∃ s', W.get ⟨url, c.headers⟩ s = (reply url, s')
  quota : c.TellsQuota W fun _ => True

/-- A server that has turned down `given t url` requests in a row for an address, and gives its reply
after two at the latest. -/
structure Limiting (c : Client) (W : Http.Web τ) (reply : String → Except String Http.Response)
    (given : τ → String → Nat) : Prop where
  get : ∀ {url}, c.Asks url → ∀ t, ∃ r t', W.get ⟨url, c.headers⟩ t = (r, t') ∧
    ((Http.isLimited r = true ∧ given t url < 2 ∧
        given t' = Function.update (given t) url (given t url + 1)) ∨
      (r = reply url ∧ given t' = Function.update (given t) url 0))
  quota : ∀ counts, c.TellsQuota W fun t => given t = counts
  note : ∀ e t, given (W.note e t) = given t
  pause : ∀ seconds t, given (W.pause seconds t) = given t

/-- A server with fixed replies turns nothing down. -/
theorem Steady.limiting {c : Client} {W : Http.Web σ} {reply : String → Except String Http.Response}
    (h : c.Steady W reply) : c.Limiting W reply fun _ _ => 0 where
  get hurl s := by
    obtain ⟨s', hget⟩ := h.get hurl s
    refine ⟨reply _, s', hget, Or.inr ⟨rfl, ?_⟩⟩
    exact (Function.update_eq_self _ _).symm
  quota counts s hs := by
    obtain ⟨r, s', q, hget, hstatus, hquota, -⟩ := h.quota s trivial
    exact ⟨r, s', q, hget, hstatus, hquota, hs⟩
  note _ _ := rfl
  pause _ _ := rfl

namespace Limiting

variable {c : Client} {W : Http.Web τ} {reply : String → Except String Http.Response}
  {given : τ → String → Nat}

/-- The gate opens, and waiting turns nothing down. -/
theorem awaitQuota (h : c.Limiting W reply given) (t : τ) :
    ∃ t', (c.gate W).awaitQuota t = (.ok (), t') ∧ given t' = given t :=
  (h.quota (given t)).awaitQuota (fun e t' ht => (h.note e t').trans ht)
    (fun seconds t' ht => (h.pause seconds t').trans ht) rfl

/-- **The attempts are enough**: with the refusals so far they are three or more. -/
theorem attempt (h : c.Limiting W reply given) {url : String} (hurl : c.Asks url)
    (hreply : Http.isLimited (reply url) = false) : ∀ (left : Nat) (t : τ),
      given t url ≤ 2 → 3 ≤ given t url + left →
        ∃ t', c.attempt W url left t = (settled url (reply url), t') ∧
          given t' = Function.update (given t) url 0 := by
  intro left
  induction left with
  | zero =>
      intro t hgiven hleft
      omega
  | succ left ih =>
      intro t hgiven hleft
      obtain ⟨r, u, hget, hcase⟩ := h.get hurl (W.note (.requesting url) t)
      rw [h.note] at hcase
      rcases hcase with ⟨hlimited, hlt, hu⟩ | ⟨rfl, hu⟩
      · -- Turned down: one attempt less, and one refusal more.
        obtain ⟨v, hgate, hv⟩ := h.awaitQuota (W.note (.requestLimited url (attempts - left)) u)
        rw [h.note, hu] at hv
        have hcount : given v url = given t url + 1 := by rw [hv, Function.update_self]
        obtain ⟨t', hattempt, ht'⟩ := ih v (by omega) (by omega)
        refine ⟨t', (attempt_limited hget hlimited hgate).trans hattempt, ?_⟩
        rw [ht', hv, Function.update_idem]
      · exact ⟨u, attempt_settled left hget hreply, hu⟩

/-- Every question is answered with the server's reply, and no refusals in a row are left. -/
theorem ask (h : c.Limiting W reply given) {url : String} (hurl : c.Asks url)
    (hreply : Http.isLimited (reply url) = false) {α : Type} (take? : Json → Option α) {t : τ}
    (ht : given t = fun _ => 0) :
    ∃ t', c.ask W take? url t = (answered take? url (reply url), t') ∧ given t' = fun _ => 0 := by
  have hzero : given t url = 0 := congrFun ht url
  obtain ⟨t', hattempt, ht'⟩ := h.attempt hurl hreply attempts t (by omega)
    (by rw [hzero]; decide)
  refine ⟨t', ask_of_fetch hattempt, ?_⟩
  rw [ht', ht]
  exact Function.update_eq_self url fun _ => 0

end Limiting

/-- Servers with the same replies match, whatever they turn down on the way. -/
theorem Limiting.matches {c : Client} {W : Http.Web σ} {W' : Http.Web τ}
    {reply : String → Except String Http.Response} {given : σ → String → Nat}
    {given' : τ → String → Nat} (h : c.Limiting W reply given) (h' : c.Limiting W' reply given')
    (hreply : ∀ url, c.Asks url → Http.isLimited (reply url) = false) :
    Forge.Match (fun _ => True) Eq (fun s t => (given s = fun _ => 0) ∧ given' t = fun _ => 0)
      (c.forge W) (c.forge W') := by
  have hask : ∀ {α : Type} (take? : Json → Option α) {url : String} {s : σ} {t : τ}, c.Asks url →
      (given s = fun _ => 0) ∧ (given' t = fun _ => 0) →
        Agree (fun s t => (given s = fun _ => 0) ∧ given' t = fun _ => 0)
          (c.ask W take? url s) (c.ask W' take? url t) := by
    intro α take? url s t hurl hst
    obtain ⟨s', hs, hs'⟩ := h.ask hurl (hreply url hurl) take? hst.1
    obtain ⟨t', ht, ht'⟩ := h'.ask hurl (hreply url hurl) take? hst.2
    rw [hs, ht]
    exact ⟨rfl, hs', ht'⟩
  refine ⟨?_, ?_, ?_, ?_⟩
  · exact fun e hst => ⟨(h.note e _).trans hst.1, (h'.note e _).trans hst.2⟩
  · intro s t hst
    obtain ⟨s', hs, hs'⟩ := h.awaitQuota s
    obtain ⟨t', ht, ht'⟩ := h'.awaitQuota t
    rw [show (c.forge W).awaitQuota s = (.ok (), s') from hs,
      show (c.forge W').awaitQuota t = (.ok (), t') from ht]
    exact ⟨.ok trivial, hs'.trans hst.1, ht'.trans hst.2⟩
  · exact fun {s t k} _ hst => Forge.Alike.sameReply (fun _ => trivial) (hask _ (.repository k) hst)
  · exact fun {s t k} page _ hst =>
      Forge.Alike.sameReply (fun _ _ _ => trivial) (hask _ (.forkPage k page) hst)

/-- **Limits that are over in time cannot be seen.**  One server has a fixed reply at each address of
a record or a page of forks, which is not that the quota is used up; another turns down each such
request up to twice before it gives that reply, as often as it likes.  Both tell the quota.  Then
pulls, whole surveys and builds are the same on both: records, failures, lines and files. -/
theorem limits_unseen (c : Client) (W : Http.Web σ) (W' : Http.Web τ)
    (reply : String → Except String Http.Response) (given : τ → String → Nat) (s : σ) (t : τ)
    (hsteady : c.Steady W reply) (hlimiting : c.Limiting W' reply given)
    (hreply : ∀ url, c.Asks url → Http.isLimited (reply url) = false)
    (hrest : ∀ url, given t url = 0) :
    (∀ root recursive budgets,
        ((Survey.start root recursive).pulls (c.forge W) budgets s).results =
          ((Survey.start root recursive).pulls (c.forge W') budgets t).results) ∧
      (∀ root recursive budget,
        ((Survey.start root recursive).collect (c.forge W) budget s).1 =
          ((Survey.start root recursive).collect (c.forge W') budget t).1) ∧
      ∀ budget plan tree,
        (Build.run (c.forge W) budget plan tree s).lines =
            (Build.run (c.forge W') budget plan tree t).lines ∧
          (Build.run (c.forge W) budget plan tree s).outcome =
            (Build.run (c.forge W') budget plan tree t).outcome ∧
          (Build.run (c.forge W) budget plan tree s).tree =
            (Build.run (c.forge W') budget plan tree t).tree := by
  have M := hsteady.limiting.matches hlimiting hreply
  have hst : ((fun _ => 0 : String → Nat) = fun _ => 0) ∧ given t = fun _ => 0 :=
    ⟨rfl, funext hrest⟩
  refine ⟨?_, ?_, ?_⟩
  · exact fun root recursive budgets => M.pulls budgets _ hst
  · intro root recursive budget
    obtain ⟨records, p, q, hF, hG, h'⟩ := (M.drain_eq budget (.start root recursive) hst).split
    obtain ⟨ending, p', q', rfl, rfl, -⟩ := h'.split
    rw [Survey.collect, Survey.collect, hF, hG]
    rcases ending with _ | _ | e <;> rfl
  · intro budget plan tree
    obtain ⟨hlines, houtcome, htree, -⟩ := M.run budget plan tree hst
    exact ⟨hlines, houtcome, htree⟩

/-! ## A server that always turns down twice -/

/-- The quota is told nowhere where records or pages are. -/
theorem Asks.ne_quotaUrl {c : Client} {url : String} (h : c.Asks url) : url ≠ c.quotaUrl := by
  have hrepos : ∀ rest : String, c.base ++ ("/repos/" ++ rest) ≠ c.quotaUrl := by
    intro rest heq
    have hlist := congrArg String.toList heq
    simp [quotaUrl_eq] at hlist
  cases h with
  | repository k =>
      rw [repositoryUrl_eq, String.append_assoc, String.append_assoc, String.append_assoc]
      exact hrepos _
  | forkPage k page =>
      rw [pageUrl_eq]
      simp only [String.append_assoc]
      exact hrepos _

theorem isLimited_reply {status : UInt16} (h : status ≠ 403) (headers : List Http.Header)
    (tokens : List Json.Token) : Http.isLimited (.ok (reply status headers tokens)) = false := by
  rw [reply, Http.isLimited, decide_eq_false h, Bool.false_and]

/-- The replies of a server with a repository and its fork. -/
def pairReply (url : String) : Except String Http.Response :=
  if url = guest.repositoryUrl ⟨"a", "r"⟩ then
    .ok (reply 200 [] (recordTokens ⟨"a", "r", "", "", "", "", 1, 1⟩))
  else if url = guest.pageUrl ⟨"a", "r"⟩ 1 then
    .ok (reply 200 [] (pageTokens [⟨"b", "r", "", "", "", "", 0, 1⟩]))
  else if url = guest.pageUrl ⟨"a", "r"⟩ 2 then .ok (reply 200 [] (pageTokens []))
  else .ok (reply 404 [] [])

theorem isLimited_pairReply (url : String) : Http.isLimited (pairReply url) = false := by
  unfold pairReply
  split_ifs <;> exact isLimited_reply (by decide) _ _

/-- The reply that tells the quota: there is none left. -/
def quotaReply : Http.Response :=
  reply 200 [] (quotaTokens ⟨0, 0⟩)

/-- A server that gives these replies at once. -/
def pairWeb : Http.Web Unit where
  get r s := (if r.url = guest.quotaUrl then .ok quotaReply else pairReply r.url, s)
  pause _ s := s
  now _ := 0
  note _ s := s

/-- A server that gives them to every third request for an address. -/
def grudgingWeb : Http.Web (String → Nat) where
  get r t :=
    if r.url = guest.quotaUrl then (.ok quotaReply, t)
    else if t r.url < 2 then
      (.ok (reply 403 [.ofText Http.remainingHeader "0"] []),
        Function.update t r.url (t r.url + 1))
    else (pairReply r.url, Function.update t r.url 0)
  pause _ t := t
  now _ := 0
  note _ t := t

theorem decode_quotaReply : decode quotaOf? guest.quotaUrl quotaReply = .ok ⟨0, 0⟩ :=
  (says_quota [] _).decode (fun _ => quotaOf?_of_writesQuota) _

theorem isLimited_refusal :
    Http.isLimited (.ok (reply 403 [.ofText Http.remainingHeader "0"] [])) = true := by
  rw [reply, Http.isLimited, Http.saysQuotaSpent_zero]
  rfl

theorem pairWeb_steady : guest.Steady pairWeb pairReply where
  get {url} hurl s := by
    have hne : url ≠ guest.quotaUrl := hurl.ne_quotaUrl
    refine ⟨s, ?_⟩
    rw [pairWeb]
    simp only [if_neg hne]
  quota s _ := by
    refine ⟨quotaReply, s, ⟨0, 0⟩, ?_, rfl, decode_quotaReply, trivial⟩
    rw [pairWeb]
    simp only [if_true]

theorem grudgingWeb_limiting : guest.Limiting grudgingWeb pairReply id where
  get {url} hurl t := by
    have hne : url ≠ guest.quotaUrl := hurl.ne_quotaUrl
    rw [grudgingWeb]
    simp only [if_neg hne]
    by_cases hlt : t url < 2
    · rw [if_pos hlt]
      exact ⟨_, _, rfl, Or.inl ⟨isLimited_refusal, hlt, rfl⟩⟩
    · rw [if_neg hlt]
      exact ⟨_, _, rfl, Or.inr ⟨rfl, rfl⟩⟩
  quota counts t ht := by
    refine ⟨quotaReply, t, ⟨0, 0⟩, ?_, rfl, decode_quotaReply, ht⟩
    rw [grudgingWeb]
    simp only [if_true]
  note _ _ := rfl
  pause _ _ := rfl

theorem limits_unseen_grudging :
    let plan : Plan := ⟨"out", "idx", ["a/r"], none, "", true, .quiet⟩
    (Build.run (guest.forge grudgingWeb) 100 plan .empty fun _ => 0).outcome =
        some (.ok ⟨"out/livegrep.json", 2, 0⟩) ∧
      (Build.run (guest.forge pairWeb) 100 plan .empty ()).tree =
        (Build.run (guest.forge grudgingWeb) 100 plan .empty fun _ => 0).tree := by
  intro plan
  obtain ⟨-, -, hrun⟩ := limits_unseen guest pairWeb grudgingWeb pairReply id () (fun _ => 0)
    pairWeb_steady grudgingWeb_limiting
    (fun url _ => isLimited_pairReply url) (fun _ => rfl)
  obtain ⟨-, houtcome, htree⟩ := hrun 100 plan .empty
  have hpair : (Build.run (guest.forge pairWeb) 100 plan .empty ()).outcome =
      some (.ok ⟨"out/livegrep.json", 2, 0⟩) := by
    decide +kernel
  exact ⟨houtcome.symm.trans hpair, htree⟩

end Client

end ForkCensus
