import ForkCensus.Forge.Client
import ForkCensus.Proofs.Forge.Simulation
import ForkCensus.Settings.Basic

/-
# One question over HTTP

What comes of a question when its request is answered at once: the
answer's content, or the failure that it stands for (`Client.ask_of_get`).
Only an answer that says that the quota is used up (`Http.isLimited`)
sends the client to the gate and has the request sent again, and the gate
opens wherever the quota is told (`TellsQuota.awaitQuota`).
-/

namespace ForkCensus

/-- Whether a request is turned down because the quota is used up. -/
def Http.isLimited : Except String Http.Response → Bool
  | .ok r => r.status = 403 && Http.saysQuotaSpent r.headers
  | .error _ => false

theorem Http.Header.find?_first (name : String) (value : List UInt8) (rest : List Http.Header) :
    Http.Header.find? name (⟨name, value⟩ :: rest) = some value := by
  have hname : Text.Ascii.same name name = true := by
    rw [Text.Ascii.same, beq_self_eq_true]
  rw [Http.Header.find?, List.find?_cons, hname]
  rfl

theorem Http.saysQuotaSpent_zero :
    Http.saysQuotaSpent [.ofText Http.remainingHeader "0"] = true := by
  rw [Http.saysQuotaSpent, Http.Header.ofText, Http.Header.find?_first]
  decide +kernel

namespace Client

variable {τ : Type} {c : Client} {W : Http.Web τ} {url : String} {s t : τ}
  {reply : Except String Http.Response}

/-! ## Addresses -/

theorem repositoryUrl_eq (c : Client) (k : Slug) :
    c.repositoryUrl k = c.base ++ "/repos/" ++ k.owner ++ "/" ++ k.name := rfl

theorem pageUrl_eq (c : Client) (k : Slug) (page : UInt32) :
    c.pageUrl k page = c.base ++ "/repos/" ++ k.owner ++ "/" ++ k.name ++
      "/forks?per_page=100&page=" ++ toString page := rfl

theorem quotaUrl_eq (c : Client) : c.quotaUrl = c.base ++ "/rate_limit" := rfl

/-- Who asks the public service without credentials. -/
def guest : Client :=
  ⟨none, Settings.publicBase⟩

/-! ## Replies -/

/-- What a reply comes to that does not turn the request down for want of quota. -/
def settled (url : String) : Except String Http.Response → Except ApiError Http.Response
  | .error reason => .error (.network url reason)
  | .ok r => if r.status = 200 then .ok r else .error (.status r.status url)

/-- What a question comes to with such a reply. -/
def answered {α : Type} (take? : Json → Option α) (url : String)
    (reply : Except String Http.Response) : Except ApiError (Answer α) :=
  match settled url reply with
  | .error e => .error e
  | .ok r => (decode take? url r).map fun a => ⟨a, Http.saysQuotaSpent r.headers⟩

theorem send_of_get (h : W.get ⟨url, c.headers⟩ (W.note (.requesting url) s) = (reply, t)) :
    c.send W url s = (reply.mapError (.network url), t) := by
  rw [send, h]
  cases reply <;> rfl

/-- A request that is not turned down is sent once. -/
theorem attempt_settled (left : Nat)
    (h : W.get ⟨url, c.headers⟩ (W.note (.requesting url) s) = (reply, t))
    (hreply : Http.isLimited reply = false) :
    c.attempt W url (left + 1) s = (settled url reply, t) := by
  cases reply with
  | error reason =>
      rw [attempt, send_of_get h]
      rfl
  | ok r =>
      have hsend : c.send W url s = (.ok r, t) := send_of_get h
      have hlimited : (decide (r.status = 403) && Http.saysQuotaSpent r.headers) = false := hreply
      simp only [attempt, hsend, hlimited, settled]
      split <;> rfl

/-- A request that is turned down for want of quota goes to the gate. -/
theorem attempt_gated (left : Nat)
    (h : W.get ⟨url, c.headers⟩ (W.note (.requesting url) s) = (reply, t))
    (hreply : Http.isLimited reply = true) :
    c.attempt W url (left + 1) s =
      match (c.gate W).awaitQuota (W.note (.requestLimited url (attempts - left)) t) with
      | (.error e, u) => (.error e, u)
      | (.ok (), u) => c.attempt W url left u := by
  cases reply with
  | error reason => cases hreply
  | ok r =>
      have hsend : c.send W url s = (.ok r, t) := send_of_get h
      have hlimited : (decide (r.status = 403) && Http.saysQuotaSpent r.headers) = true := hreply
      have hstatus : r.status ≠ 200 := by
        rw [Bool.and_eq_true, decide_eq_true_eq] at hlimited
        rw [hlimited.1]
        decide
      rcases hgate : (c.gate W).awaitQuota (W.note (.requestLimited url (attempts - left)) t) with
        ⟨e | _, u⟩
      · simp only [attempt, hsend, hlimited, if_neg hstatus, if_true, hgate]
      · simp only [attempt, hsend, hlimited, if_neg hstatus, if_true, hgate]

/-- Where the gate opens, there is one attempt less. -/
theorem attempt_limited {left : Nat} {u : τ}
    (h : W.get ⟨url, c.headers⟩ (W.note (.requesting url) s) = (reply, t))
    (hreply : Http.isLimited reply = true)
    (hgate : (c.gate W).awaitQuota (W.note (.requestLimited url (attempts - left)) t) =
      (.ok (), u)) :
    c.attempt W url (left + 1) s = c.attempt W url left u := by
  rw [attempt_gated left h hreply, hgate]

theorem ask_of_fetch {α : Type} {take? : Json → Option α}
    (h : c.fetch W url s = (settled url reply, t)) :
    c.ask W take? url s = (answered take? url reply, t) := by
  rw [ask, h, answered]
  cases settled url reply <;> rfl

/-- **A question is answered by the one reply to its request**, where that is not turned down. -/
theorem ask_of_get {α : Type} {take? : Json → Option α}
    (h : W.get ⟨url, c.headers⟩ (W.note (.requesting url) s) = (reply, t))
    (hreply : Http.isLimited reply = false) :
    c.ask W take? url s = (answered take? url reply, t) :=
  ask_of_fetch (attempt_settled 2 h hreply)

/-- The quota, where its address answers with one. -/
theorem quota_of_get {r : Http.Response} {q : Quota}
    (h : W.get ⟨c.quotaUrl, c.headers⟩ (W.note (.requesting c.quotaUrl) s) = (.ok r, t))
    (hstatus : r.status = 200) (hquota : decode quotaOf? c.quotaUrl r = .ok q) :
    c.quota W s = (.ok q, t) := by
  have hsend : c.send W c.quotaUrl s = (.ok r, t) := send_of_get h
  simp only [quota, hsend, hstatus, if_true, hquota]

/-! ## The gate -/

/-- The quota's address answers with a quota, and the server is in a state with `I` again. -/
def TellsQuota (c : Client) (W : Http.Web τ) (I : τ → Prop) : Prop :=
  ∀ t, I t → ∃ r t' q, W.get ⟨c.quotaUrl, c.headers⟩ t = (.ok r, t') ∧ r.status = 200 ∧
    decode quotaOf? c.quotaUrl r = .ok q ∧ I t'

/-- So the gate opens. -/
theorem TellsQuota.awaitQuota {I : τ → Prop} (h : c.TellsQuota W I)
    (hnote : ∀ e t, I t → I (W.note e t)) (hpause : ∀ seconds t, I t → I (W.pause seconds t))
    (ht : I t) : ∃ t', (c.gate W).awaitQuota t = (.ok (), t') ∧ I t' := by
  refine Gate.awaitQuota_ok (fun e {t} => hnote e t) (fun seconds {t} => hpause seconds t) ?_ ht
  intro t ht
  obtain ⟨r, u, q, hget, hstatus, hquota, hu⟩ := h _ (hnote (.requesting c.quotaUrl) t ht)
  exact ⟨q, u, quota_of_get hget hstatus hquota, hu⟩

end Client

end ForkCensus
