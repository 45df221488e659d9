import ForkCensus.Proofs.Client.Requests
import ForkCensus.Proofs.Text.Cutting

/-
# How often a request is sent

`Http.Web.traced` keeps beside any web the requests that were sent, each
with what came of it, whatever redirections were followed on the way.
`Client.Tried` lists all that can come of a request with a number of
attempts left, one constructor for each way in which an attempt ends it
and one for the way in which it does not: the request is turned down for
want of quota (`Client.TurnedDown`), and the quota is told.
`Client.fetch_exact` says that every request goes so, against any web.

The gate sends one request and only one (`quota_traced`), so between two
attempts there is exactly one question for the quota.
-/

namespace ForkCensus

namespace Http

/-! ## The signal of a spent quota -/

/-- The first header that says how many requests are left says that none is: its value is `0`, but
for blanks around it. -/
def SaysSpent (headers : List Header) : Prop :=
  ∃ before h after left right, headers = before ++ h :: after ∧
    (∀ other ∈ before, Text.Ascii.same other.name remainingHeader = false) ∧
    Text.Ascii.same h.name remainingHeader = true ∧
    h.value = left ++ 0x30 :: right ∧
    (∀ b ∈ left, Header.isBlank b = true) ∧ ∀ b ∈ right, Header.isBlank b = true

theorem Header.isVisible_of_isBlank {b : UInt8} (h : isBlank b = true) : isVisible b = true := by
  rw [isBlank, Bool.or_eq_true, beq_iff_eq, beq_iff_eq] at h
  rcases h with rfl | rfl <;> decide

/-- A value is `0` once blanks are taken away exactly if it is `0` between blanks. -/
theorem Header.strip_eq_singleton_iff {value : List UInt8} {x : UInt8} (hx : isBlank x = false) :
    strip value = [x] ↔ ∃ left right, value = left ++ x :: right ∧
      (∀ b ∈ left, isBlank b = true) ∧ ∀ b ∈ right, isBlank b = true := by
  constructor
  · intro h
    obtain ⟨left, right, hleft, hright, hvalue⟩ := Text.exists_ends isBlank value
    refine ⟨left, right, ?_, hleft, hright⟩
    rw [strip] at h
    rwa [h, List.append_assoc, List.singleton_append] at hvalue
  · rintro ⟨left, right, rfl, hleft, hright⟩
    have hends := Text.strip_ends (l := [x]) hleft hright (by simpa using hx) (by simpa using hx)
    rwa [List.append_assoc, List.singleton_append] at hends

theorem saysQuotaSpent_iff {headers : List Header} :
    saysQuotaSpent headers = true ↔ SaysSpent headers := by
  have hzero : Header.isBlank 0x30 = false := by decide
  rw [saysQuotaSpent, Header.find?]
  constructor
  · intro h
    cases hfind : headers.find? fun h => Text.Ascii.same h.name remainingHeader with
    | none =>
        rw [hfind] at h
        cases h
    | some header =>
        rw [hfind, Option.map_some, Bool.and_eq_true, beq_iff_eq] at h
        obtain ⟨left, right, hvalue, hleft, hright⟩ :=
          (Header.strip_eq_singleton_iff hzero).mp h.2
        obtain ⟨hname, before, after, rfl, hbefore⟩ := List.find?_eq_some_iff_append.mp hfind
        exact ⟨before, header, after, left, right, rfl,
          fun other hother => by simpa using hbefore other hother, hname, hvalue, hleft, hright⟩
  · rintro ⟨before, header, after, left, right, rfl, hbefore, hname, hvalue, hleft, hright⟩
    have hfind : (before ++ header :: after).find?
        (fun h => Text.Ascii.same h.name remainingHeader) = some header :=
      List.find?_eq_some_iff_append.mpr
        ⟨hname, before, after, rfl, fun other hother => by simp [hbefore other hother]⟩
    rw [hfind, Option.map_some, Bool.and_eq_true, beq_iff_eq]
    refine ⟨?_, (Header.strip_eq_singleton_iff hzero).mpr ⟨left, right, hvalue, hleft, hright⟩⟩
    rw [hvalue, List.all_append, List.all_cons, List.all_eq_true.mpr, List.all_eq_true.mpr]
    · decide
    · exact fun b hb => Header.isVisible_of_isBlank (hright b hb)
    · exact fun b hb => Header.isVisible_of_isBlank (hleft b hb)

/-! ## What was sent -/

/-- A request that was sent, and what came of it. -/
structure Sending where
  request : Request
  reply : Except String Response

/-- The same web, with all that was sent beside its state, the oldest first. -/
def Web.traced {τ : Type} (W : Web τ) : Web (List Sending × τ) where
  get r s :=
    let (reply, t) := W.get r s.2
    (reply, s.1 ++ [⟨r, reply⟩], t)
  pause seconds s := (s.1, W.pause seconds s.2)
  now s := W.now s.2
  note e s := (s.1, W.note e s.2)

theorem Web.traced_get {τ : Type} (W : Web τ) (r : Request) (log : List Sending) (s : τ) :
    ∃ reply t, W.get r s = (reply, t) ∧
      W.traced.get r (log, s) = (reply, log ++ [⟨r, reply⟩], t) := ⟨_, _, rfl, rfl⟩

end Http

namespace Client

open Http (Sending)

/-- The request of the client for an address. -/
def request (c : Client) (url : String) : Http.Request :=
  ⟨url, c.headers⟩

/-- A response that turns a request down because the quota is used up. -/
def TurnedDown (r : Http.Response) : Prop :=
  r.status = 403 ∧ Http.SaysSpent r.headers

/-- What the question for the quota comes to with a reply to its one request: the failure of the
request, a status other than 200, or what the body says. -/
def toldQuota (c : Client) (reply : Except String Http.Response) : Except ApiError Quota :=
  (settled c.quotaUrl reply).bind (decode quotaOf? c.quotaUrl)

/-- What is sent and what comes of it where a request may be sent a number of times. -/
inductive Tried (c : Client) (url : String) :
    Nat → List Sending → Except ApiError Http.Response → Prop
  /-- The first answer with status 200 is the result. -/
  | answered {left : Nat} {r : Http.Response} : r.status = 200 →
      Tried c url (left + 1) [⟨c.request url, .ok r⟩] (.ok r)
  /-- No answer is a failure at once. -/
  | unanswered {left : Nat} {reason : String} :
      Tried c url (left + 1) [⟨c.request url, .error reason⟩] (.error (.network url reason))
  /-- Any other status is a failure at once, unless it is for want of quota. -/
  | refused {left : Nat} {r : Http.Response} : r.status ≠ 200 → ¬TurnedDown r →
      Tried c url (left + 1) [⟨c.request url, .ok r⟩] (.error (.status r.status url))
  /-- For want of quota the quota is asked for, once; its failure is the result. -/
  | untold {left : Nat} {r : Http.Response} {reply : Except String Http.Response} {e : ApiError} :
      TurnedDown r → c.toldQuota reply = .error e →
      Tried c url (left + 1) [⟨c.request url, .ok r⟩, ⟨c.request c.quotaUrl, reply⟩] (.error e)
  /-- Once the quota is told, there is one attempt less. -/
  | again {left : Nat} {r : Http.Response} {reply : Except String Http.Response} {q : Quota}
      {sent : List Sending} {result : Except ApiError Http.Response} :
      TurnedDown r → c.toldQuota reply = .ok q → Tried c url left sent result →
      Tried c url (left + 1)
        (⟨c.request url, .ok r⟩ :: ⟨c.request c.quotaUrl, reply⟩ :: sent) result
  /-- Without attempts left the request has failed as it was turned down. -/
  | spent : Tried c url 0 [] (.error (.status 403 url))

theorem turnedDown_iff {r : Http.Response} : Http.isLimited (.ok r) = true ↔ TurnedDown r := by
  rw [Http.isLimited, Bool.and_eq_true, decide_eq_true_eq, Http.saysQuotaSpent_iff, TurnedDown]

variable {τ : Type} (c : Client) (W : Http.Web τ)

/-- What the question for the quota comes to depends on the reply to one request. -/
theorem quota_of_reply {W : Http.Web τ} {s t : τ} {reply : Except String Http.Response}
    (h : W.get (c.request c.quotaUrl) (W.note (.requesting c.quotaUrl) s) = (reply, t)) :
    c.quota W s = (c.toldQuota reply, t) := by
  rw [quota, send_of_get h, toldQuota]
  cases reply with
  | error reason => rfl
  | ok r =>
      dsimp only [Except.mapError, settled]
      split <;> rfl

/-- A question for the quota is one request, whatever comes of it. -/
theorem quota_traced (log : List Sending) (s : τ) : ∃ reply t,
    c.quota W s = (c.toldQuota reply, t) ∧
      c.quota W.traced (log, s) =
        (c.toldQuota reply, log ++ [⟨c.request c.quotaUrl, reply⟩], t) := by
  obtain ⟨reply, t, hget, htraced⟩ := W.traced_get (c.request c.quotaUrl) log
    (W.note (.requesting c.quotaUrl) s)
  exact ⟨reply, t, quota_of_reply c hget, quota_of_reply c htraced⟩

/-- The gate asks for the quota, and sends nothing else. -/
theorem awaitQuota_traced (log : List Sending) (s : τ) : ∃ reply t,
    (c.gate W).awaitQuota s = ((c.toldQuota reply).map fun _ => (), t) ∧
      (c.gate W.traced).awaitQuota (log, s) =
        ((c.toldQuota reply).map fun _ => (), log ++ [⟨c.request c.quotaUrl, reply⟩], t) := by
  obtain ⟨reply, t, hquota, htraced⟩ := quota_traced c W log s
  have hgate : (c.gate W).quota s = (c.toldQuota reply, t) := hquota
  have hgate' : (c.gate W.traced).quota (log, s) =
      (c.toldQuota reply, log ++ [⟨c.request c.quotaUrl, reply⟩], t) := htraced
  refine ⟨reply, ?_⟩
  rw [Gate.awaitQuota, hgate, Gate.awaitQuota, hgate']
  cases c.toldQuota reply with
  | error e => exact ⟨t, rfl, rfl⟩
  | ok q =>
      -- Whether there is something to wait for or not, nothing is sent any more.
      have hnow : (c.gate W.traced).now (log ++ [⟨c.request c.quotaUrl, reply⟩], t) =
          (c.gate W).now t := rfl
      dsimp only
      rw [hnow]
      cases q.wait ((c.gate W).now t) with
      | none => exact ⟨_, rfl, rfl⟩
      | some seconds => exact ⟨_, rfl, rfl⟩

/-- A request, sent as often as there are attempts left. -/
theorem attempt_traced (url : String) (left : Nat) (log : List Sending) (s : τ) :
    ∃ result sent t, c.attempt W url left s = (result, t) ∧
      c.attempt W.traced url left (log, s) = (result, log ++ sent, t) ∧
      Tried c url left sent result := by
  induction left generalizing log s with
  | zero => exact ⟨_, [], s, rfl, by rw [List.append_nil, attempt], .spent⟩
  | succ left ih =>
      obtain ⟨reply, t, hget, htraced⟩ :=
        W.traced_get (c.request url) log (W.note (.requesting url) s)
      cases hlimited : Http.isLimited reply with
      | false =>
          refine ⟨_, _, t, attempt_settled left hget hlimited,
            attempt_settled left htraced hlimited, ?_⟩
          cases reply with
          | error reason => exact .unanswered
          | ok r =>
              rw [settled]
              split
              · rename_i h
                exact .answered h
              · rename_i h
                refine .refused h fun hdown => ?_
                rw [turnedDown_iff.mpr hdown] at hlimited
                cases hlimited
      | true =>
          cases reply with
          | error reason => cases hlimited
          | ok r =>
              have hdown : TurnedDown r := turnedDown_iff.mp hlimited
              obtain ⟨told, u, hgate, hgate'⟩ := awaitQuota_traced c W
                (log ++ [⟨c.request url, .ok r⟩]) (W.note (.requestLimited url (attempts - left)) t)
              have hnote : W.traced.note (.requestLimited url (attempts - left))
                  (log ++ [⟨c.request url, .ok r⟩], t) = (log ++ [⟨c.request url, .ok r⟩],
                    W.note (.requestLimited url (attempts - left)) t) := rfl
              rw [attempt_gated left hget hlimited, attempt_gated left htraced hlimited, hnote,
                hgate, hgate', List.append_assoc]
              cases htold : c.toldQuota told with
              | error e => exact ⟨.error e, _, u, rfl, rfl, .untold hdown htold⟩
              | ok q =>
                  obtain ⟨result, sent, v, hrest, hrest', htried⟩ := ih
                    (log ++ [⟨c.request url, .ok r⟩, ⟨c.request c.quotaUrl, told⟩]) u
                  refine ⟨result, _, v, hrest, ?_, .again hdown htold htried⟩
                  rw [List.append_assoc] at hrest'
                  exact hrest'

/-- Request and question take turns, the request first. -/
theorem Tried.alternates {c : Client} {url : String} {left : Nat} {sent : List Sending}
    {result : Except ApiError Http.Response} (h : Tried c url left sent result) :
    sent.map Sending.request <+:
      (List.replicate left [c.request url, c.request c.quotaUrl]).flatten := by
  induction h with
  | spent => exact List.prefix_rfl
  | answered _ => exact ⟨_, rfl⟩
  | unanswered => exact ⟨_, rfl⟩
  | refused _ _ => exact ⟨_, rfl⟩
  | untold _ _ => exact ⟨_, rfl⟩
  | again _ _ _ ih =>
      rw [List.replicate_succ, List.flatten_cons]
      exact (List.prefix_append_right_inj [c.request url, c.request c.quotaUrl]).mpr ih

/-- **How often a request is sent.**  Against any web, a request is sent three times at most, in
turns with the question for the quota.  An attempt is followed by another exactly if it is turned
down for want of quota and the quota is told; what comes of the request is the first answer with
status 200, or the failure that ends the attempts (`Tried`).  The question for the quota is one
request, whatever comes of it. -/
theorem fetch_exact (url : String) (s : τ) :
    (∃ result sent t, c.fetch W url s = (result, t) ∧
      c.fetch W.traced url ([], s) = (result, sent, t) ∧ Tried c url 3 sent result ∧
      sent.map Sending.request <+:
        (List.replicate 3 [c.request url, c.request c.quotaUrl]).flatten) ∧
    ∀ log : List Sending, ∃ reply t, c.quota W s = (c.toldQuota reply, t) ∧
      c.quota W.traced (log, s) =
        (c.toldQuota reply, log ++ [⟨c.request c.quotaUrl, reply⟩], t) := by
  refine ⟨?_, fun log => quota_traced c W log s⟩
  obtain ⟨result, sent, t, hplain, htraced, htried⟩ := attempt_traced c W url attempts [] s
  exact ⟨result, sent, t, hplain, htraced, htried, htried.alternates⟩

end Client

end ForkCensus
