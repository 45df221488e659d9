import ForkCensus.Forge.Basic
import ForkCensus.Forge.Credentials
import ForkCensus.Http.Base64
import ForkCensus.Http.Web
import ForkCensus.Json.Reader

/-
# The hosting service over HTTP

A `Client` asks the hosting service over the web.  A request that is
turned down because the quota is used up is sent again once there is
quota, three times in all; the question how much quota is left is never
repeated.  Answers are JSON, of which only the fields of a record are
looked at.
-/

namespace ForkCensus

/-- A client: who asks, and where. -/
structure Client where
  credentials : Option Credentials
  /-- The base address, without slashes at its end. -/
  base : String
deriving DecidableEq

namespace Client

/-- A client for a base address. -/
def ofBase (credentials : Option Credentials) (base : String) : Client :=
  ⟨credentials, String.ofList (base.toList.reverse.dropWhile (· == '/')).reverse⟩

/-- The client as a log shows it. -/
def display (c : Client) : String :=
  s!"GitHubClient \x7b has_credentials: {Text.truth c.credentials.isSome}, " ++
    s!"api_base: {Text.quoted c.base} \x7d"

/-! ## Addresses and headers -/

/-- The address of a repository's record. -/
def repositoryUrl (c : Client) (k : Slug) : String :=
  s!"{c.base}/repos/{k.owner}/{k.name}"

/-- The address of a page of a repository's forks. -/
def pageUrl (c : Client) (k : Slug) (page : UInt32) : String :=
  s!"{c.repositoryUrl k}/forks?per_page=100&page={page}"

/-- The address of the quota. -/
def quotaUrl (c : Client) : String :=
  s!"{c.base}/rate_limit"

/-- The headers of every request. -/
def headers (c : Client) : List Http.Header :=
  [.ofText "accept" "application/vnd.github+json",
    .ofText "user-agent" "forkindex",
    .ofText "x-github-api-version" "2022-11-28"] ++
  (c.credentials.map fun who => Http.basicAuth who.user who.password).toList

/-! ## Answers -/

/-- The record of a repository in an answer. -/
def recordOf? (v : Json) : Option Repository := do
  match ← v.record? ["owner", "name", "html_url", "clone_url", "git_url", "ssh_url",
      "stargazers_count", "forks_count"] with
  | [owner, name, page, http, git, ssh, stars, forks] =>
    match ← owner.record? ["login"] with
    | [login] =>
      return {
        owner := ← login.text?
        name := ← name.text?
        page := ← page.text?
        cloneHttp := ← http.text?
        cloneGit := ← git.text?
        cloneSsh := ← ssh.text?
        forks := ← forks.uint64?
        stars := ← stars.uint64? }
    | _ => none
  | _ => none

/-- The records of a page in an answer; all of them or none. -/
def recordsOf? (v : Json) : Option (List Repository) :=
  v.list? recordOf?

/-- The quota in an answer. -/
def quotaOf? (v : Json) : Option Quota := do
  match ← v.record? ["resources"] with
  | [resources] =>
    match ← resources.record? ["core"] with
    | [core] =>
      match ← core.record? ["remaining", "reset"] with
      | [remaining, reset] => return ⟨← remaining.uint64?, ← reset.int64?⟩
      | _ => none
    | _ => none
  | _ => none

/-- What the body of a response says, taken out of its JSON.  Why it says nothing of the kind is told
in the same words for every body: what the reader of JSON would say of it, and where, is left
out. -/
def decode {α : Type} (take? : Json → Option α) (url : String) (r : Http.Response) :
    Except ApiError α :=
  match r.body with
  | .error reason => .error (.network url reason)
  | .ok bytes =>
    match (Json.ofBytes? bytes).bind take? with
    | some a => .ok a
    | none => .error (.malformed url "not of the expected form")

/-! ## Requests -/

variable {τ : Type}

/-- Sends one request. -/
def send (c : Client) (W : Http.Web τ) (url : String) (s : τ) :
    Except ApiError Http.Response × τ :=
  match W.get ⟨url, c.headers⟩ (W.note (.requesting url) s) with
  | (.ok r, t) => (.ok r, t)
  | (.error reason, t) => (.error (.network url reason), t)

/-- Asks once how much quota is left. -/
def quota (c : Client) (W : Http.Web τ) (s : τ) : Except ApiError Quota × τ :=
  match c.send W c.quotaUrl s with
  | (.error e, t) => (.error e, t)
  | (.ok r, t) =>
    if r.status = 200 then (decode quotaOf? c.quotaUrl r, t)
    else (.error (.status r.status c.quotaUrl), t)

/-- How waiting for quota goes. -/
def gate (c : Client) (W : Http.Web τ) : Gate τ where
  quota := c.quota W
  pause := W.pause
  now := W.now
  note := W.note

/-- How often a request is sent at most. -/
def attempts : Nat := 3

/-- Sends a request, as often as there are attempts left while the quota is used up. -/
def attempt (c : Client) (W : Http.Web τ) (url : String) :
    Nat → τ → Except ApiError Http.Response × τ
  | 0, s => (.error (.status 403 url), s)
  | left + 1, s =>
    match c.send W url s with
    | (.error e, t) => (.error e, t)
    | (.ok r, t) =>
      if r.status = 200 then (.ok r, t)
      else if r.status = 403 && Http.saysQuotaSpent r.headers then
        match (c.gate W).awaitQuota (W.note (.requestLimited url (attempts - left)) t) with
        | (.error e, u) => (.error e, u)
        | (.ok (), u) => c.attempt W url left u
      else (.error (.status r.status url), t)

/-- Sends a request until it is not turned down for want of quota. -/
def fetch (c : Client) (W : Http.Web τ) (url : String) (s : τ) :
    Except ApiError Http.Response × τ :=
  c.attempt W url attempts s

/-- Fetches an answer, and takes out of it what is asked for. -/
def ask {α : Type} (c : Client) (W : Http.Web τ) (take? : Json → Option α) (url : String) (s : τ) :
    Except ApiError (Answer α) × τ :=
  match c.fetch W url s with
  | (.error e, t) => (.error e, t)
  | (.ok r, t) => ((decode take? url r).map fun a => ⟨a, Http.saysQuotaSpent r.headers⟩, t)

/-- The service that the client asks. -/
def forge (c : Client) (W : Http.Web τ) : Forge τ where
  toGate := c.gate W
  repository k s := c.ask W recordOf? (c.repositoryUrl k) s
  forkPage k page s := c.ask W recordsOf? (c.pageUrl k page) s

end Client

end ForkCensus
