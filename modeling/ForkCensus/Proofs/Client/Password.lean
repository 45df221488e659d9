import ForkCensus.Forge.Client
import ForkCensus.Proofs.Build.Simulation
import ForkCensus.Proofs.Http.Blind

/-
# Where a password goes

A password is sent with each request, in the header that says who asks,
and goes nowhere else.  Two clients that differ in nothing else cannot be
told apart by what a server without eyes for that header answers: it gets
the same requests at the same addresses in the same order, and a build
prints, leaves behind and fails with the same (`Client.password_unseen`).

The argument follows a question on its way: both clients send requests
that are the same once masked (`masked_headers`), so sending, waiting for
quota, trying again and reading the answer agree, one after the other.
-/

namespace ForkCensus

open Http

namespace Client

variable {τ : Type} {W : Web τ} {R : τ → τ → Prop}

/-- The headers of a client with this user and password. -/
def ofUser (base user : String) (password : String) : Client :=
  ⟨some ⟨user, some password⟩, base⟩

/-- The clients differ in the header that says who asks, and in no other. -/
theorem masked_headers (base user password password' : String) :
    masked (ofUser base user password).headers = masked (ofUser base user password').headers := by
  have hmasked (password : String) : masked (ofUser base user password).headers =
      masked [.ofText "accept" "application/vnd.github+json", .ofText "user-agent" "forkindex",
        .ofText "x-github-api-version" "2022-11-28"] := by
    rw [headers, ofUser, masked_append, Option.map_some, Option.toList_some, masked_basicAuth,
      List.append_nil]
  rw [hmasked, hmasked]

section

variable (hW : W.Blind R) {base : String} {who who' : Option Credentials}
  (hheaders : masked (Client.mk who base).headers = masked (Client.mk who' base).headers)

include hW hheaders

theorem send_agree (url : String) {s t : τ} (hst : R s t) :
    Agree R ((Client.mk who base).send W url s) ((Client.mk who' base).send W url t) := by
  have hmasked : Request.masked ⟨url, (Client.mk who base).headers⟩ =
      Request.masked ⟨url, (Client.mk who' base).headers⟩ := by
    rw [Request.masked, Request.masked, hheaders]
  obtain ⟨reply, s', t', hs, ht, hst'⟩ :=
    (hW.get hmasked (hW.note (.requesting url) hst)).split
  simp only [send, hs, ht]
  cases reply <;> exact ⟨rfl, hst'⟩

theorem quota_agree {s t : τ} (hst : R s t) :
    Agree R ((Client.mk who base).quota W s) ((Client.mk who' base).quota W t) := by
  have hurl : (Client.mk who' base).quotaUrl = (Client.mk who base).quotaUrl := rfl
  obtain ⟨reply, s', t', hs, ht, hst'⟩ :=
    (send_agree hW hheaders (Client.mk who base).quotaUrl hst).split
  simp only [quota, hurl, hs, ht]
  cases reply with
  | error e => exact ⟨rfl, hst'⟩
  | ok r =>
      dsimp only
      split <;> exact ⟨rfl, hst'⟩

theorem awaitQuota_agree {s t : τ} (hst : R s t) :
    Agree R (((Client.mk who base).gate W).awaitQuota s)
      (((Client.mk who' base).gate W).awaitQuota t) :=
  Gate.awaitQuota_agree (fun h => quota_agree hW hheaders h) (fun seconds h => hW.pause seconds h)
    (fun h => hW.now h) (fun e h => hW.note e h) hst

theorem attempt_agree (url : String) (left : Nat) {s t : τ} (hst : R s t) :
    Agree R ((Client.mk who base).attempt W url left s)
      ((Client.mk who' base).attempt W url left t) := by
  induction left generalizing s t with
  | zero => exact ⟨rfl, hst⟩
  | succ left ih =>
      obtain ⟨reply, s', t', hs, ht, hst'⟩ := (send_agree hW hheaders url hst).split
      simp only [attempt, hs, ht]
      cases reply with
      | error e => exact ⟨rfl, hst'⟩
      | ok r =>
          dsimp only
          split
          · exact ⟨rfl, hst'⟩
          · split
            · -- Turned down: both wait for quota, and both try again if there is any.
              obtain ⟨gate, s'', t'', hs', ht', hst''⟩ := (awaitQuota_agree hW hheaders
                (hW.note (.requestLimited url (attempts - left)) hst')).split
              rw [hs', ht']
              cases gate with
              | error e => exact ⟨rfl, hst''⟩
              | ok _ => exact ih hst''
            · exact ⟨rfl, hst'⟩

theorem ask_agree {α : Type} (take? : Json → Option α) (url : String) {s t : τ} (hst : R s t) :
    Agree R ((Client.mk who base).ask W take? url s) ((Client.mk who' base).ask W take? url t) := by
  obtain ⟨reply, s', t', hs, ht, hst'⟩ := (attempt_agree hW hheaders url attempts hst).split
  simp only [ask, fetch, hs, ht]
  cases reply <;> exact ⟨rfl, hst'⟩

/-- **Clients whose requests are the same once masked** are the same service. -/
theorem forge_agree :
    Forge.Alike R ((Client.mk who base).forge W) ((Client.mk who' base).forge W) where
  quota h := quota_agree hW hheaders h
  pause seconds h := hW.pause seconds h
  now h := hW.now h
  note e h := hW.note e h
  repository k h := ask_agree hW hheaders recordOf? ((Client.mk who base).repositoryUrl k) h
  forkPage k page h := ask_agree hW hheaders recordsOf? ((Client.mk who base).pageUrl k page) h

end

/-- **A password is told to nobody but in the header that says who asks.**  Two clients have the same
base address and the same user, and any two passwords; a web does not look at that header.  Then two
builds whose plans differ at most in the password are the same: lines, summary or failure, files, and
all that the web is made to do, requests and their order, pauses and the journal, but for that header.
And neither clients nor credentials show it in a log. -/
theorem password_unseen (base user password password' : String) (budget : Nat) (plan : Plan)
    (tree : FileTree) (W : Web τ) (R : τ → τ → Prop) (hW : W.Blind R) (s t : τ) (hst : R s t) :
    let c := ofUser base user password
    let c' := ofUser base user password'
    let r := Build.run (c.forge W.watched) budget { plan with credentials := c.credentials } tree
      ([], s)
    let r' := Build.run (c'.forge W.watched) budget { plan with credentials := c'.credentials } tree
      ([], t)
    (r.lines = r'.lines ∧ r.outcome = r'.outcome ∧ r.tree = r'.tree ∧
      r.state.1.map Deed.masked = r'.state.1.map Deed.masked ∧ R r.state.2 r'.state.2) ∧
    c.display = c'.display ∧
    (Credentials.mk user (some password)).display =
      (Credentials.mk user (some password')).display := by
  intro c c' r r'
  have hforge : Forge.Alike (Web.SameDeeds R) (c.forge W.watched) (c'.forge W.watched) :=
    forge_agree hW.watched (masked_headers base user password password')
  have hstart : Web.SameDeeds R ([], s) ([], t) := ⟨rfl, hst⟩
  obtain ⟨hlines, houtcome, htree, hdeeds, hstates⟩ :=
    hforge.toMatch.run budget { plan with credentials := c.credentials } tree hstart
  exact ⟨⟨hlines, houtcome, htree, hdeeds, hstates⟩, rfl, rfl⟩

/-! ## A server that writes down who asks -/

/-- A server without repositories. -/
def bareServer : Script :=
  ⟨Url.ofText? "http://127.0.0.1", [], []⟩

/-- A build from there, with a password. -/
def bareRun (password : String) : Build.Result (List Deed × Script) :=
  let c := ofUser "http://127.0.0.1" "me" password
  Build.run (c.forge (Exchange.web Script.exchange 0).watched) 9
    ⟨"out", "idx", ["a/r"], c.credentials, "", true, .quiet⟩ .empty ([], bareServer)

/-- What the server has written down shows the password; nothing else does. -/
theorem password_unseen_bare :
    (bareRun "one").outcome = some (.error (.discovery ⟨"a", "r"⟩
        (.status 404 "http://127.0.0.1/repos/a/r"))) ∧
      (bareRun "one").state.2.log ≠ (bareRun "two").state.2.log ∧
      (bareRun "one").lines = (bareRun "two").lines ∧
      (bareRun "one").outcome = (bareRun "two").outcome ∧
      (bareRun "one").tree = (bareRun "two").tree ∧
      (bareRun "one").state.1.map Deed.masked = (bareRun "two").state.1.map Deed.masked ∧
      Script.SameLog (bareRun "one").state.2 (bareRun "two").state.2 := by
  have hblind := Exchange.Blind.web Script.exchange_blind 0
  obtain ⟨⟨hlines, houtcome, htree, hdeeds, hlog⟩, -, -⟩ :=
    password_unseen "http://127.0.0.1" "me" "one" "two" 9
      ⟨"out", "idx", ["a/r"], none, "", true, .quiet⟩ .empty _ _ hblind bareServer bareServer
      ⟨rfl, rfl, rfl⟩
  exact ⟨by decide +kernel, by decide +kernel, hlines, houtcome, htree, hdeeds, hlog⟩

end Client

end ForkCensus
