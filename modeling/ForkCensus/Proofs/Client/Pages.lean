import ForkCensus.Proofs.Client.Limits
import ForkCensus.Proofs.Client.Retries
import ForkCensus.Proofs.Discovery.Lifetime
import ForkCensus.Proofs.Json.Records

/-
# A page is taken as a whole

`Client.Denotes` says of a JSON value that it is the record of a
repository: the owner and seven more fields, each there once and of its
type, as an object among whatever other members or as an array.
`recordOf?_eq_some_iff` says that nothing else is taken for one, so a
response holds a page (`Client.Holds`) or the question for it fails.

`Client.forkPage_exact` puts this together for a request that may be sent
more than once: whatever came before it, the one answer with status 200
decides.  A body that breaks off is told apart from one that is there and
wrong.  Either failure reaches the listing that asked for the page, and
ends it.
-/

namespace ForkCensus

namespace Listing

variable {σ : Type} {F : Forge σ} {l : Listing}

/-- What is asked for next is this page, and the service is then in the state `s`. -/
structure TurnsTo (F : Forge σ) (l : Listing) (s₀ : σ) (root : Slug) (page : UInt32) (s : σ) :
    Prop where
  root_eq : l.root = root
  page_eq : l.nextPage = page
  phase_eq : l.phase = .paging
  buffer_eq : l.buffer = []
  gate : l.awaitPage F s₀ = (.ok (), s)

theorem TurnsTo.pull_failed {s₀ s t : σ} {root : Slug} {page : UInt32} {e : ApiError}
    (h : TurnsTo F l s₀ root page s) (hpage : F.forkPage root page s = (.error e, t)) :
    l.pull F s₀ = (.failed e, l.close, t) := by
  obtain ⟨rfl, rfl, hphase, hbuffer, hgate⟩ := h
  rw [pull, hbuffer, hphase]
  simp only [pullPage, hgate, hpage]

/-- A listing that is over brings the end, however often it is pulled, and asks for nothing. -/
theorem Over.turns (h : l.Over) (n : Nat) (s : σ) :
    turns F n l s = List.replicate n ⟨.finished, []⟩ := by
  have hpull : l.pull F.watched ([], s) = (.finished, l, [], s) := by
    obtain ⟨hphase, hbuffer⟩ := h
    rw [pull, hbuffer, hphase]
  induction n with
  | zero => rfl
  | succ n ih =>
      rw [Listing.turns, hpull, List.replicate_succ, ← ih]

end Listing

namespace Client

open Http (Sending)
open Json (IsRecord count)

/-! ## Records in JSON -/

/-- The value is the record of the repository. -/
def Denotes (r : Repository) (v : Json) : Prop :=
  ∃ owner, IsRecord [("login", .string (some r.owner))] owner ∧
    IsRecord [("owner", owner), ("name", .string (some r.name)),
      ("html_url", .string (some r.page)), ("clone_url", .string (some r.cloneHttp)),
      ("git_url", .string (some r.cloneGit)), ("ssh_url", .string (some r.cloneSsh)),
      ("stargazers_count", count r.stars), ("forks_count", count r.forks)] v

/-- **What is taken for a record.** -/
theorem recordOf?_eq_some_iff {v : Json} {r : Repository} :
    recordOf? v = some r ↔ Denotes r v := by
  constructor
  · intro h
    obtain ⟨values, hvalues, h⟩ := Option.bind_eq_some_iff.mp h
    split at h
    · rename_i owner name page http git ssh stars forks
      obtain ⟨logins, hlogins, h⟩ := Option.bind_eq_some_iff.mp h
      split at h
      · rename_i login
        obtain ⟨login', hlogin, h⟩ := Option.bind_eq_some_iff.mp h
        obtain ⟨name', hname, h⟩ := Option.bind_eq_some_iff.mp h
        obtain ⟨page', hpage, h⟩ := Option.bind_eq_some_iff.mp h
        obtain ⟨http', hhttp, h⟩ := Option.bind_eq_some_iff.mp h
        obtain ⟨git', hgit, h⟩ := Option.bind_eq_some_iff.mp h
        obtain ⟨ssh', hssh, h⟩ := Option.bind_eq_some_iff.mp h
        obtain ⟨forks', hforks, h⟩ := Option.bind_eq_some_iff.mp h
        obtain ⟨stars', hstars, h⟩ := Option.bind_eq_some_iff.mp h
        cases h
        rw [Json.text?_eq_some_iff] at hlogin hname hpage hhttp hgit hssh
        rw [Json.uint64?_eq_some_iff] at hforks hstars
        subst hlogin hname hpage hhttp hgit hssh hforks hstars
        exact ⟨owner, (Json.record?_eq_some_iff (by simp)).mp hlogins,
          (Json.record?_eq_some_iff (by simp)).mp hvalues⟩
      · cases h
    · cases h
  · rintro ⟨owner, howner, hv⟩
    have hlogin := (Json.record?_eq_some_iff (by simp)).mpr howner
    have hrecord := (Json.record?_eq_some_iff (by simp)).mpr hv
    simp only [List.map_cons, List.map_nil] at hlogin hrecord
    simp [recordOf?, hrecord, hlogin, Json.text?, Json.uint64?_count]

theorem recordsOf?_eq_some_iff {v : Json} {records : List Repository} :
    recordsOf? v = some records ↔
      ∃ items, v = .array items ∧ List.Forall₂ Denotes records items := by
  have hitems (items : List Json) :
      List.Forall₂ (fun v r => recordOf? v = some r) items records ↔
        List.Forall₂ Denotes records items := by
    simp only [recordOf?_eq_some_iff]
    exact ⟨List.Forall₂.flip, List.Forall₂.flip⟩
  simp only [recordsOf?, Json.list?_eq_some_iff, hitems]

/-! ## Responses -/

/-- The body is there, and it is an array of just these records. -/
def Holds (r : Http.Response) (records : List Repository) : Prop :=
  ∃ bytes items, r.body = .ok bytes ∧ Json.ofBytes? bytes = some (.array items) ∧
    List.Forall₂ Denotes records items

/-- What comes of the question for a page with a response of status 200. -/
structure PageTaken (url : String) (r : Http.Response)
    (result : Except ApiError (Answer (List Repository))) : Prop where
  /-- The answer is the records that the response holds, and whether it says that no requests are
  left. -/
  taken : ∀ answer, result = .ok answer ↔
    Holds r answer.value ∧ answer.quotaSpent = Http.saysQuotaSpent r.headers
  /-- A body that holds no records is malformed, whatever it is instead. -/
  malformed : ∀ bytes, r.body = .ok bytes → (∀ records, ¬Holds r records) →
    ∃ reason, result = .error (.malformed url reason)
  /-- A body that broke off is a failure of the network. -/
  brokenOff : ∀ reason, r.body = .error reason → result = .error (.network url reason)

theorem decode_recordsOf?_eq_ok_iff (url : String) {r : Http.Response}
    {records : List Repository} : decode recordsOf? url r = .ok records ↔ Holds r records := by
  rw [decode, Holds]
  cases r.body with
  | error reason =>
      constructor
      · intro h
        cases h
      · rintro ⟨_, _, hbytes, -⟩
        cases hbytes
  | ok bytes =>
      have hread : (Json.ofBytes? bytes).bind recordsOf? = some records ↔
          ∃ items, Json.ofBytes? bytes = some (.array items) ∧
            List.Forall₂ Denotes records items := by
        simp only [Option.bind_eq_some_iff, recordsOf?_eq_some_iff]
        constructor
        · rintro ⟨_, hread, items, rfl, hitems⟩
          exact ⟨items, hread, hitems⟩
        · rintro ⟨items, hread, hitems⟩
          exact ⟨_, hread, items, rfl, hitems⟩
      constructor
      · intro h
        dsimp only at h
        split at h
        · rename_i found hfound
          cases h
          obtain ⟨items, hitems⟩ := hread.mp hfound
          exact ⟨bytes, items, rfl, hitems⟩
        · cases h
      · rintro ⟨_, items, hbytes, hitems⟩
        cases hbytes
        simp only [hread.mpr ⟨items, hitems⟩]

theorem pageTaken_decode (url : String) (r : Http.Response) :
    PageTaken url r
      ((decode recordsOf? url r).map fun records => ⟨records, Http.saysQuotaSpent r.headers⟩) where
  taken answer := by
    obtain ⟨records, spent⟩ := answer
    rw [← decode_recordsOf?_eq_ok_iff url]
    cases decode recordsOf? url r with
    | error e => exact ⟨nofun, nofun⟩
    | ok found =>
        constructor
        · intro h
          cases h
          exact ⟨rfl, rfl⟩
        · rintro ⟨hrecords, hspent⟩
          cases hrecords
          cases hspent
          rfl
  malformed bytes hbody hnone := by
    refine ⟨"not of the expected form", ?_⟩
    cases hdecode : decode recordsOf? url r with
    | ok records => exact absurd ((decode_recordsOf?_eq_ok_iff url).mp hdecode) (hnone records)
    | error e =>
        rw [decode, hbody] at hdecode
        dsimp only at hdecode
        split at hdecode
        · cases hdecode
        · cases hdecode
          rfl
  brokenOff reason hbody := by
    rw [decode, hbody]
    rfl

/-! ## The answer that decides -/

/-- An answer with status 200 is what comes of the attempts. -/
theorem Tried.result_of_answer {c : Client} {url : String} {left : Nat} {sent : List Sending}
    {result : Except ApiError Http.Response} {r : Http.Response} (hurl : url ≠ c.quotaUrl)
    (h : Tried c url left sent result) (hr : ⟨c.request url, .ok r⟩ ∈ sent)
    (hstatus : r.status = 200) : result = .ok r := by
  -- Requests and questions for the quota have different addresses, and what turns a request down has
  -- another status.
  have hquota {reply : Except String Http.Response} :
      (⟨c.request url, .ok r⟩ : Sending) ≠ ⟨c.request c.quotaUrl, reply⟩ := by
    intro heq
    exact hurl (congrArg (fun x : Sending => x.request.url) heq)
  have hdown {r' : Http.Response} (hr' : TurnedDown r') :
      (⟨c.request url, .ok r⟩ : Sending) ≠ ⟨c.request url, .ok r'⟩ := by
    intro heq
    cases heq
    rw [hr'.1] at hstatus
    cases hstatus
  induction h with
  | answered _ =>
      cases List.mem_singleton.mp hr
      rfl
  | unanswered => cases List.mem_singleton.mp hr
  | refused hne _ =>
      cases List.mem_singleton.mp hr
      exact absurd hstatus hne
  | untold hturned _ =>
      rcases List.mem_cons.mp hr with heq | hr
      · exact absurd heq (hdown hturned)
      · exact absurd (List.mem_singleton.mp hr) hquota
  | again hturned _ _ ih =>
      rcases List.mem_cons.mp hr with heq | hr
      · exact absurd heq (hdown hturned)
      · rcases List.mem_cons.mp hr with heq | hr
        · exact absurd heq hquota
        · exact ih hr
  | spent => cases hr

variable {τ : Type} (c : Client) (W : Http.Web τ)

/-- What is asked for is taken out of what the request comes to. -/
theorem ask_traced {α : Type} (take? : Json → Option α) (url : String) (s : τ) :
    ∃ fetched result sent t, c.ask W take? url s = (result, t) ∧
      c.ask W.traced take? url ([], s) = (result, sent, t) ∧ Tried c url attempts sent fetched ∧
      result = fetched.bind fun r =>
        (decode take? url r).map fun a => ⟨a, Http.saysQuotaSpent r.headers⟩ := by
  obtain ⟨fetched, sent, t, hplain, htraced, htried⟩ := attempt_traced c W url attempts [] s
  refine ⟨fetched, _, sent, t, ?_, ?_, htried, rfl⟩
  · rw [ask, fetch, hplain]
    cases fetched <;> rfl
  · rw [ask, fetch, htraced]
    cases fetched <;> rfl

/-- **A page is taken as a whole.**  Against any web, what comes of the question for a page is decided
by the answer with status 200, if one is sent: it is the records that the answer holds, in their
order, or a failure that names the address (`PageTaken`).  A listing that asks for the page and meets
the failure brings it instead of a record, and is over: it brings nothing more and asks for nothing
more. -/
theorem forkPage_exact (k : Slug) (page : UInt32) (s : τ) :
    ∃ result sent t, (c.forge W).forkPage k page s = (result, t) ∧
      (c.forge W.traced).forkPage k page ([], s) = (result, sent, t) ∧
      (∀ r, ⟨c.request (c.pageUrl k page), .ok r⟩ ∈ sent → r.status = 200 →
        PageTaken (c.pageUrl k page) r result) ∧
      ∀ e l s₀, result = .error e → Listing.TurnsTo (c.forge W) l s₀ k page s →
        l.pull (c.forge W) s₀ = (.failed e, l.close, t) ∧
        ∀ n u, Listing.turns (c.forge W) n l.close u = List.replicate n ⟨.finished, []⟩ := by
  obtain ⟨fetched, result, sent, t, hplain, htraced, htried, hresult⟩ :=
    ask_traced c W recordsOf? (c.pageUrl k page) s
  refine ⟨result, sent, t, hplain, htraced, ?_, ?_⟩
  · intro r hr hstatus
    have hfetched := htried.result_of_answer (Asks.forkPage k page).ne_quotaUrl hr hstatus
    rw [hresult, hfetched]
    exact pageTaken_decode _ r
  · intro e l s₀ he hl
    rw [he] at hplain
    exact ⟨hl.pull_failed hplain, fun n u => Listing.Over.turns ⟨rfl, rfl⟩ n u⟩

/-! ## One body for every address -/

/-- A server that gives the same response to everything. -/
def onlyReply (r : Http.Response) : Http.Web Unit where
  get _ s := (.ok r, s)
  pause _ s := s
  now _ := 0
  note _ s := s

/-- A page with two records, the first as an array; in the second one the members are in another
order and there are others. -/
def mixedPage : Http.Response :=
  ⟨200, [], .ok (Text.utf8 (
    "[[[\"b\"], \"r\", \"\", \"c\", \"\", \"\", 3, 1], " ++
    "\x7b\"forks_count\": 0, \"license\": [null, \x7b\"name\": 1.5\x7d], \"ssh_url\": \"s\", " ++
    "\"owner\": \x7b\"id\": 7, \"login\": \"d\"\x7d, \"name\": \"r\", \"html_url\": \"\", " ++
    "\"clone_url\": \"\", \"git_url\": \"\", \"stargazers_count\": 18446744073709551615\x7d]"))⟩

theorem forkPage_exact_mixed :
    let url := guest.pageUrl ⟨"a", "r"⟩ 1
    let records : List Repository :=
      [⟨"b", "r", "", "c", "", "", 1, 3⟩, ⟨"d", "r", "", "", "", "s", 0, 18446744073709551615⟩]
    (guest.forge (onlyReply mixedPage)).forkPage ⟨"a", "r"⟩ 1 () = (.ok ⟨records, false⟩, ()) ∧
      PageTaken url mixedPage (.ok ⟨records, false⟩) ∧ Holds mixedPage records := by
  intro url records
  have hplain : (guest.forge (onlyReply mixedPage)).forkPage ⟨"a", "r"⟩ 1 () =
      (.ok ⟨records, false⟩, ()) := by
    decide +kernel
  obtain ⟨result, sent, t, hresult, htraced, htaken, -⟩ :=
    forkPage_exact guest (onlyReply mixedPage) ⟨"a", "r"⟩ 1 ()
  obtain ⟨rfl, -⟩ := Prod.mk.inj (hplain.symm.trans hresult)
  have hsent : sent = [⟨guest.request url, .ok mixedPage⟩] := by
    have hlog : ((guest.forge (onlyReply mixedPage).traced).forkPage ⟨"a", "r"⟩ 1 ([], ())).2.1 =
        [⟨guest.request url, .ok mixedPage⟩] := rfl
    rwa [htraced] at hlog
  have hpage := htaken mixedPage (hsent ▸ List.mem_singleton_self _) rfl
  exact ⟨hplain, hpage, ((hpage.taken _).mp rfl).1⟩

/-- Of an answer with status 200 that breaks off, nothing is said to be malformed. -/
theorem brokenOff_not_malformed :
    let page : Http.Response := ⟨200, [], .error "unexpected end of file"⟩
    let url := guest.pageUrl ⟨"a", "r"⟩ 1
    (onlyReply page).get (guest.request url) () = (.ok page, ()) ∧
      (∀ records, ¬Holds page records) ∧
      (guest.forge (onlyReply page)).forkPage ⟨"a", "r"⟩ 1 () =
        (.error (.network url "unexpected end of file"), ()) := by
  intro page url
  refine ⟨rfl, ?_, by decide +kernel⟩
  rintro records ⟨bytes, _, hbody, -⟩
  cases hbody

end Client

end ForkCensus
