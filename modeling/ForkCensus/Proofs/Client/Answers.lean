import ForkCensus.Proofs.Client.Requests
import ForkCensus.Proofs.Json.Fields
import ForkCensus.Proofs.Json.Spelling

/-
# What answers say

`Client.Writes` says that a record is written in a JSON value, with the
fields in any order and among others, and `WritesAll` and `WritesQuota`
say the same of a page and of the quota.  Whatever is written is decoded
(`recordOf?_of_writes` and its like), so a response that says it
(`Client.Says`) answers the question.

The tokens of such values, for a server to send, come last.
-/

namespace ForkCensus.Client

open Json (HasFields Token Reader count signed)

/-! ## Values -/

/-- The record of a repository is written there. -/
def Writes (r : Repository) (v : Json) : Prop :=
  ∃ owner, HasFields [("login", .string (some r.owner))] owner ∧
    HasFields [("owner", owner), ("name", .string (some r.name)),
      ("html_url", .string (some r.page)), ("clone_url", .string (some r.cloneHttp)),
      ("git_url", .string (some r.cloneGit)), ("ssh_url", .string (some r.cloneSsh)),
      ("stargazers_count", count r.stars), ("forks_count", count r.forks)] v

/-- An array is written there, with these records in this order. -/
def WritesAll (records : List Repository) (v : Json) : Prop :=
  ∃ items, v = .array items ∧ List.Forall₂ Writes records items

/-- The quota is written there. -/
def WritesQuota (q : Quota) (v : Json) : Prop :=
  ∃ core resources, HasFields [("remaining", count q.remaining), ("reset", signed q.reset)] core ∧
    HasFields [("core", core)] resources ∧ HasFields [("resources", resources)] v

theorem recordOf?_of_writes {r : Repository} {v : Json} (h : Writes r v) :
    recordOf? v = some r := by
  obtain ⟨owner, howner, hfields⟩ := h
  have hlogin := howner.record? (by simp)
  have hrecord := hfields.record? (by simp)
  simp only [List.map_cons, List.map_nil] at hlogin hrecord
  simp [recordOf?, hrecord, hlogin, Json.text?, Json.uint64?_count]

theorem recordsOf?_of_writesAll {records : List Repository} {v : Json}
    (h : WritesAll records v) : recordsOf? v = some records := by
  obtain ⟨items, rfl, hitems⟩ := h
  show items.mapM recordOf? = some records
  induction hitems with
  | nil => rfl
  | cons hr _ ih =>
      rw [List.mapM_cons, recordOf?_of_writes hr, ih]
      rfl

theorem quotaOf?_of_writesQuota {q : Quota} {v : Json} (h : WritesQuota q v) :
    quotaOf? v = some q := by
  obtain ⟨core, resources, hcore, hresources, hv⟩ := h
  have hcore := hcore.record? (by simp)
  have hresources := hresources.record? (by simp)
  have hv := hv.record? (by simp)
  simp only [List.map_cons, List.map_nil] at hcore hresources hv
  simp [quotaOf?, hv, hresources, hcore, Json.uint64?_count, Json.int64?_signed]

/-! ## Responses -/

/-- A response that brings JSON of which `P` holds. -/
def Says (P : Json → Prop) (r : Http.Response) : Prop :=
  r.status = 200 ∧ ∃ bytes v, r.body = .ok bytes ∧ Json.ofBytes? bytes = some v ∧ P v

theorem Says.decode {α : Type} {P : Json → Prop} {take? : Json → Option α} {a : α}
    {r : Http.Response} (h : Says P r) (htake : ∀ v, P v → take? v = some a) (url : String) :
    decode take? url r = .ok a := by
  obtain ⟨-, bytes, v, hbody, hv, hP⟩ := h
  simp only [Client.decode, hbody, hv, Option.bind_some, htake v hP]

theorem Says.answered {α : Type} {P : Json → Prop} {take? : Json → Option α} {a : α}
    {r : Http.Response} (h : Says P r) (htake : ∀ v, P v → take? v = some a) (url : String) :
    answered take? url (.ok r) = .ok ⟨a, Http.saysQuotaSpent r.headers⟩ := by
  simp only [Client.answered, settled, if_pos h.1, h.decode htake]
  rfl

theorem answered_missing {α : Type} {take? : Json → Option α} {r : Http.Response}
    (h : r.status = 404) (url : String) :
    answered take? url (.ok r) = .error (.status 404 url) := by
  have hne : ¬r.status = 200 := by rw [h]; decide
  rw [answered, settled, if_neg hne, h]

/-! ## Answers to be sent -/

/-- The tokens of a field and of the comma behind it. -/
def fieldTokens (name : String) (value : Token) : List Token :=
  [.string (some name), .colon, value, .comma]

/-- The tokens of a record. -/
def recordTokens (r : Repository) : List Token :=
  [.beginObject, .string (some "owner"), .colon, .beginObject, .string (some "login"), .colon,
    .string (some r.owner), .endObject, .comma] ++
  fieldTokens "name" (.string (some r.name)) ++
  fieldTokens "html_url" (.string (some r.page)) ++
  fieldTokens "clone_url" (.string (some r.cloneHttp)) ++
  fieldTokens "git_url" (.string (some r.cloneGit)) ++
  fieldTokens "ssh_url" (.string (some r.cloneSsh)) ++
  fieldTokens "stargazers_count" (.number false r.stars.toNat true) ++
  [.string (some "forks_count"), .colon, .number false r.forks.toNat true, .endObject]

/-- The tokens of a page, from its first record on. -/
def moreTokens (records : List Repository) : List Token :=
  (records.flatMap fun r => .comma :: recordTokens r) ++ [.endArray]

/-- The tokens of a page. -/
def pageTokens : List Repository → List Token
  | [] => [.beginArray, .endArray]
  | r :: records => .beginArray :: (recordTokens r ++ moreTokens records)

/-- The tokens of the quota. -/
def quotaTokens (q : Quota) : List Token :=
  [.beginObject, .string (some "resources"), .colon, .beginObject, .string (some "core"), .colon,
    .beginObject] ++
  fieldTokens "remaining" (.number false q.remaining.toNat true) ++
  [.string (some "reset"), .colon, .number (q.reset.toInt < 0) q.reset.toInt.natAbs true,
    .endObject, .endObject, .endObject]

/-- A response with these tokens in its body. -/
def reply (status : UInt16) (headers : List Http.Header) (tokens : List Token) : Http.Response :=
  ⟨status, headers, .ok (Text.utf8 (.ofList (Token.text tokens)))⟩

/-- The value of a record. -/
def recordJson (r : Repository) : Json :=
  .object [(some "owner", .object [(some "login", .string (some r.owner))]),
    (some "name", .string (some r.name)), (some "html_url", .string (some r.page)),
    (some "clone_url", .string (some r.cloneHttp)), (some "git_url", .string (some r.cloneGit)),
    (some "ssh_url", .string (some r.cloneSsh)), (some "stargazers_count", count r.stars),
    (some "forks_count", count r.forks)]

theorem writes_recordJson (r : Repository) : Writes r (recordJson r) :=
  ⟨_, Json.hasFields_object _, Json.hasFields_object _⟩

theorem run_recordTokens (r : Repository) (around : List Json.Frame) (ts : List Token) :
    (Reader.value around).run (recordTokens r ++ ts) =
      (Reader.place (recordJson r) around).run ts := rfl

theorem run_moreTokens (records : List Repository) : ∀ done : List Json,
    (Reader.afterItem done []).run (moreTokens records) =
      some (.complete (.array (done.reverse ++ records.map recordJson))) := by
  induction records with
  | nil =>
      intro done
      rw [List.map_nil, List.append_nil]
      rfl
  | cons r records ih =>
      intro done
      have hmore : moreTokens (r :: records) =
          .comma :: (recordTokens r ++ moreTokens records) := by
        simp [moreTokens]
      rw [hmore, Reader.run_cons rfl, run_recordTokens]
      show (Reader.afterItem (recordJson r :: done) []).run (moreTokens records) = _
      rw [ih, List.reverse_cons, List.append_assoc]
      rfl

theorem run_pageTokens (records : List Repository) :
    (Reader.value []).run (pageTokens records) =
      some (.complete (.array (records.map recordJson))) := by
  cases records with
  | nil => rfl
  | cons r records =>
      show (Reader.afterItem [recordJson r] []).run (moreTokens records) = _
      rw [run_moreTokens]
      rfl

theorem isSpelled_recordTokens (r : Repository) :
    (recordTokens r).all Token.isSpelled = true := rfl

theorem isSpelled_pageTokens (records : List Repository) :
    (pageTokens records).all Token.isSpelled = true := by
  have hmore : ∀ records, (moreTokens records).all Token.isSpelled = true := by
    intro records
    simp [moreTokens, Token.isSpelled, List.all_flatMap, isSpelled_recordTokens]
  cases records with
  | nil => rfl
  | cons r records =>
      rw [pageTokens, List.all_cons, List.all_append, isSpelled_recordTokens, hmore]
      rfl

/-- **Records that are sent are said.** -/
theorem says_record (headers : List Http.Header) (r : Repository) :
    Says (Writes r) (reply 200 headers (recordTokens r)) :=
  ⟨rfl, _, recordJson r, rfl, Token.ofBytes?_text rfl rfl, writes_recordJson r⟩

theorem says_page (headers : List Http.Header) (records : List Repository) :
    Says (WritesAll records) (reply 200 headers (pageTokens records)) := by
  refine ⟨rfl, _, .array (records.map recordJson), rfl,
    Token.ofBytes?_text (isSpelled_pageTokens records) (run_pageTokens records), _, rfl, ?_⟩
  rw [List.forall₂_map_right_iff]
  exact List.forall₂_same.mpr fun r _ => writes_recordJson r

theorem says_quota (headers : List Http.Header) (q : Quota) :
    Says (WritesQuota q) (reply 200 headers (quotaTokens q)) :=
  ⟨rfl, _, _, rfl, Token.ofBytes?_text rfl rfl, _, _, Json.hasFields_object _,
    Json.hasFields_object _, Json.hasFields_object _⟩

end ForkCensus.Client
