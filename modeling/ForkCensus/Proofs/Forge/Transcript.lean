import ForkCensus.Forge.Catalog
import ForkCensus.Proofs.Forge.Simulation

/-
# Transcripts

A transcript is the list of all that was asked of a hosting service, each
question with its reply, the oldest first.  `Forge.watched` keeps one
beside any service; `watched_alike` says that keeping it changes nothing.

Statements about every service are statements about the transcripts that
a run can leave.  What they speak of is read off here: the calls about
one repository, the records that came in reply to questions for one, and
how many pages of forks had something on them.
-/

namespace ForkCensus

/-- A question to a hosting service and its reply. -/
inductive Exchange where
  /-- The quota, and the time at which the reply was there. -/
  | quota (reply : Except ApiError Quota) (time : Int64)
  | repository (repo : Slug) (reply : Except ApiError (Answer Repository))
  | forkPage (repo : Slug) (page : UInt32) (reply : Except ApiError (Answer (List Repository)))
  | pause (seconds : UInt64)

/-- Whether a call is for the record of a repository. -/
def Call.isRepository : Call → Bool
  | .repository _ => true
  | _ => false

/-- Whether a call is about a repository, in whatever spelling. -/
def Call.about (k : Slug) : Call → Bool
  | .repository j => j.same k
  | .forkPage j _ => j.same k
  | _ => false

/-- The number of the page that a call is for. -/
def Call.page? : Call → Option UInt32
  | .forkPage _ page => some page
  | _ => none

/-- The pages of one repository that were asked for are those of the calls about it. -/
theorem Catalog.pageRequests_eq (calls : List Call) (k : Slug) :
    Catalog.pageRequests calls k = (calls.filter (Call.about k)).filterMap Call.page? := by
  rw [Catalog.pageRequests, List.filterMap_filter]
  congr 1
  funext call
  cases call with
  | quota => rfl
  | repository j => cases h : j.same k <;> simp [Call.about, Call.page?, h]
  | forkPage j page => cases h : j.same k <;> simp [Call.about, Call.page?, h]
  | pause seconds => rfl

namespace Exchange

/-- The question without its reply. -/
def call : Exchange → Call
  | quota _ _ => .quota
  | repository k _ => .repository k
  | forkPage k page _ => .forkPage k page
  | pause seconds => .pause seconds

/-- The calls of a transcript that are about one repository. -/
def callsAbout (k : Slug) (log : List Exchange) : List Call :=
  (log.map call).filter (Call.about k)

/-- The pages of forks of a repository that were asked for. -/
def pagesAsked (k : Slug) (log : List Exchange) : List UInt32 :=
  Catalog.pageRequests (log.map call) k

/-- The repository that was asked for and the record that came, if one did. -/
def record? : Exchange → Option (Slug × Repository)
  | repository k (.ok answer) => some (k, answer.value)
  | _ => none

/-- The records that came in reply to questions for one repository, each with the slug asked for. -/
def records (log : List Exchange) : List (Slug × Repository) :=
  log.filterMap record?

/-- Whether this is a page of forks with something on it. -/
def isFull : Exchange → Bool
  | forkPage _ _ (.ok answer) => !answer.value.isEmpty
  | _ => false

/-- How many pages of forks of a repository had something on them. -/
def fullPages (k : Slug) (log : List Exchange) : Nat :=
  log.countP fun x => x.call.about k && x.isFull

/-- How many questions were for the record of a repository. -/
def repositoryCalls (log : List Exchange) : Nat :=
  log.countP fun x => x.call.isRepository

/-- Whether this is a question for a page of forks. -/
def isPage (x : Exchange) : Bool :=
  x.call.page?.isSome

/-- The questions for pages of forks of one repository, with their replies. -/
def pagesOf (k : Slug) (log : List Exchange) : List Exchange :=
  log.filter fun x => x.call.about k && x.isPage

/-- How many questions were for pages of forks. -/
def pageCalls (log : List Exchange) : Nat :=
  log.countP isPage

/-- Whether this is a question for a record or for a page. -/
def isRequest (x : Exchange) : Bool :=
  x.call.isRepository || x.isPage

/-- Whether there is no question for a record or for a page. -/
def Quiet (log : List Exchange) : Prop :=
  ∀ x ∈ log, x.isRequest = false

/-- The records that came in a reply, whatever the question was. -/
def returned : Exchange → List Repository
  | repository _ (.ok answer) => [answer.value]
  | forkPage _ _ (.ok answer) => answer.value
  | _ => []

/-- Whether this is a question for the quota that failed. -/
def isQuotaFailure : Exchange → Bool
  | quota (.error _) _ => true
  | _ => false

/-- Whether the last question was for the quota, where a listing was to begin, and failed.  Within a
listing the quota is asked for only right after a page with something on it. -/
def endsUngated (log : List Exchange) : Bool :=
  log.getLast?.any isQuotaFailure && !log.dropLast.getLast?.any isFull

/-- Whether a service gives this reply in one of its states. -/
def From {σ : Type} (F : Forge σ) : Exchange → Prop
  | quota reply _ => ∃ s, (F.quota s).1 = reply
  | repository k reply => ∃ s, (F.repository k s).1 = reply
  | forkPage k page reply => ∃ s, (F.forkPage k page s).1 = reply
  | pause _ => True

theorem callsAbout_eq (k : Slug) (log : List Exchange) :
    callsAbout k log = (log.filter fun x => x.call.about k).map call := by
  rw [callsAbout, List.filter_map]
  rfl

@[simp] theorem callsAbout_append (k : Slug) (log log' : List Exchange) :
    callsAbout k (log ++ log') = callsAbout k log ++ callsAbout k log' := by
  simp [callsAbout]

theorem pagesAsked_eq (k : Slug) (log : List Exchange) :
    pagesAsked k log = (callsAbout k log).filterMap Call.page? :=
  Catalog.pageRequests_eq _ _

@[simp] theorem callsAbout_nil (k : Slug) : callsAbout k [] = [] := rfl

@[simp] theorem records_append (log log' : List Exchange) :
    records (log ++ log') = records log ++ records log' := by
  simp [records]

@[simp] theorem records_nil : records [] = [] := rfl

@[simp] theorem fullPages_append (k : Slug) (log log' : List Exchange) :
    fullPages k (log ++ log') = fullPages k log + fullPages k log' := by
  simp [fullPages]

@[simp] theorem fullPages_nil (k : Slug) : fullPages k [] = 0 := rfl

@[simp] theorem repositoryCalls_append (log log' : List Exchange) :
    repositoryCalls (log ++ log') = repositoryCalls log + repositoryCalls log' := by
  simp [repositoryCalls]

@[simp] theorem repositoryCalls_nil : repositoryCalls [] = 0 := rfl

@[simp] theorem pagesOf_append (k : Slug) (log log' : List Exchange) :
    pagesOf k (log ++ log') = pagesOf k log ++ pagesOf k log' := by
  simp [pagesOf]

@[simp] theorem pageCalls_append (log log' : List Exchange) :
    pageCalls (log ++ log') = pageCalls log + pageCalls log' := by
  simp [pageCalls]

@[simp] theorem endsUngated_concat (log : List Exchange) (x : Exchange) :
    endsUngated (log ++ [x]) = (x.isQuotaFailure && !log.getLast?.any isFull) := by
  simp [endsUngated]

/-! ## Without requests -/

theorem quota_or_pause {x : Exchange} (h : x.isRequest = false) :
    (∃ reply time, x = .quota reply time) ∨ ∃ seconds, x = .pause seconds := by
  cases x with
  | quota reply time => exact Or.inl ⟨reply, time, rfl⟩
  | pause seconds => exact Or.inr ⟨seconds, rfl⟩
  | repository => cases h
  | forkPage => cases h

section

variable {log : List Exchange}

theorem quiet_nil : Quiet [] := nofun

theorem quiet_quota (reply : Except ApiError Quota) (time : Int64) :
    Quiet [.quota reply time] := by
  simp [Quiet, isRequest, isPage, call, Call.isRepository, Call.page?]

theorem Quiet.callsAbout (h : Quiet log) (k : Slug) : callsAbout k log = [] := by
  rw [callsAbout_eq, List.map_eq_nil_iff, List.filter_eq_nil_iff]
  intro x hx
  obtain ⟨_, _, rfl⟩ | ⟨_, rfl⟩ := quota_or_pause (h x hx) <;> nofun

theorem Quiet.pagesOf (h : Quiet log) (k : Slug) : pagesOf k log = [] := by
  refine List.filter_eq_nil_iff.mpr fun x hx => ?_
  obtain ⟨_, _, rfl⟩ | ⟨_, rfl⟩ := quota_or_pause (h x hx) <;> nofun

theorem Quiet.repositoryCalls (h : Quiet log) : repositoryCalls log = 0 := by
  refine List.countP_eq_zero.mpr fun x hx => ?_
  obtain ⟨_, _, rfl⟩ | ⟨_, rfl⟩ := quota_or_pause (h x hx) <;> nofun

theorem Quiet.records (h : Quiet log) : records log = [] := by
  refine List.filterMap_eq_nil_iff.mpr fun x hx => ?_
  obtain ⟨_, _, rfl⟩ | ⟨_, rfl⟩ := quota_or_pause (h x hx) <;> rfl

end

end Exchange

namespace Forge

variable {σ : Type}

/-- The same service, with the transcript of all that was asked so far beside its state. -/
def watched (F : Forge σ) : Forge (List Exchange × σ) where
  quota s :=
    let (reply, t) := F.quota s.2
    (reply, s.1 ++ [.quota reply (F.now t)], t)
  repository k s :=
    let (reply, t) := F.repository k s.2
    (reply, s.1 ++ [.repository k reply], t)
  forkPage k page s :=
    let (reply, t) := F.forkPage k page s.2
    (reply, s.1 ++ [.forkPage k page reply], t)
  pause seconds s := (s.1 ++ [.pause seconds], F.pause seconds s.2)
  now s := F.now s.2
  note e s := (s.1, F.note e s.2)

/-- Watching a service changes nothing. -/
theorem watched_alike (F : Forge σ) : Alike (fun s t => s.2 = t) F.watched F where
  quota h := ⟨by rw [← h]; rfl, by rw [← h]; rfl⟩
  pause _ h := by rw [← h]; rfl
  now h := by rw [← h]; rfl
  note _ h := by rw [← h]; rfl
  repository _ h := ⟨by rw [← h]; rfl, by rw [← h]; rfl⟩
  forkPage _ _ h := ⟨by rw [← h]; rfl, by rw [← h]; rfl⟩

/-- What holds of two transcripts and is kept by every exchange with the service, is kept by
watching it beside either. -/
theorem watched_keeps (F : Forge σ) {P : List Exchange → List Exchange → Prop}
    (keep : ∀ {log log' : List Exchange} {x : Exchange}, P log log' → x.From F →
      P (log ++ [x]) (log' ++ [x])) :
    Alike (fun s t => P s.1 t.1 ∧ s.2 = t.2) F.watched F.watched where
  quota {s t} h := by
    obtain ⟨log, s⟩ := s
    obtain ⟨log', _⟩ := t
    obtain ⟨hlog, rfl⟩ := h
    exact ⟨rfl, keep hlog ⟨s, rfl⟩, rfl⟩
  pause {s t} seconds h := by
    obtain ⟨log, s⟩ := s
    obtain ⟨log', _⟩ := t
    obtain ⟨hlog, rfl⟩ := h
    exact ⟨keep (x := .pause seconds) hlog trivial, rfl⟩
  now h := by simp [watched, h.2]
  note _ h := ⟨h.1, by simp [watched, h.2]⟩
  repository {s t} k h := by
    obtain ⟨log, s⟩ := s
    obtain ⟨log', _⟩ := t
    obtain ⟨hlog, rfl⟩ := h
    exact ⟨rfl, keep hlog ⟨s, rfl⟩, rfl⟩
  forkPage {s t} k page h := by
    obtain ⟨log, s⟩ := s
    obtain ⟨log', _⟩ := t
    obtain ⟨hlog, rfl⟩ := h
    exact ⟨rfl, keep hlog ⟨s, rfl⟩, rfl⟩

/-- Every reply in a transcript is one that the service gives. -/
theorem watched_from (F : Forge σ) :
    Alike (fun s t => (s.1 = t.1 ∧ ∀ x ∈ s.1, x.From F) ∧ s.2 = t.2) F.watched F.watched :=
  F.watched_keeps (P := fun log log' => log = log' ∧ ∀ x ∈ log, x.From F) fun h hx => by
    refine ⟨by rw [h.1], fun y hy => ?_⟩
    rcases List.mem_append.mp hy with hy | hy
    · exact h.2 y hy
    · rwa [List.mem_singleton.mp hy]

/-- What is in the transcript at the start changes nothing, and stays there. -/
theorem watched_after (F : Forge σ) (before : List Exchange) :
    Alike (fun s t => s.1 = before ++ t.1 ∧ s.2 = t.2) F.watched F.watched :=
  F.watched_keeps (P := fun log log' => log = before ++ log') fun h _ => by
    rw [h, List.append_assoc]

end Forge

end ForkCensus
