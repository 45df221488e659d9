import ForkCensus.Forge.Quota
import ForkCensus.Journal.Event
import ForkCensus.Repository

/-
# Hosting services

A `Forge` is a code hosting service as fork discovery sees it: something
that answers three questions (the quota, one repository, one page of a
repository's forks), lets time pass when asked to, tells the time, and
keeps the journal.

A `Gate` is the part of it that waiting for quota takes.

The service has a state of an arbitrary type, which every question may
change.  So a statement about all forges covers services whose answers
depend on everything asked before, contradict each other or fail at any
point.  `Forge.recorded` keeps the list of calls beside any service.
-/

namespace ForkCensus

/-- Why a question to a hosting service went unanswered. -/
inductive ApiError where
  /-- It answered with a status other than 200. -/
  | status (code : UInt16) (url : String)
  /-- There was no answer, or not all of one. -/
  | network (url : String) (reason : String)
  /-- The answer did not have the expected form. -/
  | malformed (url : String) (reason : String)
deriving Repr, DecidableEq, Inhabited

namespace ApiError

/-- The error in words. -/
def message : ApiError → String
  | status code url => s!"HTTP {code} from {url}"
  | network url reason => s!"network error requesting {url}: {reason}"
  | malformed url reason => s!"malformed response from {url}: {reason}"

/-- The status of the answer, if the error is about one. -/
def status? : ApiError → Option UInt16
  | status code _ => some code
  | _ => none

end ApiError

/-- An answer, and whether it came with the last request of the quota. -/
structure Answer (α : Type) where
  value : α
  quotaSpent : Bool
deriving Repr, DecidableEq

/-- What it takes to wait for quota, with states in `σ`. -/
structure Gate (σ : Type) where
  /-- What is left of the quota. -/
  quota : σ → Except ApiError Quota × σ
  /-- Lets a number of seconds pass. -/
  pause : UInt64 → σ → σ
  /-- The time, in seconds since the epoch. -/
  now : σ → Int64
  /-- Enters an event into the journal. -/
  note : Event → σ → σ

/-- A hosting service with states in `σ`. -/
structure Forge (σ : Type) extends Gate σ where
  /-- The record of one repository. -/
  repository : Slug → σ → Except ApiError (Answer Repository) × σ
  /-- One page of a repository's forks, counted from 1; an empty page is past the last. -/
  forkPage : Slug → UInt32 → σ → Except ApiError (Answer (List Repository)) × σ

/-- Asks for the quota and, if none is left, waits until there is. -/
def Gate.awaitQuota {σ : Type} (G : Gate σ) (s : σ) : Except ApiError Unit × σ :=
  match G.quota s with
  | (.error e, t) => (.error e, t)
  | (.ok q, t) =>
    match q.wait (G.now t) with
    | some seconds => (.ok (), G.pause seconds (G.note (.quotaSpent seconds q.reset) t))
    | none => (.ok (), G.note (.quotaLeft q.remaining) t)

/-- A call to a hosting service. -/
inductive Call where
  | quota
  | repository (repo : Slug)
  | forkPage (repo : Slug) (page : UInt32)
  | pause (seconds : UInt64)
deriving Repr, DecidableEq

namespace Forge

variable {σ : Type}

/-- The same service, with the list of all calls so far beside its state. -/
def recorded (F : Forge σ) : Forge (List Call × σ) where
  quota s :=
    let (reply, t) := F.quota s.2
    (reply, s.1 ++ [.quota], t)
  repository k s :=
    let (reply, t) := F.repository k s.2
    (reply, s.1 ++ [.repository k], t)
  forkPage k page s :=
    let (reply, t) := F.forkPage k page s.2
    (reply, s.1 ++ [.forkPage k page], t)
  pause seconds s := (s.1 ++ [.pause seconds], F.pause seconds s.2)
  now s := F.now s.2
  note e s := (s.1, F.note e s.2)

end Forge

end ForkCensus
