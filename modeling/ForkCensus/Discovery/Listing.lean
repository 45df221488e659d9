import ForkCensus.Forge.Basic

/-
# Listing one repository and its forks

A `Listing` hands out the record of one repository and then, page by
page, the records of its direct forks.  It is pulled: nothing is asked of
the service before a record is wanted, and one pull asks for at most one
page.  An empty page or a failure ends it for good.
-/

namespace ForkCensus

/-- What one pull brings. -/
inductive Pull where
  | item (r : Repository)
  | finished
  | failed (e : ApiError)
deriving Repr, DecidableEq

/-- How far a listing has come. -/
inductive Listing.Phase where
  /-- Nothing was asked yet. -/
  | start
  /-- The pages of forks are being asked for. -/
  | paging
  /-- There is nothing more, or a question failed. -/
  | over
deriving Repr, DecidableEq

/-- A listing of the repository `root` and its forks. -/
structure Listing where
  root : Slug
  phase : Listing.Phase
  /-- The page to ask for next. -/
  nextPage : UInt32
  /-- Records that came but were not handed out yet. -/
  buffer : List Repository
  /-- Whether the last page came with the last request of the quota. -/
  quotaSpent : Bool
deriving Repr, DecidableEq

namespace Listing

variable {σ : Type}

/-- A listing from which nothing was pulled. -/
def start (root : Slug) : Listing :=
  ⟨root, .start, 1, [], false⟩

/-- The listing when it is over. -/
def close (l : Listing) : Listing :=
  { l with phase := .over, buffer := [] }

/-- Asks for the record of the repository, once there is quota. -/
def pullRoot (F : Forge σ) (l : Listing) (s : σ) : Pull × Listing × σ :=
  match F.awaitQuota (F.note (.fetchingRepository l.root) s) with
  | (.error e, t) => (.failed e, l.close, t)
  | (.ok (), t) =>
    match F.repository l.root t with
    | (.error e, u) => (.failed e, l.close, u)
    | (.ok answer, u) =>
      (.item answer.value,
        { l with phase := if answer.value.hasForks then .paging else .over }, u)

/-- Waits for quota where the last page used it up. -/
def awaitPage (F : Forge σ) (l : Listing) (s : σ) : Except ApiError Unit × σ :=
  if l.quotaSpent then F.awaitQuota s else (.ok (), s)

/-- Asks for the next page and hands out its first record; an empty page is the end. -/
def pullPage (F : Forge σ) (l : Listing) (s : σ) : Pull × Listing × σ :=
  match l.awaitPage F s with
  | (.error e, t) => (.failed e, l.close, t)
  | (.ok (), t) =>
    match F.forkPage l.root l.nextPage t with
    | (.error e, u) => (.failed e, l.close, u)
    | (.ok answer, u) =>
      let v := F.note (.fetchedPage l.root l.nextPage answer.value.length) u
      match answer.value with
      | [] => (.finished, l.close, v)
      | r :: rest =>
        (.item r,
          { l with nextPage := l.nextPage + 1, buffer := rest, quotaSpent := answer.quotaSpent }, v)

/-- Hands out the next record. -/
def pull (F : Forge σ) (l : Listing) (s : σ) : Pull × Listing × σ :=
  match l.buffer with
  | r :: rest => (.item r, { l with buffer := rest }, s)
  | [] =>
    match l.phase with
    | .start => l.pullRoot F s
    | .paging => l.pullPage F s
    | .over => (.finished, l, s)

end Listing

end ForkCensus
