import ForkCensus.Discovery.Survey

/-
# Catalogs

A `Catalog` is a hosting service held in memory: repositories, the list
of forks of each, and what its answers should look like (page size,
quota, counts that differ from the lists, failures).  It is built step by
step; `Catalog.forge` is the service that it describes, which keeps the
list of the calls it got.

All tables are taken modulo the case of slugs.
-/

namespace ForkCensus

/-- A table from slugs, taken without regard to case, to values. -/
structure SlugMap (α : Type) where
  entries : List (Slug × α)
deriving Repr, DecidableEq

namespace SlugMap

variable {α : Type}

/-- The table without entries. -/
def empty : SlugMap α := ⟨[]⟩

/-- The value under a slug, in whatever spelling. -/
def get? (m : SlugMap α) (k : Slug) : Option α :=
  (m.entries.find? fun e => e.1.same k).map Prod.snd

/-- Whether there is a value under the slug. -/
def contains (m : SlugMap α) (k : Slug) : Bool :=
  (m.get? k).isSome

/-- Changes the value under a slug, or enters `f none` at the end. -/
def update (k : Slug) (f : Option α → α) : List (Slug × α) → List (Slug × α)
  | [] => [(k, f none)]
  | (j, a) :: rest => if j.same k then (j, f (some a)) :: rest else (j, a) :: update k f rest

/-- Sets the value under a slug. -/
def insert (m : SlugMap α) (k : Slug) (a : α) : SlugMap α :=
  ⟨update k (fun _ => a) m.entries⟩

/-- Sets the value under a slug that has none. -/
def insertNew (m : SlugMap α) (k : Slug) (a : α) : SlugMap α :=
  ⟨update k (fun old => old.getD a) m.entries⟩

end SlugMap

/-- A question that a catalog is to leave unanswered. -/
inductive Fault where
  | quota (e : ApiError)
  | repository (repo : Slug) (e : ApiError)
  | forkPage (repo : Slug) (page : UInt32) (e : ApiError)
deriving Repr, DecidableEq

/-- A hosting service held in memory. -/
structure Catalog where
  repos : SlugMap Repository
  forks : SlugMap (List Slug)
  /-- Fork counts to be reported in place of the lengths of the lists. -/
  forkCounts : SlugMap UInt64
  /-- How many forks a page holds. -/
  pageSize : Nat
  quota : Quota
  /-- Pages that come with the last request of the quota. -/
  spentPages : List (Slug × UInt32)
  faults : List Fault
  pageSize_pos : 0 < pageSize := by decide
deriving Repr, DecidableEq

namespace Catalog

/-- No repositories, pages of a hundred and plenty of quota. -/
def empty : Catalog where
  repos := .empty
  forks := .empty
  forkCounts := .empty
  pageSize := 100
  quota := ⟨5000, 0⟩
  spentPages := []
  faults := []

/-! ## Building -/

/-- Enters a repository with the given stars, in place of one of that name. -/
def withRepo (c : Catalog) (k : Slug) (stars : UInt64) : Catalog :=
  { c with repos := c.repos.insert k (.sample k stars) }

/-- Enters a repository without stars, unless it is there. -/
def ensureRepo (c : Catalog) (k : Slug) : Catalog :=
  { c with repos := c.repos.insertNew k (.sample k 0) }

/-- Appends a fork to the list of its parent; either is entered if it is not there. -/
def withFork (c : Catalog) (parent fork : Slug) : Catalog :=
  let c := (c.ensureRepo parent).ensureRepo fork
  { c with forks := ⟨SlugMap.update parent (fun old => old.getD [] ++ [fork]) c.forks.entries⟩ }

/-- Has a repository report a count of forks that need not be the length of its list. -/
def withForkCount (c : Catalog) (k : Slug) (count : UInt64) : Catalog :=
  { c with forkCounts := c.forkCounts.insert k count }

/-- Sets how many forks a page holds, at least one. -/
def withPageSize (c : Catalog) (size : Nat) : Catalog :=
  { c with pageSize := max size 1, pageSize_pos := by omega }

/-- Has a page come with the last request of the quota. -/
def withSpentPage (c : Catalog) (k : Slug) (page : UInt32) : Catalog :=
  { c with spentPages := c.spentPages ++ [(k, page)] }

/-- Has a question fail; of several faults for one question the first counts. -/
def withFault (c : Catalog) (fault : Fault) : Catalog :=
  { c with faults := c.faults ++ [fault] }

/-- Sets the quota that is reported. -/
def withQuota (c : Catalog) (q : Quota) : Catalog :=
  { c with quota := q }

/-! ## Views -/

/-- The forks listed for a repository. -/
def forkList (c : Catalog) (k : Slug) : List Slug :=
  (c.forks.get? k).getD []

/-- How many forks are reported for a repository. -/
def forkCount (c : Catalog) (k : Slug) : UInt64 :=
  (c.forkCounts.get? k).getD (UInt64.ofNat (c.forkList k).length)

/-- The record of a repository as it is reported. -/
def record? (c : Catalog) (k : Slug) : Option Repository :=
  (c.repos.get? k).map fun r => { r with forks := c.forkCount k }

/-- The forks on a page; pages count from 1, and page 0 is page 1. -/
def pageOf (c : Catalog) (k : Slug) (page : UInt32) : List Slug :=
  ((c.forkList k).drop ((max page.toNat 1 - 1) * c.pageSize)).take c.pageSize

/-- A number of steps in which any survey of the catalog ends. -/
def budget (c : Catalog) (v : Survey) : Nat :=
  4 * (c.repos.entries.length + (c.forks.entries.flatMap Prod.snd).length + v.load + 2)

/-! ## The service -/

/-- The failure of a question about a repository that is not there. -/
def notFound (k : Slug) : ApiError :=
  .status 404 s!"mock://repos/{k.display}"

/-- What the catalog answers when asked for the quota. -/
def answerQuota (c : Catalog) : Except ApiError Quota :=
  match c.faults.findSome? fun | .quota e => some e | _ => none with
  | some e => .error e
  | none => .ok c.quota

/-- What the catalog answers when asked for a repository. -/
def answerRepository (c : Catalog) (k : Slug) : Except ApiError (Answer Repository) :=
  match c.faults.findSome? fun
    | .repository j e => if j.same k then some e else none
    | _ => none with
  | some e => .error e
  | none =>
    match c.record? k with
    | none => .error (notFound k)
    | some r => .ok ⟨r, false⟩

/-- What the catalog answers when asked for a page of forks. -/
def answerPage (c : Catalog) (k : Slug) (page : UInt32) :
    Except ApiError (Answer (List Repository)) :=
  match c.faults.findSome? fun
    | .forkPage j p e => if j.same k && p == page then some e else none
    | _ => none with
  | some e => .error e
  | none =>
    if c.repos.contains k then
      .ok ⟨(c.pageOf k page).filterMap c.record?,
        c.spentPages.any fun spent => spent.1.same k && spent.2 == page⟩
    else .error (notFound k)

/-- The service that answers from the catalog and keeps the calls it gets, the oldest first; after
`n` calls the time is `clock n`. -/
def forge (clock : Nat → Int64) : Forge (List Call × Catalog) where
  quota s := (s.2.answerQuota, s.1 ++ [.quota], s.2)
  repository k s := (s.2.answerRepository k, s.1 ++ [.repository k], s.2)
  forkPage k page s := (s.2.answerPage k page, s.1 ++ [.forkPage k page], s.2)
  pause seconds s := (s.1 ++ [.pause seconds], s.2)
  now s := clock s.1.length
  note _ s := s

/-! ## What was asked -/

/-- The waits among the calls, in seconds. -/
def pauses (calls : List Call) : List UInt64 :=
  calls.filterMap fun | .pause seconds => some seconds | _ => none

/-- How often the record of a repository was asked for. -/
def repositoryRequests (calls : List Call) (k : Slug) : Nat :=
  calls.countP fun | .repository j => j.same k | _ => false

/-- The pages of forks that were asked for. -/
def pageRequests (calls : List Call) (k : Slug) : List UInt32 :=
  calls.filterMap fun | .forkPage j page => if j.same k then some page else none | _ => none

end Catalog

end ForkCensus
