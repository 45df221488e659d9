import ForkCensus.Discovery.Listing

/-
# Following forks of forks

A `Crawl` hands out everything that can be reached from a repository
through forks.  It lists one repository at a time; the repositories that
have forks of their own wait on a stack.  Two sets keep it from going in
circles: `listed` holds the repositories whose listing was begun, `seen`
those that were handed out.

A service may go on for ever answering with repositories that were seen
before, so pulling one record need not end.  One `step` always does; it
either hands out a record or passes over something, and `Survey` counts
steps.
-/

namespace ForkCensus

/-- What one step of a discovery brings: a pull's result, or nothing to hand out yet. -/
inductive Move where
  | item (r : Repository)
  | passed
  | finished
  | failed (e : ApiError)
deriving Repr, DecidableEq

/-- A discovery of forks of forks. -/
structure Crawl where
  /-- Repositories to be listed, the next one first. -/
  stack : List Slug
  listed : SlugSet
  seen : SlugSet
  /-- The listing under way. -/
  current : Option Listing
deriving Repr, DecidableEq

namespace Crawl

variable {σ : Type}

/-- A crawl from which nothing was pulled. -/
def start (root : Slug) : Crawl :=
  ⟨[root], .empty, .empty, none⟩

/-- The crawl after a failure: nothing is left to be listed. -/
def close (c : Crawl) : Crawl :=
  { c with stack := [], current := none }

/-- Puts a repository on the stack if it has forks that were not listed yet. -/
def push (c : Crawl) (r : Repository) : Crawl :=
  if r.hasForks && !c.listed.contains r.slug then { c with stack := r.slug :: c.stack } else c

/-- Takes in a record: it may be listed later, and is handed out unless it was seen before. -/
def take (c : Crawl) (r : Repository) : Move × Crawl :=
  let pushed := c.push r
  match pushed.seen.insert r.slug with
  | (true, seen) => (.item r, { pushed with seen })
  | (false, _) => (.passed, pushed)

/-- Begins to list the repository on top of the stack, unless it was listed before. -/
def descend (F : Forge σ) (c : Crawl) (s : σ) : Move × Crawl × σ :=
  match c.stack with
  | [] => (.finished, c, s)
  | k :: stack =>
    match c.listed.insert k with
    | (false, _) => (.passed, { c with stack }, s)
    | (true, listed) =>
      (.passed, { c with stack, listed, current := some (.start k) },
        F.note (.expanding k stack.length) s)

/-- One step: pulls from the listing under way, or begins the next. -/
def step (F : Forge σ) (c : Crawl) (s : σ) : Move × Crawl × σ :=
  match c.current with
  | none => c.descend F s
  | some l =>
    match l.pull F s with
    | (.failed e, _, t) => (.failed e, c.close, t)
    | (.finished, _, t) => (.passed, { c with current := none }, t)
    | (.item r, l', t) =>
      let (move, c') := { c with current := some l' }.take r
      (move, c', t)

/-- How many listings were begun. -/
def listedCount (c : Crawl) : Nat :=
  c.listed.size

end Crawl

end ForkCensus
