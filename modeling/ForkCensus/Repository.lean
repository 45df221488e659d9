import ForkCensus.Slug

/-
# Repository records

What the hosting service says of one repository.  A record is read once
from an answer and never changed.
-/

namespace ForkCensus

/-- One repository: its slug, its addresses and its two counts. -/
structure Repository where
  owner : String
  name : String
  /-- Where a browser shows it. -/
  page : String
  /-- Clone address over HTTP. -/
  cloneHttp : String
  /-- Clone address over the git protocol. -/
  cloneGit : String
  /-- Clone address over SSH. -/
  cloneSsh : String
  /-- How many direct forks the service counts. -/
  forks : UInt64
  stars : UInt64
deriving Repr, DecidableEq, Inhabited

namespace Repository

/-- The slug under which the record was made. -/
def slug (r : Repository) : Slug :=
  ⟨r.owner, r.name⟩

/-- Whether the service counts any fork of it. -/
def hasForks (r : Repository) : Bool :=
  0 < r.forks

/-- The record on one line, as a detailed report lists it. -/
def display (r : Repository) : String :=
  s!"{r.slug.display} (stars: {r.stars}, forks: {r.forks}) {r.page}"

/-- A record with the addresses that the public service gives, without forks. -/
def sample (k : Slug) (stars : UInt64) : Repository where
  owner := k.owner
  name := k.name
  page := s!"https://github.com/{k.display}"
  cloneHttp := s!"https://github.com/{k.display}.git"
  cloneGit := s!"git://github.com/{k.display}.git"
  cloneSsh := s!"git@github.com:{k.display}.git"
  forks := 0
  stars := stars

@[simp] theorem slug_sample (k : Slug) (stars : UInt64) : (sample k stars).slug = k := rfl

end Repository

end ForkCensus
