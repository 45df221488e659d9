import ForkCensus.Text.Ascii

/-
# Slugs

A repository is named by its owner and its own name, written
`owner/name`.  The hosting service does not tell `Octocat/Hello` from
`octocat/hello`, so two slugs name the same repository when they agree up
to the case of ASCII letters.  Every collection of repositories in this
library is taken modulo that relation: `SlugSet` holds at most one slug
of each class.
-/

namespace ForkCensus

/-- The name of a repository: the account that owns it, and its name there. -/
structure Slug where
  owner : String
  name : String
deriving Repr, DecidableEq, Inhabited

namespace Slug

/-- The slug with small ASCII letters, the same for every spelling of it. -/
def fold (k : Slug) : Slug :=
  ⟨Text.Ascii.fold k.owner, Text.Ascii.fold k.name⟩

/-- Whether two slugs name the same repository. -/
def same (a b : Slug) : Bool :=
  Text.Ascii.same a.owner b.owner && Text.Ascii.same a.name b.name

/-- The bytes that a hash table sees of a slug: owner, a slash, name, with small letters. -/
def hashInput (k : Slug) : List UInt8 :=
  (Text.utf8 k.owner).map Text.Ascii.foldByte ++
    0x2F :: (Text.utf8 k.name).map Text.Ascii.foldByte

/-- The slug as it is written, `owner/name`. -/
def display (k : Slug) : String :=
  k.owner ++ "/" ++ k.name

/-- Two slugs name the same repository exactly when they fold to the same slug. -/
theorem same_iff {a b : Slug} : a.same b = true ↔ a.fold = b.fold := by
  simp [same, fold, Text.Ascii.same]

theorem same_refl (a : Slug) : a.same a = true := same_iff.2 rfl

theorem same_comm (a b : Slug) : a.same b = b.same a := by
  rw [Bool.eq_iff_iff, same_iff, same_iff]
  exact eq_comm

theorem same_trans {a b c : Slug} (hab : a.same b = true) (hbc : b.same c = true) :
    a.same c = true :=
  same_iff.2 ((same_iff.1 hab).trans (same_iff.1 hbc))

/-- A slug does not tell the spellings of another apart. -/
theorem same_congr {j k : Slug} (h : j.same k = true) (i : Slug) : i.same j = i.same k := by
  rw [Bool.eq_iff_iff, same_iff, same_iff, same_iff.mp h]

/-- Folded slugs are different exactly if no two of the slugs name the same repository. -/
theorem nodup_fold_iff {α : Type} {slug : α → Slug} {l : List α} :
    (l.map fun a => (slug a).fold).Nodup ↔
      l.Pairwise fun a b => (slug a).same (slug b) = false := by
  rw [List.Nodup, List.pairwise_map]
  constructor
  · intro h
    exact h.imp fun hne => Bool.eq_false_iff.2 fun hsame => hne (same_iff.1 hsame)
  · intro h
    exact h.imp fun hdiff heq => Bool.eq_false_iff.1 hdiff (same_iff.2 heq)

end Slug

/-- A set of repositories, each kept under the spelling it first came in, newest first. -/
structure SlugSet where
  members : List Slug
deriving Repr, DecidableEq, Inhabited

namespace SlugSet

/-- The set that holds nothing. -/
def empty : SlugSet := ⟨[]⟩

/-- Whether the set holds the slug, in whatever spelling. -/
def contains (s : SlugSet) (k : Slug) : Bool :=
  s.members.any k.same

/-- Adds a slug, unless the set holds it already; also whether it was added. -/
def insert (s : SlugSet) (k : Slug) : Bool × SlugSet :=
  if s.contains k then (false, s) else (true, ⟨k :: s.members⟩)

/-- How many repositories the set holds. -/
def size (s : SlugSet) : Nat :=
  s.members.length

/-- A set holds a slug exactly when one of its members has the same folded form. -/
theorem contains_iff {s : SlugSet} {k : Slug} :
    s.contains k = true ↔ ∃ m ∈ s.members, k.fold = m.fold := by
  simp [contains, Slug.same_iff]

theorem insert_old {s : SlugSet} {k : Slug} (h : s.contains k = true) :
    s.insert k = (false, s) := by
  rw [insert, if_pos h]

theorem insert_new {s : SlugSet} {k : Slug} (h : s.contains k = false) :
    s.insert k = (true, ⟨k :: s.members⟩) := by
  rw [insert, if_neg (by rw [h]; decide)]

theorem contains_insert {s : SlugSet} {k j : Slug} :
    (s.insert k).2.contains j = true ↔ s.contains j = true ∨ j.fold = k.fold := by
  unfold insert
  split
  · rename_i h
    constructor
    · exact Or.inl
    · rintro (h' | h')
      · exact h'
      · rw [contains_iff] at h ⊢
        exact h' ▸ h
  · simp [contains, Slug.same_iff, or_comm]

end SlugSet

end ForkCensus
