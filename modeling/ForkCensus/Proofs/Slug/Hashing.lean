import Std.Data.HashSet.Lemmas
import Mathlib.Data.List.Induction
import Mathlib.Data.Set.Card
import ForkCensus.Proofs.Text.Cutting
import ForkCensus.Proofs.Text.Variants
import ForkCensus.Slug

/-
# Comparing and hashing slugs

What is collected in this library is collected modulo `Slug.same`.  A
plain list of members asks that of each of them.  A hash table asks twice:
it goes where the bytes of a slug lead (`Slug.hashInput`), and compares
only what it finds there, so it works as a set only if slugs that are the
same have the same bytes (`Slug.hashInput_of_same`).

The bytes are those of the written slug, folded (`Slug.hashInput_eq`), and
a written slug can be cut again at its first slash.  So the bytes tell
different slugs apart unless an owner has a slash in it.  Then two slugs
may share their bytes and be different, which a table finds out when it
compares.

Of a set of any kind no more is used than the three laws of
`Slug.Collects`, one for each thing that adding a slug does.  What a run of
additions comes to follows from these by induction on the run, the last
slug taken off (`Slug.Collects.insertAll`).
-/

namespace ForkCensus

namespace Slug

/-! ## The bytes of a slug -/

theorem display_fold (k : Slug) : k.fold.display = Text.Ascii.fold k.display := by
  rw [← String.toList_inj]
  simp [display, fold, Text.Ascii.fold, String.toList_append]

/-- A slug can be read off its written form, up to case, unless its owner has a slash in it. -/
theorem same_display {a b : Slug} (ha : '/' ∉ a.owner.toList) (hb : '/' ∉ b.owner.toList) :
    Text.Ascii.same a.display b.display = a.same b := by
  have htext (k : Slug) : k.display.toList.map Char.toLower =
      k.owner.toList.map Char.toLower ++ '/' :: k.name.toList.map Char.toLower := by
    simp [display, String.toList_append]
  have hcut {k : Slug} (hk : '/' ∉ k.owner.toList) :
      Text.cut '/' (k.display.toList.map Char.toLower) =
        some (k.owner.toList.map Char.toLower, k.name.toList.map Char.toLower) := by
    rw [htext]
    exact Text.cut_append
      (fun h => hk (Text.mem_of_mem_map_toLower (by decide) (by decide) h)) _
  rw [Bool.eq_iff_iff, Slug.same, Bool.and_eq_true, Text.Ascii.same_iff, Text.Ascii.same_iff,
    Text.Ascii.same_iff]
  constructor
  · intro h
    have hparts := hcut ha
    rw [h, hcut hb, Option.some.injEq, Prod.mk.injEq] at hparts
    exact ⟨hparts.1.symm, hparts.2.symm⟩
  · rintro ⟨howner, hname⟩
    rw [htext, htext, howner, hname]

/-- What is hashed of a slug is the folded slug as it is written. -/
theorem hashInput_eq (k : Slug) : k.hashInput = Text.utf8 k.fold.display := by
  have hslash : Text.utf8 "/" = [0x2F] := by decide
  rw [hashInput, Text.map_foldByte_utf8, Text.map_foldByte_utf8, display, Text.utf8_append,
    Text.utf8_append, hslash, List.append_assoc, List.singleton_append]
  rfl

/-- **Slugs that are the same are hashed alike.** -/
theorem hashInput_of_same {a b : Slug} (h : a.same b = true) : a.hashInput = b.hashInput := by
  rw [hashInput_eq, hashInput_eq, same_iff.mp h]

/-- **Slugs that are hashed alike are the same**, unless an owner has a slash in it. -/
theorem same_of_hashInput {a b : Slug} (ha : '/' ∉ a.owner.toList) (hb : '/' ∉ b.owner.toList)
    (h : a.hashInput = b.hashInput) : a.same b = true := by
  rw [hashInput_eq, hashInput_eq, Text.utf8_inj, display_fold, display_fold] at h
  rw [← same_display ha hb, Text.Ascii.same, beq_iff_eq]
  exact h

/-- With a slash in an owner, different slugs can be hashed alike. -/
example : hashInput ⟨"a/b", "c"⟩ = hashInput ⟨"a", "b/c"⟩ ∧
    same ⟨"a/b", "c"⟩ ⟨"a", "b/c"⟩ = false := by
  decide +kernel

/-! ## The repositories that slugs name -/

theorem same_equivalence : Equivalence fun a b : Slug => a.same b = true where
  refl := same_refl
  symm := fun h => (same_comm _ _).trans h
  trans := same_trans

/-- Slugs that name the same repository. -/
def upToCase : Setoid Slug :=
  ⟨fun a b => a.same b = true, same_equivalence⟩

/-- The repositories that some slugs name, as classes of slugs. -/
def named (keys : List Slug) : Set (Quotient upToCase) :=
  {c | ∃ k ∈ keys, Quotient.mk upToCase k = c}

theorem mem_named {keys : List Slug} {k : Slug} :
    Quotient.mk upToCase k ∈ named keys ↔ ∃ j ∈ keys, j.same k = true := by
  constructor
  · rintro ⟨j, hj, hclass⟩
    exact ⟨j, hj, Quotient.exact hclass⟩
  · rintro ⟨j, hj, hsame⟩
    exact ⟨j, hj, Quotient.sound hsame⟩

theorem named_nil : named [] = ∅ :=
  Set.eq_empty_of_forall_notMem fun _ ⟨_, hk, _⟩ => List.not_mem_nil hk

theorem named_concat (keys : List Slug) (k : Slug) :
    named (keys ++ [k]) = insert (Quotient.mk upToCase k) (named keys) := by
  ext c
  simp [named, or_and_right, exists_or, or_comm, eq_comm]

theorem named_finite (keys : List Slug) : (named keys).Finite :=
  (List.finite_toSet keys).image (Quotient.mk upToCase)

theorem named_perm {keys keys' : List Slug} (h : keys.Perm keys') : named keys = named keys' := by
  ext c
  simp only [named, h.mem_iff]

/-- For each slug, whether no slug before it names the same repository. -/
def areFirst (keys : List Slug) : List Bool :=
  keys.mapIdx fun i k => (keys.take i).all fun j => !j.same k

theorem areFirst_concat (keys : List Slug) (k : Slug) :
    areFirst (keys ++ [k]) = areFirst keys ++ [keys.all fun j => !j.same k] := by
  rw [areFirst, List.mapIdx_concat, List.take_left]
  congr 1
  refine List.mapIdx_eq_mapIdx_iff.mpr fun i hi => ?_
  rw [List.take_append_of_le_length (Nat.le_of_lt hi)]

/-! ## Sets of any kind -/

variable {σ : Type}

/-- Adds slugs one after another: for each whether it was new, and what becomes of the set. -/
def insertAll (insert : σ → Slug → Bool × σ) (s : σ) : List Slug → List Bool × σ
  | [] => ([], s)
  | k :: keys =>
    let (isNew, t) := insert s k
    let (more, u) := insertAll insert t keys
    (isNew :: more, u)

theorem insertAll_concat (insert : σ → Slug → Bool × σ) (s : σ) (keys : List Slug) (k : Slug) :
    insertAll insert s (keys ++ [k]) =
      ((insertAll insert s keys).1 ++ [(insert (insertAll insert s keys).2 k).1],
        (insert (insertAll insert s keys).2 k).2) := by
  induction keys generalizing s with
  | nil => rfl
  | cons j keys ih => simp only [List.cons_append, insertAll, ih]

/-- What is asked of a set: adding a slug tells whether it is new, keeps what was there and the slug,
and adds one to the size if it was new. -/
structure Collects (contains : σ → Slug → Bool) (insert : σ → Slug → Bool × σ) (size : σ → Nat) :
    Prop where
  isNew : ∀ s k, (insert s k).1 = !contains s k
  contains_insert : ∀ s k j, contains (insert s k).2 j = (contains s j || k.same j)
  size_insert : ∀ s k, size (insert s k).2 = if contains s k then size s else size s + 1

/-- The set has the repositories that the slugs name, and no others. -/
structure Holds (contains : σ → Slug → Bool) (size : σ → Nat) (keys : List Slug) (s : σ) :
    Prop where
  contains_eq : ∀ j, contains s j = keys.any fun k => k.same j
  size_eq : size s = (named keys).ncard

/-- What a run of additions to an empty set comes to: a slug is new if it is the first of its kind,
the set has what was added, and its size does not depend on the order. -/
structure Deduplicates (contains : σ → Slug → Bool) (insert : σ → Slug → Bool × σ)
    (size : σ → Nat) (empty : σ) : Prop where
  answers : ∀ keys, (insertAll insert empty keys).1 = areFirst keys
  holds : ∀ keys, Holds contains size keys (insertAll insert empty keys).2
  order : ∀ keys keys', keys.Perm keys' →
    size (insertAll insert empty keys).2 = size (insertAll insert empty keys').2

section

variable {contains : σ → Slug → Bool} {insert : σ → Slug → Bool × σ} {size : σ → Nat}
  {keys : List Slug} {s empty : σ}

theorem Holds.inserted (hs : Holds contains size keys s) (h : Collects contains insert size)
    (k : Slug) : Holds contains size (keys ++ [k]) (insert s k).2 where
  contains_eq j := by
    rw [h.contains_insert, hs.contains_eq, List.any_append, List.any_cons, List.any_nil,
      Bool.or_false]
  size_eq := by
    rw [h.size_insert, hs.size_eq, named_concat]
    cases hin : contains s k with
    | true =>
        rw [hs.contains_eq, List.any_eq_true] at hin
        rw [if_pos rfl, Set.insert_eq_of_mem (mem_named.mpr hin)]
    | false =>
        rw [hs.contains_eq, Bool.eq_false_iff, ne_eq, List.any_eq_true] at hin
        rw [if_neg (by decide), Set.ncard_insert_of_notMem (fun hmem => hin (mem_named.mp hmem))
          (named_finite keys)]

theorem Collects.insertAll (h : Collects contains insert size)
    (hempty : Holds contains size [] empty) (keys : List Slug) :
    (insertAll insert empty keys).1 = areFirst keys ∧
      Holds contains size keys (insertAll insert empty keys).2 := by
  induction keys using List.reverseRecOn with
  | nil => exact ⟨rfl, hempty⟩
  | append_singleton keys k ih =>
      obtain ⟨hanswers, hholds⟩ := ih
      rw [insertAll_concat, areFirst_concat]
      refine ⟨?_, hholds.inserted h k⟩
      rw [hanswers, h.isNew, hholds.contains_eq, List.not_any_eq_all_not]

theorem Collects.deduplicates (h : Collects contains insert size)
    (hempty : Holds contains size [] empty) : Deduplicates contains insert size empty where
  answers keys := (h.insertAll hempty keys).1
  holds keys := (h.insertAll hempty keys).2
  order keys keys' hperm := by
    rw [(h.insertAll hempty keys).2.size_eq, (h.insertAll hempty keys').2.size_eq,
      named_perm hperm]

end

end Slug

theorem SlugSet.collects : Slug.Collects SlugSet.contains SlugSet.insert SlugSet.size where
  isNew s k := by
    cases hin : s.contains k with
    | true => rw [insert_old hin]; rfl
    | false => rw [insert_new hin]; rfl
  contains_insert s k j := by
    rw [Bool.eq_iff_iff, SlugSet.contains_insert, Bool.or_eq_true, Slug.same_comm, Slug.same_iff]
  size_insert s k := by
    cases hin : s.contains k with
    | true => rw [insert_old hin]; rfl
    | false => rw [insert_new hin]; rfl

theorem SlugSet.holds_empty : Slug.Holds SlugSet.contains SlugSet.size [] .empty :=
  ⟨fun _ => rfl, by rw [Slug.named_nil, Set.ncard_empty]; rfl⟩

namespace Slug

/-! ## Hash tables -/

/-- A slug as a key of a hash table, which makes what it likes of the bytes that are hashed. -/
structure Hashed (digest : List UInt8 → UInt64) where
  slug : Slug

namespace Hashed

variable {digest : List UInt8 → UInt64}

instance : BEq (Hashed digest) := ⟨fun a b => a.slug.same b.slug⟩

instance : Hashable (Hashed digest) := ⟨fun k => digest k.slug.hashInput⟩

instance : EquivBEq (Hashed digest) where
  rfl := same_refl _
  symm := same_equivalence.symm
  trans := same_trans

instance : LawfulHashable (Hashed digest) where
  hash_eq _ _ h := congrArg digest (hashInput_of_same h)

end Hashed

/-- A hash table of slugs. -/
abbrev HashTable (digest : List UInt8 → UInt64) : Type :=
  Std.HashSet (Hashed digest)

namespace HashTable

variable {digest : List UInt8 → UInt64}

/-- Whether the table finds the slug. -/
def contains (t : HashTable digest) (k : Slug) : Bool :=
  Std.HashSet.contains t ⟨k⟩

/-- Adds a slug, unless the table finds it; also whether it was added. -/
def insert (t : HashTable digest) (k : Slug) : Bool × HashTable digest :=
  ((!(t.containsThenInsert ⟨k⟩).1), (t.containsThenInsert ⟨k⟩).2)

/-- How many slugs there are in the table. -/
def size (t : HashTable digest) : Nat :=
  Std.HashSet.size t

theorem collects : Collects (σ := HashTable digest) contains insert size where
  isNew t k := by
    rw [insert, Std.HashSet.containsThenInsert_fst]
    rfl
  contains_insert t k j := by
    rw [insert, Std.HashSet.containsThenInsert_snd, contains, Std.HashSet.contains_insert,
      Bool.or_comm]
    rfl
  size_insert t k := by
    rw [insert, Std.HashSet.containsThenInsert_snd, size, Std.HashSet.size_insert]
    rfl

theorem holds_empty : Holds (σ := HashTable digest) contains size [] ∅ :=
  ⟨fun _ => Std.HashSet.contains_empty, by rw [named_nil, Set.ncard_empty]; rfl⟩

end HashTable

/-- **Comparing and hashing slugs go together.**  Comparing is an equivalence; it comes to comparing
the folded slugs, and the owners and the names letter by letter or byte by byte, where only the two
forms of an ASCII letter count as one.  Slugs that are the same are hashed alike, and slugs that are
hashed alike are the same unless an owner has a slash in it.  So a hash table, whatever it makes of
the bytes, says of each slug that is added whether it is the first of its kind, and ends up with one
for each repository that was named, in whatever order; and so does the plain list of a `SlugSet`. -/
theorem hashing_coherent (digest : List UInt8 → UInt64) :
    (Equivalence fun a b : Slug => a.same b = true) ∧
    (∀ a b : Slug, (a.same b = true ↔ a.fold = b.fold) ∧
      (a.same b = true ↔ List.Forall₂ Text.Ascii.Variant a.owner.toList b.owner.toList ∧
        List.Forall₂ Text.Ascii.Variant a.name.toList b.name.toList) ∧
      a.same b = (Text.Ascii.sameBytes (Text.utf8 a.owner) (Text.utf8 b.owner) &&
        Text.Ascii.sameBytes (Text.utf8 a.name) (Text.utf8 b.name))) ∧
    (∀ a b : Slug, a.same b = true → a.hashInput = b.hashInput) ∧
    (∀ a b : Slug, '/' ∉ a.owner.toList → '/' ∉ b.owner.toList → a.hashInput = b.hashInput →
      a.same b = true) ∧
    Deduplicates (σ := HashTable digest) HashTable.contains HashTable.insert HashTable.size ∅ ∧
    Deduplicates SlugSet.contains SlugSet.insert SlugSet.size .empty := by
  refine ⟨same_equivalence, fun a b => ⟨same_iff, ?_, ?_⟩, fun a b => hashInput_of_same,
    fun a b => same_of_hashInput, HashTable.collects.deduplicates HashTable.holds_empty,
    SlugSet.collects.deduplicates SlugSet.holds_empty⟩
  · rw [same, Bool.and_eq_true, Text.Ascii.same_iff_variants, Text.Ascii.same_iff_variants]
  · rw [same, Text.Ascii.same_eq_sameBytes, Text.Ascii.same_eq_sameBytes]

/-- A digest that mixes in one byte after the other. -/
def rolling (bytes : List UInt8) : UInt64 :=
  bytes.foldl (fun n b => 31 * n + b.toUInt64) 0

/-- Two spellings of one repository are added once; letters that are not of ASCII keep their case. -/
theorem hashing_coherent_spellings :
    let a : Slug := ⟨"Octocat", "Spoon-Knife"⟩
    let b : Slug := ⟨"octocat", "spoon-knife"⟩
    '/' ∉ a.owner.toList ∧ '/' ∉ b.owner.toList ∧ a.hashInput = b.hashInput ∧ a.same b = true ∧
      (insertAll HashTable.insert (∅ : HashTable rolling) [a, b, ⟨"É", "x"⟩, ⟨"é", "x"⟩, a]).1 =
        [true, false, true, true, false] := by
  intro a b
  obtain ⟨-, hcompare, hhash, hread, htable, -⟩ := hashing_coherent rolling
  have hbytes (j k : Slug) := (hcompare j k).2.2
  have ha : '/' ∉ a.owner.toList := by decide
  have hb : '/' ∉ b.owner.toList := by decide
  have hinput : a.hashInput = b.hashInput := hhash a b (by rw [hbytes]; decide)
  refine ⟨ha, hb, hinput, hread a b ha hb hinput, ?_⟩
  rw [htable.answers]
  simp only [areFirst, hbytes]
  decide

end Slug

end ForkCensus
