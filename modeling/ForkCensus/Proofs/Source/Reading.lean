import ForkCensus.Proofs.Text.Cutting
import ForkCensus.Source

/-
# What a source is read as

A source is accepted exactly if it is, written out, an address of the
served host whose path has two segments that are not empty, the second of
them more than the suffix of clones (`slug?_eq_ok_iff`).
-/

namespace ForkCensus.Source

/-- The address that a source is written out to. -/
def address (source : String) : String :=
  String.ofList (expand (Text.strip Unicode.isBlank source.toList))

/-! ## Names -/

theorem nameOf_suffixed (name : List Char) :
    nameOf (String.ofList (name ++ cloneSuffix)) = String.ofList name := by
  rw [nameOf, String.toList_ofList, Text.dropTail?_eq_some_iff.mpr rfl]

theorem nameOf_bare {name : List Char} (h : ¬cloneSuffix <:+ name) :
    nameOf (String.ofList name) = String.ofList name := by
  rw [nameOf, String.toList_ofList]
  cases hdrop : Text.dropTail? cloneSuffix name with
  | none => rfl
  | some front => exact absurd ⟨front, (Text.dropTail?_eq_some_iff.mp hdrop).symm⟩ h

/-- A name is all of its segment, or all but the suffix. -/
theorem nameOf_cases (segment : String) : nameOf segment = segment ∨
    segment.toList = (nameOf segment).toList ++ cloneSuffix := by
  rw [nameOf]
  cases hdrop : Text.dropTail? cloneSuffix segment.toList with
  | none => exact .inl rfl
  | some front =>
      right
      rw [String.toList_ofList]
      exact Text.dropTail?_eq_some_iff.mp hdrop

/-! ## Paths -/

theorem slugOfSegments?_eq_some_iff {segments : List String} {k : Slug} :
    slugOfSegments? segments = some k ↔ ∃ segment rest,
      (segments.filter fun segment => !segment.isEmpty) = k.owner :: segment :: rest ∧
        nameOf segment = k.name ∧ k.name ≠ "" := by
  have hempty (s : String) : s.isEmpty = true ↔ s = "" := String.isEmpty_iff
  rw [slugOfSegments?]
  split
  · rename_i owner segment rest hfilter
    rw [hfilter]
    constructor
    · intro h
      split at h
      · cases h
      · rename_i hne
        cases h
        exact ⟨segment, rest, rfl, rfl, fun h => hne ((hempty _).mpr h)⟩
    · rintro ⟨segment', rest', heq, hname, hne⟩
      cases heq
      rw [if_neg (by rw [hempty, hname]; exact hne), hname]
  · rename_i hfilter
    constructor
    · nofun
    · rintro ⟨segment, rest, heq, -⟩
      exact absurd heq (hfilter _ _ _)

/-- **A source is accepted** exactly if its address has the served host and a path that names a
repository. -/
theorem slug?_eq_ok_iff {source : String} {k : Slug} : slug? source = .ok k ↔ ∃ u host,
    Url.ofText? (address source) = some u ∧ u.hostText? = some host ∧
      Text.Ascii.same host servedHost = true ∧ slugOfSegments? u.segments = some k := by
  have haddress : String.ofList (expand (Text.strip Unicode.isBlank source.toList)) =
      address source := rfl
  simp only [slug?, haddress]
  cases hu : Url.ofText? (address source) with
  | none => simp
  | some u =>
      cases hhost : u.hostText? with
      | none => simp [hhost]
      | some host =>
          cases hsame : Text.Ascii.same host servedHost with
          | false => simp [hhost, hsame]
          | true =>
              cases hslug : slugOfSegments? u.segments with
              | none => simp [hhost, hsame, hslug]
              | some slug => simp [hhost, hsame, hslug]

end ForkCensus.Source
