import ForkCensus.Proofs.Files.Change

/-
# What a path looks at

A path is followed name by name, and so only the places that it passes
count (`FileTree.passed`): in trees with one working directory that are
the same there, it leads to the same (`FileTree.resolve_congr`).  With
what is known of writing, a file that is written elsewhere is not noticed
(`FileTree.write_apart`).
-/

namespace ForkCensus

/-- The places that names pass from a place on, whatever is there. -/
def Files.Path.passed (place : List String) : List String → List (List String)
  | [] => [place]
  | name :: rest =>
    place ::
      if name == "." then passed place rest
      else if name == ".." then passed place.dropLast rest
      else passed (place ++ [name]) rest

namespace FileTree

open Files

/-- The places that a path passes, whatever is there. -/
def passed (t : FileTree) (path : String) : List (List String) :=
  Path.passed (t.start path) (Path.names path)

variable {t t' : FileTree} {path : String}

theorem mem_passed_self (place names : List String) : place ∈ Path.passed place names := by
  cases names with
  | nil => exact List.mem_singleton.mpr rfl
  | cons name rest => exact List.mem_cons_self

/-- Names are followed alike in trees that are the same at the places they pass; by recursion on the
names. -/
theorem follow_congr : ∀ {names place : List String},
    (∀ p ∈ Path.passed place names, t'.get? p = t.get? p) →
      t'.follow place names = t.follow place names
  | [], place, h => by
      rw [FileTree.follow, FileTree.follow, h place (mem_passed_self place [])]
  | name :: rest, place, h => by
      rw [Path.passed] at h
      have hplace := h place List.mem_cons_self
      rw [FileTree.follow, FileTree.follow, hplace]
      by_cases hdot : (name == ".") = true
      · rw [if_pos hdot] at h
        rw [if_pos hdot, if_pos hdot, follow_congr fun p hp => h p (List.mem_cons_of_mem _ hp)]
      rw [if_neg hdot] at h
      rw [if_neg hdot, if_neg hdot]
      by_cases hdots : (name == "..") = true
      · rw [if_pos hdots] at h
        rw [if_pos hdots, if_pos hdots, follow_congr fun p hp => h p (List.mem_cons_of_mem _ hp)]
      rw [if_neg hdots] at h
      have hbelow := h (place ++ [name]) (List.mem_cons_of_mem _ (mem_passed_self _ rest))
      rw [if_neg hdots, if_neg hdots, hbelow,
        follow_congr fun p hp => h p (List.mem_cons_of_mem _ hp)]

theorem resolve_congr (hhere : t'.here = t.here) (h : ∀ p ∈ t.passed path, t'.get? p = t.get? p) :
    t'.resolve path = t.resolve path := by
  rw [resolve, resolve, start_congr hhere, follow_congr h]

/-- The same is found at a path: nothing that can be told from nothing, or the same text, if it is
one. -/
structure SameAt (t t' : FileTree) (path : String) : Prop where
  holds : t'.holds path = t.holds path
  readText : t.holds path = true → t'.readText path = t.readText path

theorem sameAt_of_passed (hhere : t'.here = t.here)
    (h : ∀ p ∈ t.passed path, t'.get? p = t.get? p) : t.SameAt t' path where
  holds := by rw [FileTree.holds, FileTree.holds, resolve_congr hhere h]
  readText _ := by
    rw [FileTree.readText, FileTree.readText, FileTree.read, FileTree.read,
      resolve_congr hhere h]

/-- **Writing a file is not noticed by paths that do not pass its place.** -/
theorem write_apart {elsewhere : String} {bytes : List UInt8}
    (h : t.write elsewhere bytes = .ok t') :
    ∃ place, t'.resolve elsewhere = .ok (.found place (.file bytes)) ∧
      ∀ path, place ∉ t.passed path → t.SameAt t' path := by
  obtain ⟨place, hfound, hhere, hothers⟩ := write_ok h
  refine ⟨place, hfound, fun path hpath => sameAt_of_passed hhere fun p hp => hothers p ?_⟩
  rintro rfl
  exact hpath hp

end FileTree

end ForkCensus
