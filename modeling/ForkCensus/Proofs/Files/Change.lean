import ForkCensus.Files.Tree
import ForkCensus.Proofs.Text.Utf8

/-
# What writing to a tree changes

A tree is known by its working directory and by what `FileTree.get?` finds
at each place.  Making a folder and those above it adds folders where
there was nothing and leaves everything else alone (`FileTree.Grown`),
also where it fails half-way.  When it succeeds there is a folder at the
path, and making it once more changes nothing.  Writing a file changes one
place, and that is where its path leads afterwards (`FileTree.write_ok`).

The one induction here is on the names of a path: putting something at
the place where a path leads does not lead it elsewhere
(`FileTree.Leads.put`), because all places on the way are folders and
stay as they were.
-/

namespace ForkCensus.FileTree

open Files

variable {t t' : FileTree} {place : List String} {path : String}

/-! ## One place -/

/-- What an edit of the entries changes: the entry of its place. -/
theorem find?_map_place (place p : List String) (node : Node)
    (entries : List (List String × Node)) :
    ((entries.map fun e => if e.1 == place then (place, node) else e).find?
        fun e => e.1 == p).map Prod.snd =
      if p = place then (entries.find? fun e => e.1 == p).map fun _ => node
      else (entries.find? fun e => e.1 == p).map Prod.snd := by
  induction entries with
  | nil => split <;> rfl
  | cons e entries ih =>
      rw [List.map_cons, List.find?_cons, List.find?_cons]
      by_cases hplace : e.1 = place
      · rw [if_pos (beq_iff_eq.mpr hplace)]
        by_cases hp : p = place
        · subst hp
          simp [hplace]
        · have hne : (place == p) = false := beq_eq_false_iff_ne.mpr fun h => hp h.symm
          have hne' : (e.1 == p) = false := by rw [hplace]; exact hne
          rw [hne, hne', if_neg hp]
          rw [if_neg hp] at ih
          exact ih
      · rw [if_neg fun h => hplace (beq_iff_eq.mp h)]
        by_cases hp : e.1 = p
        · have hne : p ≠ place := fun h => hplace (hp.trans h)
          rw [beq_iff_eq.mpr hp, if_neg hne]
        · rw [beq_eq_false_iff_ne.mpr hp]
          exact ih

/-- The entry of a place after something was put there. -/
theorem find?_put (t : FileTree) (place p : List String) (node : Node) :
    ((t.put place node).entries.find? fun e => e.1 == p).map Prod.snd =
      if p = place then some node else (t.entries.find? fun e => e.1 == p).map Prod.snd := by
  rw [put]
  dsimp only
  split
  · rename_i hany
    rw [find?_map_place]
    by_cases hp : p = place
    · obtain ⟨e, he, heq⟩ := List.any_eq_true.mp hany
      have hsome : (t.entries.find? fun e => e.1 == p).isSome = true := by
        rw [List.find?_isSome]
        exact ⟨e, he, by rw [hp]; exact heq⟩
      obtain ⟨x, hx⟩ := Option.isSome_iff_exists.mp hsome
      rw [if_pos hp, if_pos hp, hx]
      rfl
    · rw [if_neg hp, if_neg hp]
  · rename_i hany
    have hnone : t.entries.find? (fun e => e.1 == place) = none := by
      rw [List.find?_eq_none]
      intro e he heq
      exact hany (List.any_eq_true.mpr ⟨e, he, heq⟩)
    rw [List.find?_append]
    by_cases hp : p = place
    · subst hp
      simp [hnone]
    · have hne : (place == p) = false := beq_eq_false_iff_ne.mpr fun h => hp h.symm
      simp [hne, hp]

/-- Where no folder has to be for the working directory, what is put is there, and nothing else
changes. -/
theorem get?_put (t : FileTree) (hplace : t.isAbove place = false) (node : Node)
    (p : List String) : (t.put place node).get? p = if p = place then some node else t.get? p := by
  have habove : (t.put place node).isAbove p = t.isAbove p := rfl
  rw [get?, get?, habove, find?_put]
  by_cases hp : t.isAbove p = true
  · have hne : p ≠ place := by
      rintro rfl
      rw [hplace] at hp
      cases hp
    rw [if_pos hp, if_pos hp, if_neg hne]
  · rw [if_neg hp, if_neg hp]

/-! ## Where a path leads -/

/-- Whether a name leads down: it is none of the dots, and not too long. -/
def IsStep (name : String) : Prop :=
  name ≠ "." ∧ name ≠ ".." ∧ name.utf8ByteSize ≤ longestName

/-- The ways in which names lead from a place to a target; every place on the way is a folder. -/
inductive Leads (t : FileTree) : List String → List String → Target → Prop
  | found {place : List String} {node : Node} : t.get? place = some node →
      Leads t place [] (.found place node)
  | stay {place rest : List String} {target : Target} : t.get? place = some .folder →
      Leads t place rest target → Leads t place ("." :: rest) target
  | up {place rest : List String} {target : Target} : t.get? place = some .folder →
      Leads t place.dropLast rest target → Leads t place (".." :: rest) target
  | down {place rest : List String} {name : String} {target : Target} :
      t.get? place = some .folder → IsStep name → (t.get? (place ++ [name])).isSome = true →
      Leads t (place ++ [name]) rest target → Leads t place (name :: rest) target
  | free {place : List String} {name : String} : t.get? place = some .folder → IsStep name →
      t.get? (place ++ [name]) = none → Leads t place [name] (.free (place ++ [name]))

theorem leads_of_follow {target : Target} : ∀ {names place : List String},
    t.follow place names = .ok target → t.Leads place names target
  | [], place, h => by
      rw [follow] at h
      split at h
      · rename_i hnode
        cases h
        exact .found hnode
      · cases h
  | name :: rest, place, h => by
      rw [follow] at h
      split at h
      · cases h
      · cases h
      · rename_i hfolder
        split at h
        · rename_i hdot
          rw [beq_iff_eq.mp hdot]
          exact .stay hfolder (leads_of_follow h)
        · rename_i hdot
          split at h
          · rename_i hdots
            rw [beq_iff_eq.mp hdots]
            exact .up hfolder (leads_of_follow h)
          · rename_i hdots
            split at h
            · cases h
            · rename_i hlong
              have hstep : IsStep name := ⟨fun heq => hdot (beq_iff_eq.mpr heq),
                fun heq => hdots (beq_iff_eq.mpr heq), Nat.not_lt.mp hlong⟩
              split at h
              · rename_i hsome
                exact .down hfolder hstep hsome (leads_of_follow h)
              · rename_i hnone
                split at h
                · rename_i hlast
                  cases h
                  rw [List.isEmpty_iff.mp hlast]
                  exact .free hfolder hstep (Option.not_isSome_iff_eq_none.mp hnone)
                · cases h

theorem Leads.follow {names : List String} {target : Target} (h : t.Leads place names target) :
    t.follow place names = .ok target := by
  induction h with
  | found hnode => rw [FileTree.follow, hnode]
  | stay hfolder _ ih =>
      rw [FileTree.follow, hfolder]
      exact ih
  | up hfolder _ ih =>
      rw [FileTree.follow, hfolder]
      simpa using ih
  | down hfolder hstep hsome _ ih =>
      obtain ⟨hdot, hdots, hlong⟩ := hstep
      rw [FileTree.follow, hfolder]
      simpa [hdot, hdots, Nat.not_lt.mpr hlong, hsome] using ih
  | free hfolder hstep hnone =>
      obtain ⟨hdot, hdots, hlong⟩ := hstep
      rw [FileTree.follow, hfolder]
      simp [hdot, hdots, Nat.not_lt.mpr hlong, hnone]

theorem follow_eq_ok_iff {names : List String} {target : Target} :
    t.follow place names = .ok target ↔ t.Leads place names target :=
  ⟨leads_of_follow, Leads.follow⟩

/-- Whether something can be put at the target: it is a free name, or a file. -/
inductive Target.At : Target → List String → Prop
  | free {place : List String} : At (.free place) place
  | file {place : List String} {bytes : List UInt8} : At (.found place (.file bytes)) place

/-- No folder is where something can be put, and so it is not above the working directory. -/
theorem Leads.not_folder {names start : List String} {target : Target}
    (h : t.Leads start names target) (hat : target.At place) :
    t.isAbove place = false ∧ t.get? place ≠ some .folder := by
  have habove : t.get? place ≠ some .folder → t.isAbove place = false := by
    intro hfolder
    rw [Bool.eq_false_iff]
    exact fun h => hfolder (if_pos h)
  suffices hfolder : t.get? place ≠ some .folder from ⟨habove hfolder, hfolder⟩
  induction h with
  | found hnode =>
      cases hat
      rw [hnode]
      nofun
  | stay _ _ ih => exact ih hat
  | up _ _ ih => exact ih hat
  | down _ _ _ _ ih => exact ih hat
  | free _ _ hnone =>
      cases hat
      rw [hnone]
      nofun

/-- **What is put where names lead is found there.**  The places on the way are folders, so none of
them is the one that changes. -/
theorem Leads.put {names start : List String} {target : Target} (h : t.Leads start names target)
    (hat : target.At place) (node : Node) :
    (t.put place node).Leads start names (.found place node) := by
  obtain ⟨habove, hfolder⟩ := h.not_folder hat
  have hthere : (t.put place node).get? place = some node := by
    rw [get?_put t habove, if_pos rfl]
  have hway : ∀ {p : List String}, t.get? p = some .folder →
      (t.put place node).get? p = some .folder := by
    intro p hp
    rw [get?_put t habove, if_neg, hp]
    rintro rfl
    exact hfolder hp
  induction h with
  | found hnode =>
      cases hat
      exact .found hthere
  | stay hstart _ ih => exact .stay (hway hstart) (ih hat)
  | up hstart _ ih => exact .up (hway hstart) (ih hat)
  | down hstart hstep hsome _ ih =>
      refine .down (hway hstart) hstep ?_ (ih hat)
      rw [get?_put t habove]
      split
      · rfl
      · exact hsome
  | free hstart hstep _ =>
      cases hat
      exact .down (hway hstart) hstep (by rw [hthere]; rfl) (.found hthere)

/-- At a free name there is nothing. -/
theorem Leads.get?_free {names start : List String} {target : Target}
    (h : t.Leads start names target) : target = .free place → t.get? place = none := by
  intro htarget
  induction h with
  | found => cases htarget
  | stay _ _ ih => exact ih htarget
  | up _ _ ih => exact ih htarget
  | down _ _ _ _ ih => exact ih htarget
  | free _ _ hnone =>
      cases htarget
      exact hnone

/-- Where a path starts is a matter of the working directory. -/
theorem start_congr (h : t'.here = t.here) (path : String) : t'.start path = t.start path := by
  rw [start, start, h]

/-- The paths that can be followed at all. -/
def IsPath (path : String) : Prop :=
  ¬path.toList.contains '\x00' = true ∧ ¬path.isEmpty = true ∧
    ¬longestPath < path.utf8ByteSize

theorem isPath_of_resolve {target : Target} (h : t.resolve path = .ok target) : IsPath path := by
  unfold resolve at h
  split at h
  · cases h
  · split at h
    · cases h
    · split at h
      · cases h
      · exact ⟨‹_›, ‹_›, ‹_›⟩

theorem resolve_eq_ok_iff {target : Target} : t.resolve path = .ok target ↔
    IsPath path ∧ t.Leads (t.start path) (Path.names path) target ∧
      (Path.endsInSlash path = true → ∀ p bytes, target ≠ .found p (.file bytes)) := by
  suffices hpath : IsPath path → (t.resolve path = .ok target ↔
      t.Leads (t.start path) (Path.names path) target ∧
        (Path.endsInSlash path = true → ∀ p bytes, target ≠ .found p (.file bytes))) from
    ⟨fun h => ⟨isPath_of_resolve h, (hpath (isPath_of_resolve h)).mp h⟩, fun h => (hpath h.1).mpr h.2⟩
  rintro ⟨hzero, hempty, hlong⟩
  rw [resolve, if_neg hzero, if_neg hempty, if_neg hlong, ← follow_eq_ok_iff]
  split
  · rename_i p bytes hfound
    rw [hfound]
    split
    · rename_i hslash
      constructor
      · nofun
      · rintro ⟨heq, hfile⟩
        cases heq
        exact absurd rfl (hfile hslash p bytes)
    · rename_i hslash
      exact ⟨fun h => ⟨h, fun hs => absurd hs hslash⟩, And.left⟩
  · rename_i hother
    constructor
    · intro h
      exact ⟨h, fun _ p bytes heq => hother p bytes (by rw [h, heq])⟩
    · exact And.left

/-- What is put where a path leads is found there; a file only if the path does not end in a
slash. -/
theorem resolve_put {target : Target} (h : t.resolve path = .ok target) (hat : target.At place)
    {node : Node} (hnode : node = .folder ∨ Path.endsInSlash path = false) :
    (t.put place node).resolve path = .ok (.found place node) := by
  obtain ⟨hpath, hleads, -⟩ := resolve_eq_ok_iff.mp h
  refine resolve_eq_ok_iff.mpr ⟨hpath, hleads.put hat node, ?_⟩
  intro hslash p bytes heq
  rcases hnode with rfl | hnode
  · cases heq
  · rw [hnode] at hslash
    cases hslash

/-! ## Writing a file -/

/-- **What writing a file does**: there is a place to which the path leads, before and after; the
file is there, no other place has changed, and the working directory is the same. -/
theorem write_ok {bytes : List UInt8} (h : t.write path bytes = .ok t') :
    ∃ place, t'.resolve path = .ok (.found place (.file bytes)) ∧
      t'.here = t.here ∧ ∀ p ≠ place, t'.get? p = t.get? p := by
  have hput : ∃ target place, t.resolve path = .ok target ∧ target.At place ∧
      Path.endsInSlash path = false ∧ t' = t.put place (.file bytes) := by
    unfold write at h
    split at h
    · rename_i place old hfound
      cases h
      have hslash := (resolve_eq_ok_iff.mp hfound).2.2
      exact ⟨_, place, hfound, .file, Bool.eq_false_iff.mpr fun hs => hslash hs _ _ rfl, rfl⟩
    · cases h
    · rename_i place hfree
      split at h
      · cases h
      · rename_i hslash
        cases h
        exact ⟨_, place, hfree, .free, Bool.eq_false_iff.mpr hslash, rfl⟩
    · cases h
  obtain ⟨target, place, htarget, hat, hslash, rfl⟩ := hput
  refine ⟨place, resolve_put htarget hat (Or.inr hslash), rfl, fun p hp => ?_⟩
  have habove := ((resolve_eq_ok_iff.mp htarget).2.1.not_folder hat).1
  rw [get?_put t habove, if_neg hp]

/-- Whether a file can be written does not depend on what is in it. -/
theorem write_any {bytes : List UInt8} (h : t.write path bytes = .ok t')
    (bytes' : List UInt8) : ∃ t'', t.write path bytes' = .ok t'' := by
  unfold write at h ⊢
  split at h
  · exact ⟨_, rfl⟩
  · cases h
  · split at h
    · cases h
    · rename_i hslash
      exact ⟨_, if_neg hslash⟩
  · cases h

theorem read_of_resolve {bytes : List UInt8}
    (h : t.resolve path = .ok (.found place (.file bytes))) : t.read path = .ok bytes := by
  rw [read, h]

theorem readText_of_resolve {text : String}
    (h : t.resolve path = .ok (.found place (.file (Text.utf8 text)))) :
    t.readText path = .ok text := by
  rw [readText, read_of_resolve h]
  simp [bind, Except.bind, Text.ofUtf8?_utf8]

/-! ## Making folders -/

/-- What is there stays there, all that is new is folders, and the working directory is the
same. -/
structure Grown (t t' : FileTree) : Prop where
  here : t'.here = t.here
  places : ∀ p, t'.get? p = t.get? p ∨ (t.get? p = none ∧ t'.get? p = some .folder)

theorem Grown.refl (t : FileTree) : t.Grown t :=
  ⟨rfl, fun _ => Or.inl rfl⟩

theorem Grown.trans {t'' : FileTree} (h : t.Grown t') (h' : t'.Grown t'') : t.Grown t'' := by
  refine ⟨h'.here.trans h.here, fun p => ?_⟩
  rcases h'.places p with heq | ⟨hnone, hfolder⟩
  · rcases h.places p with hp | ⟨hnone, hfolder⟩
    · exact Or.inl (heq.trans hp)
    · exact Or.inr ⟨hnone, heq.trans hfolder⟩
  · rcases h.places p with hp | ⟨hnone', -⟩
    · exact Or.inr ⟨hp ▸ hnone, hfolder⟩
    · exact Or.inr ⟨hnone', hfolder⟩

theorem Grown.node (h : t.Grown t') {node : Node} (hnode : t.get? place = some node) :
    t'.get? place = some node := by
  rcases h.places place with heq | ⟨hnone, -⟩
  · rw [heq, hnode]
  · rw [hnode] at hnone
    cases hnone

/-- What names lead to, they still lead to. -/
theorem Grown.leads (h : t.Grown t') {names start : List String} {target : Target} {node : Node}
    (hleads : t.Leads start names target) : target = .found place node →
      t'.Leads start names (.found place node) := by
  intro htarget
  induction hleads with
  | found hnode =>
      cases htarget
      exact .found (h.node hnode)
  | stay hfolder _ ih => exact .stay (h.node hfolder) (ih htarget)
  | up hfolder _ ih => exact .up (h.node hfolder) (ih htarget)
  | down hfolder hstep hsome _ ih =>
      obtain ⟨node', hnode'⟩ := Option.isSome_iff_exists.mp hsome
      refine .down (h.node hfolder) hstep ?_ (ih htarget)
      rw [h.node hnode']
      rfl
  | free => cases htarget

/-- A file that could be read reads the same. -/
theorem Grown.read (h : t.Grown t') {bytes : List UInt8} (hread : t.read path = .ok bytes) :
    t'.read path = .ok bytes := by
  obtain ⟨place, hfound⟩ : ∃ place, t.resolve path = .ok (.found place (.file bytes)) := by
    unfold FileTree.read at hread
    split at hread
    · rename_i place bytes' hfound
      cases hread
      exact ⟨place, hfound⟩
    · cases hread
    · cases hread
    · cases hread
  obtain ⟨hpath, hleads, hslash⟩ := resolve_eq_ok_iff.mp hfound
  refine read_of_resolve (resolve_eq_ok_iff.mpr ⟨hpath, ?_, hslash⟩)
  rw [start_congr h.here]
  exact h.leads hleads rfl

theorem makeFolder_ok (h : t.makeFolder path = .ok t') : t.Grown t' ∧ t'.isFolder path = true := by
  unfold makeFolder at h
  split at h
  · rename_i place hfree
    cases h
    obtain ⟨hpath, hleads, -⟩ := resolve_eq_ok_iff.mp hfree
    have habove := (hleads.not_folder .free).1
    have hnone := hleads.get?_free rfl
    constructor
    · refine ⟨rfl, fun p => ?_⟩
      rw [get?_put t habove]
      by_cases hp : p = place
      · exact Or.inr ⟨hp ▸ hnone, if_pos hp⟩
      · exact Or.inl (if_neg hp)
    · rw [isFolder, resolve_put hfree .free (Or.inl rfl)]
  · cases h
  · split at h <;> cases h

/-- Where there is a folder, making one changes nothing. -/
theorem ensureFolder_of_isFolder (h : t.isFolder path = true) :
    t.ensureFolder path = (t, .ok ()) := by
  have htaken : t.makeFolder path = .error .taken := by
    unfold isFolder at h
    split at h
    · rename_i hfound
      rw [makeFolder, hfound]
    · cases h
  rw [ensureFolder, htaken]
  simp [h]

theorem ensureFolder_grown (t : FileTree) (path : String) : t.Grown (t.ensureFolder path).1 := by
  unfold ensureFolder
  split
  · rename_i hmade
    exact (makeFolder_ok hmade).1
  · exact Grown.refl t

theorem isFolder_of_ensureFolder (h : t.ensureFolder path = (t', .ok ())) :
    t'.isFolder path = true := by
  unfold ensureFolder at h
  split at h
  · rename_i hmade
    cases h
    exact (makeFolder_ok hmade).2
  · split at h
    · rename_i hfolder
      cases h
      exact hfolder
    · cases h

theorem makeFoldersAt_grown (paths : List String) : ∀ t : FileTree,
    t.Grown (t.makeFoldersAt paths).1 := by
  induction paths with
  | nil => exact Grown.refl
  | cons path above ih =>
      intro t
      rw [makeFoldersAt]
      split
      · split
        · rename_i t' habove
          have hgrown := ih t
          rw [habove] at hgrown
          exact hgrown.trans (ensureFolder_grown t' path)
        · exact ih t
      · exact ensureFolder_grown t path

/-- **Making folders only adds folders**, whether it succeeds or not. -/
theorem makeFolders_grown (t : FileTree) (path : String) : t.Grown (t.makeFolders path).1 := by
  unfold makeFolders
  split
  · exact Grown.refl t
  · exact makeFoldersAt_grown _ t

theorem isFolder_of_makeFoldersAt {above : List String}
    (h : t.makeFoldersAt (path :: above) = (t', .ok ())) : t'.isFolder path = true := by
  rw [makeFoldersAt] at h
  split at h
  · split at h
    · exact isFolder_of_ensureFolder h
    · rename_i hfailed
      exact absurd h (hfailed t')
  · exact isFolder_of_ensureFolder h

/-- **Making folders a second time changes nothing.** -/
theorem makeFolders_again (h : t.makeFolders path = (t', .ok ())) :
    t'.makeFolders path = (t', .ok ()) := by
  unfold makeFolders at h ⊢
  split
  · rfl
  · rename_i hempty
    rw [if_neg hempty] at h
    rw [makeFoldersAt, ensureFolder_of_isFolder (isFolder_of_makeFoldersAt h)]

end ForkCensus.FileTree
