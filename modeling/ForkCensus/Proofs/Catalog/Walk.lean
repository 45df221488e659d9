import ForkCensus.Proofs.Catalog.Reach

/-
# Discovery, one repository at a time

`Catalog.walk` is what a recursive survey comes to, as one would write it
down without pages, pulls and buffers: take the repository on top of the
stack, unless it was taken before, put those of its records that have
forks on the stack, and keep those that are new.

A survey does the same piece by piece, and may stop between any two
records.  What carries the proof is what it has before it:
`Listing.Awaits` is the rest of the listing under way, and
`Crawl.Ahead` says that walking on from there, with that rest put on the
stack and kept, comes to the same as the whole walk.  One lemma for a
pull and one for a step keep that (`Listing.Awaits.pulled`,
`Crawl.Ahead.stepped`), whatever the pages are.
-/

namespace ForkCensus

open Exchange

/-! ## The walk -/

/-- Keeps a record, unless one of that slug was kept before. -/
def Repository.keep (kept : List Repository) (r : Repository) : List Repository :=
  if kept.any fun a => a.slug.same r.slug then kept else kept ++ [r]

/-- Puts a repository on a stack if it has forks and was not listed. -/
def SlugSet.push (listed : SlugSet) (stack : List Slug) (r : Repository) : List Slug :=
  if r.hasForks && !listed.contains r.slug then r.slug :: stack else stack

theorem SlugSet.contains_congr (s : SlugSet) {j k : Slug} (h : j.same k = true) :
    s.contains j = s.contains k := by
  rw [Bool.eq_iff_iff, contains_iff, contains_iff, Slug.same_iff.mp h]

theorem SlugSet.contains_of_new {s : SlugSet} {k j : Slug}
    (h : (!(s.insert k).2.contains j) = true) : (!s.contains j) = true := by
  rw [Bool.not_eq_true', Bool.eq_false_iff] at h ⊢
  exact fun hin => h (contains_insert.mpr (Or.inl hin))

theorem SlugMap.exists_entry {α : Type} {m : SlugMap α} {k : Slug} (h : m.contains k = true) :
    ∃ e ∈ m.entries, e.1.same k = true := by
  rw [contains, get?, Option.isSome_map, List.find?_isSome] at h
  exact h

namespace Catalog

/-- How many of the repositories are not in a set. -/
def unlisted (c : Catalog) (listed : SlugSet) : Nat :=
  c.repos.entries.countP fun e => !listed.contains e.1

theorem unlisted_le (c : Catalog) (listed : SlugSet) (k : Slug) :
    c.unlisted (listed.insert k).2 ≤ c.unlisted listed :=
  List.countP_mono_left fun _ _ => SlugSet.contains_of_new

/-- A repository that is there and was not in the set is one less. -/
theorem unlisted_lt {c : Catalog} {listed : SlugSet} {k : Slug}
    (hk : c.repos.contains k = true) (hnew : listed.contains k = false) :
    c.unlisted (listed.insert k).2 < c.unlisted listed := by
  obtain ⟨e, he, hsame⟩ := SlugMap.exists_entry hk
  obtain ⟨before, after, hentries⟩ := List.append_of_mem he
  have hold : listed.contains e.1 = false := by
    rw [listed.contains_congr hsame, hnew]
  have hin : (listed.insert k).2.contains e.1 = true :=
    SlugSet.contains_insert.mpr (Or.inr (Slug.same_iff.mp hsame))
  have hless (entries : List (Slug × Repository)) :
      (entries.countP fun e => !(listed.insert k).2.contains e.1) ≤
        entries.countP fun e => !listed.contains e.1 :=
    List.countP_mono_left fun _ _ => SlugSet.contains_of_new
  have hbefore := hless before
  have hafter := hless after
  rw [unlisted, unlisted, hentries]
  simp only [List.countP_append, List.countP_cons, hold, hin]
  simp only [Bool.not_true, Bool.not_false, Bool.false_eq_true, if_true, if_false]
  omega

theorem listing_unknown {c : Catalog} {k : Slug} (hk : c.repos.contains k = false) :
    c.listing k = [] := by
  rw [listing, record?_eq_none hk]

/-- What is kept of all that can be reached from the repositories on a stack, with those in `listed`
taken before.  The repository on top comes first; the records that it brings go on top of the
stack, the last one uppermost. -/
def walk (c : Catalog) (stack : List Slug) (listed : SlugSet) (kept : List Repository) :
    List Repository :=
  match stack with
  | [] => kept
  | k :: stack =>
    if listed.contains k then walk c stack listed kept
    else
      walk c ((c.listing k).foldl (listed.insert k).2.push stack) (listed.insert k).2
        ((c.listing k).foldl Repository.keep kept)
termination_by (c.unlisted listed, stack.length)
decreasing_by
  · exact Prod.Lex.right _ (Nat.lt_succ_self _)
  · rename_i hnew
    cases hk : c.repos.contains k with
    | true => exact Prod.Lex.left _ _ (unlisted_lt hk (Bool.eq_false_iff.mpr hnew))
    | false =>
        -- Nothing is put on the stack for a repository that is not there.
        rw [listing_unknown hk]
        rcases Nat.lt_or_eq_of_le (c.unlisted_le listed k) with hlt | heq
        · exact Prod.Lex.left _ _ hlt
        · exact heq ▸ Prod.Lex.right _ (Nat.lt_succ_self _)

section

variable {c : Catalog} {stack : List Slug} {listed : SlugSet} {kept : List Repository} {k : Slug}

theorem walk_nil : c.walk [] listed kept = kept := by
  rw [walk]

theorem walk_old (hk : listed.contains k = true) :
    c.walk (k :: stack) listed kept = c.walk stack listed kept := by
  rw [walk, if_pos hk]

theorem walk_new (hk : listed.contains k = false) :
    c.walk (k :: stack) listed kept =
      c.walk ((c.listing k).foldl (⟨k :: listed.members⟩ : SlugSet).push stack)
        ⟨k :: listed.members⟩ ((c.listing k).foldl Repository.keep kept) := by
  rw [walk, if_neg (Bool.eq_false_iff.mp hk), SlugSet.insert_new hk]

end

/-- A walk does not see how many forks a page holds. -/
theorem walk_withPageSize (c : Catalog) (size : Nat) (stack : List Slug) (listed : SlugSet)
    (kept : List Repository) :
    (c.withPageSize size).walk stack listed kept = c.walk stack listed kept := by
  fun_induction walk c stack listed kept with
  | case1 => exact walk_nil
  | case2 listed kept k stack hk ih => rw [walk_old hk, ih]
  | case3 listed kept k stack hk ih =>
      rw [walk, if_neg hk]
      exact ih

end Catalog

/-- What was kept stays, in its place. -/
theorem Repository.prefix_keep (kept : List Repository) (r : Repository) : kept <+: keep kept r := by
  unfold keep
  split
  · exact List.prefix_rfl
  · exact List.prefix_append _ _

theorem Repository.prefix_foldl_keep (records kept : List Repository) :
    kept <+: records.foldl keep kept := by
  induction records generalizing kept with
  | nil => exact List.prefix_rfl
  | cons r records ih => exact (prefix_keep kept r).trans (ih _)

theorem Catalog.prefix_walk (c : Catalog) (stack : List Slug) (listed : SlugSet)
    (kept : List Repository) : kept <+: c.walk stack listed kept := by
  fun_induction walk c stack listed kept with
  | case1 => exact List.prefix_rfl
  | case2 listed kept k stack hk ih => exact ih
  | case3 listed kept k stack hk ih => exact (Repository.prefix_foldl_keep _ _).trans ih

/-! ## What a listing has before it -/

/-- The listing has the records `rest` of the catalog still to bring. -/
def Listing.Awaits (c : Catalog) (l : Listing) (rest : List Repository) : Prop :=
  (l.Over ∧ rest = []) ∨ ∃ ch : Chapter, ch.Open l ∧ c.repos.contains ch.root = true ∧
    (∀ x ∈ ch.log, c.Answered x) ∧ ch.records ++ rest = c.listing ch.root

theorem Listing.awaits_start {c : Catalog} {k : Slug} (hk : c.repos.contains k = true) :
    (Listing.start k).Awaits c (c.listing k) :=
  Or.inr ⟨⟨k, [], []⟩, .start, hk, List.forall_mem_nil _, rfl⟩

/-- **A pull brings the first of the records to come**, or the end where there are none. -/
theorem Listing.Awaits.pulled {c : Catalog} (hc : c.WellKept)
    (hpages : ∀ k, c.pageCount k < 2 ^ 32 - 1) {l l' : Listing} {rest : List Repository}
    (h : l.Awaits c rest) {p : Pull} {g : List Exchange} (hp : l.Pulled p l' g)
    (hg : ∀ x ∈ g, c.Answered x) :
    (p = .finished ∧ rest = []) ∨
      ∃ r rest', p = .item r ∧ rest = r :: rest' ∧ l'.Awaits c rest' := by
  rcases h with ⟨hover, rfl⟩ | ⟨ch, hopen, hroot, hlog, hrest⟩
  · exact Or.inl ⟨(hover.pulled hp).1, rfl⟩
  · have hstands := hopen.pulled hp
    have hlog' : ∀ x ∈ (ch.extend p g).log, c.Answered x :=
      List.forall_mem_append.mpr ⟨hlog, hg⟩
    cases p with
    | item r =>
        have hstanding : (ch.extend (.item r) g).Standing := by
          rcases hstands with hopen' | ⟨-, hcomplete⟩
          · exact .opened hopen'
          · exact .complete hcomplete
        -- What came so far begins the listing, so the record is the first that was awaited.
        have hprefix : ch.records ++ [r] <+: ch.records ++ rest :=
          hrest ▸ hstanding.prefix_listing hc (hpages _) hlog'
        rw [List.prefix_append_right_inj] at hprefix
        obtain ⟨rest', rfl⟩ := hprefix
        refine Or.inr ⟨r, rest', rfl, rfl, ?_⟩
        have hrest' : (ch.extend (.item r) g).records ++ rest' = c.listing ch.root := by
          rw [← hrest, Chapter.extend_item, List.append_assoc]
        rcases hstands with hopen' | ⟨hover, hcomplete⟩
        · exact Or.inr ⟨_, hopen', hroot, hlog', hrest'⟩
        · have hall := hcomplete.records_eq hc (hpages _) hlog'
          exact Or.inl ⟨hover, List.append_right_eq_self.mp (hrest'.trans hall.symm)⟩
    | finished =>
        have hall := hstands.2.records_eq hc (hpages _) hlog'
        rw [Chapter.extend_finished] at hall
        exact Or.inl ⟨rfl, List.append_right_eq_self.mp (hrest.trans hall.symm)⟩
    | failed e => exact absurd hlog' (hstands.not_answered hc hroot)

/-! ## What a crawl has before it -/

theorem Crawl.push_stack (c : Crawl) (r : Repository) :
    (c.push r).stack = c.listed.push c.stack r := by
  unfold push SlugSet.push
  split <;> rfl

/-- A crawl that has nothing left to do. -/
def Crawl.Done (crawl : Crawl) : Prop :=
  crawl.current = none ∧ crawl.stack = []

/-- The records that the listing under way has still to bring. -/
def Crawl.Awaits (c : Catalog) (crawl : Crawl) (rest : List Repository) : Prop :=
  match crawl.current with
  | none => rest = []
  | some l => l.Awaits c rest

/-- With `kept` handed out so far, the crawl comes to `all`: that is what is left of the walk. -/
structure Crawl.Ahead (c : Catalog) (crawl : Crawl) (kept all : List Repository) : Prop where
  known : ∀ k ∈ crawl.stack, c.repos.contains k = true
  seen : ∀ k, crawl.seen.contains k = kept.any fun a => a.slug.same k
  walk : ∃ rest, crawl.Awaits c rest ∧ (∀ r ∈ rest, c.repos.contains r.slug = true) ∧
    c.walk (rest.foldl crawl.listed.push crawl.stack) crawl.listed
      (rest.foldl Repository.keep kept) = all

namespace Crawl

variable {c : Catalog} {crawl crawl' : Crawl} {kept all : List Repository}

theorem ahead_start {root : Slug} (hroot : c.repos.contains root = true) :
    (Crawl.start root).Ahead c [] (c.walk [root] .empty []) where
  known k hk := by rwa [List.mem_singleton.mp hk]
  seen _ := rfl
  walk := ⟨[], rfl, List.forall_mem_nil _, rfl⟩

/-- Records of the catalog are found in it under their slugs. -/
theorem known_listing (hc : c.WellKept) {k : Slug} :
    ∀ r ∈ c.listing k, c.repos.contains r.slug = true := by
  intro r hr
  rcases Catalog.mem_listing hr with hk | ⟨-, j, -, -, -, hj⟩
  · exact Catalog.contains_of_record (hc.record_slug hk)
  · exact Catalog.contains_of_record (hc.record_slug hj)

theorem known_push (crawl : Crawl) {r : Repository}
    (h : ∀ k ∈ crawl.stack, c.repos.contains k = true) (hr : c.repos.contains r.slug = true) :
    ∀ k ∈ (crawl.push r).stack, c.repos.contains k = true := by
  rw [push_stack]
  unfold SlugSet.push
  split
  · exact List.forall_mem_cons.mpr ⟨hr, h⟩
  · exact h

/-- Taking in the record that is next: it goes on the stack and is kept, as in the walk. -/
theorem ahead_take {l' : Listing} {r : Repository} {rest : List Repository} {seen : SlugSet}
    (hknown : ∀ k ∈ crawl.stack, c.repos.contains k = true)
    (hrecords : ∀ a ∈ r :: rest, c.repos.contains a.slug = true) (hrest : l'.Awaits c rest)
    (hwalk : c.walk ((r :: rest).foldl crawl.listed.push crawl.stack) crawl.listed
      ((r :: rest).foldl Repository.keep kept) = all)
    (hseen : ∀ k, seen.contains k = (Repository.keep kept r).any fun a => a.slug.same k) :
    ({ ({ crawl with current := some l' } : Crawl).push r with seen } : Crawl).Ahead c
      (Repository.keep kept r) all := by
  obtain ⟨hr, hrecords⟩ := List.forall_mem_cons.mp hrecords
  refine ⟨known_push { crawl with current := some l' } hknown hr, hseen, rest, ?_,
    hrecords, ?_⟩
  · simpa only [Awaits, push_current] using hrest
  · simpa only [push_listed, push_stack, List.foldl_cons] using hwalk

theorem Ahead.not_failed (hc : c.WellKept) (hpages : ∀ k, c.pageCount k < 2 ^ 32 - 1)
    (h : crawl.Ahead c kept all) {e : ApiError} {g : List Exchange} (hg : ∀ x ∈ g, c.Answered x) :
    ¬crawl.Stepped (.failed e) crawl' g := by
  intro hst
  obtain ⟨-, -, rest, hrest, -, -⟩ := h
  cases hst with
  | failed hcur hp =>
      rw [Awaits, hcur] at hrest
      rcases hrest.pulled hc hpages hp hg with ⟨hp', -⟩ | ⟨r, rest', hp', -⟩ <;> cases hp'

/-- **A step takes nothing from the walk and adds nothing to it**: what it hands out is the next that
the walk keeps. -/
theorem Ahead.stepped (hc : c.WellKept) (hpages : ∀ k, c.pageCount k < 2 ^ 32 - 1)
    (h : crawl.Ahead c kept all) {m : Move} {g : List Exchange} (hst : crawl.Stepped m crawl' g)
    (hg : ∀ x ∈ g, c.Answered x) :
    crawl'.Ahead c (kept ++ m.record?.toList) all := by
  have hfailed {e : ApiError} : ¬crawl.Stepped (.failed e) crawl' g := h.not_failed hc hpages hg
  obtain ⟨hknown, hseen, rest, hrest, hrecords, hwalk⟩ := h
  unfold Awaits at hrest
  cases hst with
  | finished =>
      rw [show kept ++ Move.finished.record?.toList = kept from List.append_nil _]
      exact ⟨hknown, hseen, rest, hrest, hrecords, hwalk⟩
  | @skipped k stack hcur hstack hk =>
      rw [hcur] at hrest
      obtain rfl : rest = [] := hrest
      rw [hstack] at hknown hwalk
      refine ⟨(List.forall_mem_cons.mp hknown).2, ?_, [], ?_, List.forall_mem_nil _, ?_⟩
      · simpa [Move.record?] using hseen
      · simp only [Awaits, hcur]
      · rw [List.foldl_nil, List.foldl_nil, Catalog.walk_old hk] at hwalk
        simpa [Move.record?] using hwalk
  | @begun k stack hcur hstack hk =>
      rw [hcur] at hrest
      obtain rfl : rest = [] := hrest
      rw [hstack] at hknown hwalk
      obtain ⟨hroot, hknown⟩ := List.forall_mem_cons.mp hknown
      refine ⟨hknown, ?_, c.listing k, Listing.awaits_start hroot, known_listing hc, ?_⟩
      · simpa [Move.record?] using hseen
      · rw [List.foldl_nil, List.foldl_nil, Catalog.walk_new hk] at hwalk
        simpa [Move.record?] using hwalk
  | failed hcur hp => exact (hfailed (.failed hcur hp)).elim
  | ended hcur hp =>
      rw [hcur] at hrest
      rcases hrest.pulled hc hpages hp hg with ⟨-, rfl⟩ | ⟨r, rest', hp', -⟩
      · refine ⟨hknown, ?_, [], rfl, List.forall_mem_nil _, ?_⟩
        · simpa [Move.record?] using hseen
        · simpa [Move.record?] using hwalk
      · cases hp'
  | @repeated l l' r g hcur hp hr =>
      rw [hcur] at hrest
      rcases hrest.pulled hc hpages hp hg with ⟨hp', -⟩ | ⟨r', rest', hp', rfl, hrest'⟩
      · cases hp'
      · cases hp'
        have hkeep : Repository.keep kept r = kept := if_pos (hseen _ ▸ hr)
        have hpush : ({ crawl with current := some l' } : Crawl).push r =
            { ({ crawl with current := some l' } : Crawl).push r with seen := crawl.seen } := by
          unfold push
          split <;> rfl
        have htake := ahead_take hknown hrecords hrest' hwalk (hkeep.symm ▸ hseen)
        rw [← hpush, hkeep] at htake
        rw [show kept ++ Move.passed.record?.toList = kept from List.append_nil _]
        exact htake
  | @found l l' r g hcur hp hr =>
      rw [hcur] at hrest
      rcases hrest.pulled hc hpages hp hg with ⟨hp', -⟩ | ⟨r', rest', hp', rfl, hrest'⟩
      · cases hp'
      · cases hp'
        have hkeep : Repository.keep kept r = kept ++ [r] := by
          rw [Repository.keep, ← hseen, hr]
          rfl
        have hseen' (k : Slug) : (⟨r.slug :: crawl.seen.members⟩ : SlugSet).contains k =
            (Repository.keep kept r).any fun a => a.slug.same k := by
          rw [hkeep, List.any_append, ← hseen, Bool.or_comm]
          simp [SlugSet.contains, Slug.same_comm]
        have htake := ahead_take hknown hrecords hrest' hwalk hseen'
        rw [hkeep] at htake
        exact htake

/-- At its end a crawl has handed out the whole walk. -/
theorem Ahead.kept_eq (h : crawl.Ahead c kept all) (hdone : crawl.Done) : kept = all := by
  obtain ⟨-, -, rest, hrest, -, hwalk⟩ := h
  unfold Awaits at hrest
  rw [hdone.1] at hrest
  obtain rfl : rest = [] := hrest
  rwa [hdone.2, List.foldl_nil, List.foldl_nil, Catalog.walk_nil] at hwalk

/-- Until then what it has handed out begins the walk. -/
theorem Ahead.begins (h : crawl.Ahead c kept all) : kept <+: all := by
  obtain ⟨-, -, rest, -, -, hwalk⟩ := h
  rw [← hwalk]
  exact (Repository.prefix_foldl_keep rest kept).trans (c.prefix_walk _ _ _)

theorem Done.stepped (h : crawl.Done) {m : Move} {g : List Exchange}
    (hst : crawl.Stepped m crawl' g) : m = .finished ∧ crawl'.Done := by
  have hnone {l : Listing} (hcur : crawl.current = some l) : False := by
    rw [h.1] at hcur
    cases hcur
  have hnil {k : Slug} {stack : List Slug} (hstack : crawl.stack = k :: stack) : False := by
    rw [h.2] at hstack
    cases hstack
  cases hst with
  | finished => exact ⟨rfl, h⟩
  | skipped _ hstack => exact (hnil hstack).elim
  | begun _ hstack => exact (hnil hstack).elim
  | failed hcur => exact (hnone hcur).elim
  | ended hcur => exact (hnone hcur).elim
  | repeated hcur => exact (hnone hcur).elim
  | found hcur => exact (hnone hcur).elim

theorem done_of_finished {g : List Exchange} (hst : crawl.Stepped .finished crawl' g) :
    crawl'.Done := by
  cases hst with
  | finished hcur hstack => exact ⟨hcur, hstack⟩

end Crawl

/-! ## Along a course -/

namespace Crawl

/-- How a crawl of the catalog that comes to `all` has gone: it goes on, or it has come to its end,
and nothing else is to be had from it. -/
structure Gone (c : Catalog) (all : List Repository) (moves : List Move) (crawl : Crawl) :
    Prop where
  ahead : crawl.Ahead c (moves.filterMap Move.record?) all
  ending : (∀ m ∈ moves, m.ending? = none) ∨ (crawl.Done ∧ moves.getLast? = some .finished)
  told : ∃ n, moves.filterMap Survey.Move.pull? =
    (moves.filterMap Move.record?).map Pull.item ++ List.replicate n .finished ∧
      (n ≠ 0 → crawl.Done)

variable {c : Catalog} {all : List Repository} {moves : List Move} {crawl crawl' : Crawl}

theorem gone_start {root : Slug} (hroot : c.repos.contains root = true) :
    Gone c (c.walk [root] .empty []) [] (.start root) :=
  ⟨ahead_start hroot, Or.inl (List.forall_mem_nil _), 0, rfl, fun h => absurd rfl h⟩

theorem Gone.stepped (hc : c.WellKept) (hpages : ∀ k, c.pageCount k < 2 ^ 32 - 1)
    (h : Gone c all moves crawl) {m : Move} {g : List Exchange} (hst : crawl.Stepped m crawl' g)
    (hg : ∀ x ∈ g, c.Answered x) : Gone c all (moves ++ [m]) crawl' := by
  have hahead := h.ahead.stepped hc hpages hst hg
  obtain ⟨n, htold, hn⟩ := h.told
  have hrecords : (moves ++ [m]).filterMap Move.record? =
      moves.filterMap Move.record? ++ m.record?.toList := by
    rw [List.filterMap_append]
    cases m <;> rfl
  rw [← hrecords] at hahead
  -- Only the end can be had again from a crawl that has come to it.
  have hgoing (hm : m ≠ .finished) : (∀ m' ∈ moves ++ [m], m'.ending? = none) ∧ n = 0 := by
    have hdone : ¬crawl.Done := fun hdone => hm (hdone.stepped hst).1
    constructor
    · rcases h.ending with hmoves | ⟨hdone', -⟩
      · refine List.forall_mem_append.mpr ⟨hmoves, List.forall_mem_singleton.mpr ?_⟩
        cases m with
        | item r => rfl
        | passed => rfl
        | finished => exact absurd rfl hm
        | failed e => exact (h.ahead.not_failed hc hpages hg hst).elim
      · exact absurd hdone' hdone
    · by_contra hne
      exact hdone (hn hne)
  cases m with
  | failed e => exact (h.ahead.not_failed hc hpages hg hst).elim
  | finished =>
      have hdone := done_of_finished hst
      refine ⟨hahead, Or.inr ⟨hdone, List.getLast?_concat⟩, n + 1, ?_, fun _ => hdone⟩
      rw [hrecords, List.filterMap_append, htold, List.replicate_succ', ← List.append_assoc]
      simp [Survey.Move.pull?, Move.record?]
  | passed =>
      obtain ⟨hmoves, rfl⟩ := hgoing (fun h => by cases h)
      refine ⟨hahead, Or.inl hmoves, 0, ?_, fun h => absurd rfl h⟩
      rw [hrecords, List.filterMap_append, htold]
      simp [Survey.Move.pull?, Move.record?]
  | item r =>
      obtain ⟨hmoves, rfl⟩ := hgoing (fun h => by cases h)
      refine ⟨hahead, Or.inl hmoves, 0, ?_, fun h => absurd rfl h⟩
      rw [hrecords, List.filterMap_append, htold]
      simp [Survey.Move.pull?, Move.record?]

end Crawl

/-- **Every course of a recursive survey of the catalog walks it.** -/
theorem Survey.Course.gone {c : Catalog} (hc : c.WellKept)
    (hpages : ∀ k, c.pageCount k < 2 ^ 32 - 1) {root : Slug}
    (hroot : c.repos.contains root = true) {moves : List Move} {v : Survey} {log : List Exchange}
    (h : Course (.start root true) moves v log) (hlog : ∀ x ∈ log, c.Answered x) :
    ∃ crawl, v = .recursive crawl ∧ Crawl.Gone c (c.walk [root] .empty []) moves crawl := by
  obtain ⟨crawl, hv, hgone⟩ := h.crawl
    (P := fun moves crawl log => (∀ x ∈ log, c.Answered x) →
      Crawl.Gone c (c.walk [root] .empty []) moves crawl)
    (fun _ => Crawl.gone_start hroot) fun hgone hst hlog => by
      obtain ⟨hlog, hg⟩ := List.forall_mem_append.mp hlog
      exact (hgone hlog).stepped hc hpages hst hg
  exact ⟨crawl, hv, hgone hlog⟩

end ForkCensus
