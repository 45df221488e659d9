import ForkCensus.Proofs.Discovery.Chapter

/-
# The account of a crawl

Two invariants carry a crawl along any course, against any service.

`Crawl.Told`: the transcript is the chapters of the repositories that
were listed, in the order of the listed ones; all chapters are complete
but the last, which may be open or broken.  A chapter is only begun for
what is wanted: the root, and what came with forks in a chapter before.

`Crawl.Covered`: with `pulled` for the records that the listings brought,
repeated ones included, what was handed out is `Repository.firsts pulled`,
and what is on the stack is wanted.  Nothing wanted is lost as long as
nothing failed, and the number of steps is bounded by what was pulled and
listed.

`Survey.Course.account` has both.
-/

namespace ForkCensus

/-- No listing is under way, or the one that is has nothing more to bring. -/
def Crawl.Resting (c : Crawl) : Prop :=
  ∀ l, c.current = some l → l.Over

/-- How the chapters of a crawl stand: all complete, or all but the last; the last is broken exactly
where a step failed. -/
inductive Crawl.History (c : Crawl) (moves : List Move) : List Chapter → Prop
  | resting {done : List Chapter} : c.Resting → (∀ e, .failed e ∉ moves) →
      (∀ ch ∈ done, ch.Complete) → History c moves done
  | listing {done : List Chapter} {ch : Chapter} {l : Listing} : c.current = some l →
      ch.Open l → (∀ e, .failed e ∉ moves) → (∀ ch ∈ done, ch.Complete) →
      History c moves (done ++ [ch])
  | broken {done : List Chapter} {ch : Chapter} {e : ApiError} : c.current = none →
      c.stack = [] → .failed e ∈ moves → ch.Broken → (∀ ch ∈ done, ch.Complete) →
      History c moves (done ++ [ch])

/-- The records that the listings brought, in order, repeated ones included. -/
def Chapter.pulled (chapters : List Chapter) : List Repository :=
  chapters.flatMap Chapter.records

/-- What a crawl is to list: the root, and all that came with forks. -/
def Crawl.wanted (root : Slug) (pulled : List Repository) : List Slug :=
  root :: (pulled.filter Repository.hasForks).map Repository.slug

/-- Each chapter is about a repository that was wanted when it was begun. -/
inductive Chapter.Grown (root : Slug) : List Chapter → Prop
  | nil : Grown root []
  | concat {chapters : List Chapter} {ch : Chapter} : Grown root chapters →
      ch.root ∈ Crawl.wanted root (pulled chapters) → Grown root (chapters ++ [ch])

theorem Chapter.grown_concat_iff {root : Slug} {chapters : List Chapter} {ch : Chapter} :
    Grown root (chapters ++ [ch]) ↔
      Grown root chapters ∧ ch.root ∈ Crawl.wanted root (pulled chapters) := by
  constructor
  · generalize hall : chapters ++ [ch] = all
    intro h
    cases h with
    | nil => simp at hall
    | concat h hch =>
        obtain ⟨rfl, hlast⟩ := List.append_inj' hall rfl
        obtain rfl := List.singleton_inj.mp hlast
        exact ⟨h, hch⟩
  · rintro ⟨h, hch⟩
    exact h.concat hch

/-- The transcript of a crawl in chapters, one for each listed repository. -/
structure Crawl.Told (root : Slug) (c : Crawl) (moves : List Move) (chapters : List Chapter)
    (log : List Exchange) : Prop where
  history : c.History moves chapters
  listed : c.listed.members.reverse = chapters.map Chapter.root
  grown : Chapter.Grown root chapters
  log_eq : log = chapters.flatMap Chapter.log

namespace Crawl

variable {root : Slug} {c c' : Crawl} {moves : List Move} {chapters : List Chapter}
  {log g : List Exchange}

theorem Told.size_listed (h : c.Told root moves chapters log) :
    c.listed.size = chapters.length := by
  rw [SlugSet.size, ← List.length_reverse, h.listed, List.length_map]

/-! ## The chapters along a course -/

/-- Where a crawl stands after a pull of its listing that brought `p` and left `l`. -/
def Behind (l : Listing) (p : Pull) (c : Crawl) : Prop :=
  match p with
  | .item _ => c.current = some l
  | .finished => c.current = none
  | .failed _ => c.current = none ∧ c.stack = []

theorem resting_of_none (h : c.current = none) : c.Resting := by
  intro l hl
  rw [h] at hl
  cases hl

theorem failed_concat {m : Move} (hmoves : ∀ e, .failed e ∉ moves) (hm : ∀ e, m ≠ .failed e) :
    ∀ e, .failed e ∉ moves ++ [m] := by
  intro e he
  rcases List.mem_append.mp he with he | he
  · exact hmoves e he
  · exact hm e (List.mem_singleton.mp he).symm

theorem history_extend {done : List Chapter} {ch : Chapter} {l : Listing} {p : Pull} {m : Move}
    (hmoves : ∀ e, .failed e ∉ moves) (hdone : ∀ ch ∈ done, ch.Complete) (h : ch.Stands l p)
    (hc : c.Behind l p) (hm : ∀ e, m = .failed e ↔ p = .failed e) :
    c.History (moves ++ [m]) (done ++ [ch]) := by
  have hall (hch : ch.Complete) : ∀ x ∈ done ++ [ch], x.Complete := by
    intro x hx
    rcases List.mem_append.mp hx with hx | hx
    · exact hdone x hx
    · rwa [List.mem_singleton.mp hx]
  cases p with
  | item r =>
      have hcur : c.current = some l := hc
      have hfine := failed_concat hmoves fun e he => nomatch (hm e).mp he
      rcases h with hopen | ⟨hover, hch⟩
      · exact .listing hcur hopen hfine hdone
      · refine .resting ?_ hfine (hall hch)
        intro l' hl'
        rw [hcur] at hl'
        cases hl'
        exact hover
  | finished =>
      have hfine := failed_concat hmoves fun e he => nomatch (hm e).mp he
      exact .resting (resting_of_none hc) hfine (hall h.2)
  | failed e =>
      obtain rfl : m = .failed e := (hm e).mpr rfl
      exact .broken hc.1 hc.2 (List.mem_append_right _ List.mem_cons_self) h hdone

/-- The chapters after a pull of the listing under way. -/
theorem Told.pull (h : c.Told root moves chapters log) (c' : Crawl) (m : Move) {l l' : Listing}
    {p : Pull} (hcur : c.current = some l) (hp : l.Pulled p l' g)
    (hlisted : c'.listed = c.listed) (hc : c'.Behind l' p)
    (hm : ∀ e, m = .failed e ↔ p = .failed e) :
    ∃ chapters', c'.Told root (moves ++ [m]) chapters' (log ++ g) ∧
      Chapter.pulled chapters' = Chapter.pulled chapters ++ p.record?.toList := by
  obtain ⟨hist, listed, grown, rfl⟩ := h
  cases hist with
  | resting hrest hmoves hdone =>
      -- A listing that is over brings nothing but its end, and the chapters stay.
      obtain ⟨rfl, rfl, rfl⟩ := (hrest l hcur).pulled hp
      have hfine := failed_concat hmoves fun e he => nomatch (hm e).mp he
      refine ⟨chapters, ⟨.resting (resting_of_none hc) hfine hdone, ?_, grown, ?_⟩, ?_⟩
      · rw [hlisted, listed]
      · exact List.append_nil _
      · exact (List.append_nil _).symm
  | @listing done ch l₀ hcur₀ hopen hmoves hdone =>
      obtain rfl : l₀ = l := by
        rw [hcur₀] at hcur
        exact Option.some.inj hcur
      -- Only the last chapter is open, so that is the one that grows.
      refine ⟨done ++ [ch.extend p g],
        ⟨history_extend hmoves hdone (hopen.pulled hp) hc hm, ?_, ?_, ?_⟩, ?_⟩
      · rw [hlisted, listed]
        simp [Chapter.extend]
      · rw [Chapter.grown_concat_iff] at grown
        exact grown.1.concat grown.2
      · simp [Chapter.extend]
      · simp [Chapter.pulled, Chapter.extend]
  | broken hnone =>
      rw [hnone] at hcur
      cases hcur

/-- The chapters after the top of the stack was passed over. -/
theorem Told.skip (h : c.Told root moves chapters log) {k : Slug} {stack : List Slug}
    (hstack : c.stack = k :: stack) :
    ({ c with stack } : Crawl).Told root (moves ++ [.passed]) chapters log := by
  obtain ⟨hist, listed, grown, hlog⟩ := h
  refine ⟨?_, listed, grown, hlog⟩
  cases hist with
  | resting hrest hmoves hdone => exact .resting hrest (failed_concat hmoves nofun) hdone
  | listing hcur hopen hmoves hdone =>
      exact .listing hcur hopen (failed_concat hmoves nofun) hdone
  | broken _ hnil =>
      rw [hnil] at hstack
      cases hstack

/-- The chapters of a crawl with nothing left to do stay. -/
theorem Told.finish (h : c.Told root moves chapters log) :
    c.Told root (moves ++ [.finished]) chapters log := by
  obtain ⟨hist, listed, grown, hlog⟩ := h
  refine ⟨?_, listed, grown, hlog⟩
  cases hist with
  | resting hrest hmoves hdone => exact .resting hrest (failed_concat hmoves nofun) hdone
  | listing hcur hopen hmoves hdone =>
      exact .listing hcur hopen (failed_concat hmoves nofun) hdone
  | broken hcur hnil hm hbroken hdone =>
      exact .broken hcur hnil (List.mem_append_left _ hm) hbroken hdone

/-- The chapters after a listing was begun. -/
theorem Told.begin (h : c.Told root moves chapters log) {k : Slug} {stack : List Slug}
    (hcur : c.current = none) (hstack : c.stack = k :: stack)
    (hk : k ∈ wanted root (Chapter.pulled chapters)) :
    ({ c with stack, listed := ⟨k :: c.listed.members⟩, current := some (.start k) } : Crawl).Told
      root (moves ++ [.passed]) (chapters ++ [⟨k, [], []⟩]) log := by
  obtain ⟨hist, listed, grown, hlog⟩ := h
  refine ⟨?_, ?_, grown.concat hk, ?_⟩
  · cases hist with
    | resting _ hmoves hdone => exact .listing rfl .start (failed_concat hmoves nofun) hdone
    | listing hsome =>
        rw [hcur] at hsome
        cases hsome
    | broken _ hnil =>
        rw [hnil] at hstack
        cases hstack
  · simp [listed]
  · simp [hlog]

end Crawl

/-! ## What is wanted -/

/-- How the sets and the stack of a crawl reflect what it pulled. -/
structure Crawl.Covered (root : Slug) (c : Crawl) (pulled : List Repository)
    (moves : List Move) : Prop where
  listed_once : (c.listed.members.map Slug.fold).Nodup
  seen_eq : c.seen.members.reverse = (Repository.firsts pulled).map Repository.slug
  found_eq : moves.filterMap Move.record? = Repository.firsts pulled
  stack_wanted : ∀ k ∈ c.stack, k ∈ wanted root pulled
  waiting : (∀ e, Move.failed e ∉ moves) →
    ∀ k ∈ wanted root pulled, c.listed.contains k = true ∨ k ∈ c.stack
  paced : (∀ m ∈ moves, m.ending? = none) →
    moves.length + c.stack.length + c.current.toList.length ≤
      2 * pulled.length + c.listed.size + 1

namespace Crawl

variable {root : Slug} {c : Crawl} {pulled : List Repository} {moves : List Move}

theorem wanted_concat (root : Slug) (pulled : List Repository) (r : Repository) :
    wanted root (pulled ++ [r]) =
      wanted root pulled ++ if r.hasForks then [r.slug] else [] := by
  unfold wanted
  cases hr : r.hasForks <;> simp [hr]

theorem Covered.seen_iff (h : c.Covered root pulled moves) (k : Slug) :
    c.seen.contains k = true ↔ ∃ a ∈ Repository.firsts pulled, a.slug.fold = k.fold := by
  rw [SlugSet.contains_iff]
  constructor
  · rintro ⟨m, hm, hfold⟩
    rw [← List.mem_reverse, h.seen_eq] at hm
    obtain ⟨a, ha, rfl⟩ := List.mem_map.mp hm
    exact ⟨a, ha, hfold.symm⟩
  · rintro ⟨a, ha, hfold⟩
    refine ⟨a.slug, ?_, hfold.symm⟩
    rw [← List.mem_reverse, h.seen_eq]
    exact List.mem_map_of_mem ha

/-- A step without a record that leaves sets and stack alone, and ends the crawl or a listing. -/
theorem Covered.keep (h : c.Covered root pulled moves) (c' : Crawl) (m : Move)
    (hm : m.record? = none) (hstack : c'.stack = c.stack) (hlisted : c'.listed = c.listed)
    (hseen : c'.seen = c.seen)
    (hcur : m.ending? = none → c.current.toList.length = 1 ∧ c'.current.toList.length = 0) :
    c'.Covered root pulled (moves ++ [m]) where
  listed_once := by rw [hlisted]; exact h.listed_once
  seen_eq := by rw [hseen]; exact h.seen_eq
  found_eq := by rw [List.filterMap_append, h.found_eq]; simp [hm]
  stack_wanted := by rw [hstack]; exact h.stack_wanted
  waiting hfail := by
    rw [hstack, hlisted]
    exact h.waiting fun e he => hfail e (List.mem_append_left _ he)
  paced hends := by
    have hpaced := h.paced fun m hm => hends m (List.mem_append_left _ hm)
    have hlast := hcur (hends m (List.mem_append_right _ List.mem_cons_self))
    rw [hstack, hlisted, List.length_append, List.length_singleton]
    omega

theorem Covered.skip (h : c.Covered root pulled moves) {k : Slug} {stack : List Slug}
    (hstack : c.stack = k :: stack) (hk : c.listed.contains k = true) :
    ({ c with stack } : Crawl).Covered root pulled (moves ++ [.passed]) where
  listed_once := h.listed_once
  seen_eq := h.seen_eq
  found_eq := by rw [List.filterMap_append, h.found_eq]; simp [Move.record?]
  stack_wanted j hj := h.stack_wanted j (by rw [hstack]; exact List.mem_cons_of_mem _ hj)
  waiting hfail j hj := by
    rcases h.waiting (fun e he => hfail e (List.mem_append_left _ he)) j hj with hl | hs
    · exact Or.inl hl
    · rw [hstack] at hs
      rcases List.mem_cons.mp hs with rfl | hs
      · exact Or.inl hk
      · exact Or.inr hs
  paced hends := by
    have hpaced := h.paced fun m hm => hends m (List.mem_append_left _ hm)
    rw [hstack, List.length_cons] at hpaced
    rw [List.length_append, List.length_singleton]
    dsimp only
    omega

theorem Covered.begin (h : c.Covered root pulled moves) {k : Slug} {stack : List Slug}
    (hcur : c.current = none) (hstack : c.stack = k :: stack)
    (hk : c.listed.contains k = false) :
    ({ c with stack, listed := ⟨k :: c.listed.members⟩, current := some (.start k) } :
      Crawl).Covered root pulled (moves ++ [.passed]) where
  listed_once := by
    rw [List.map_cons, List.nodup_cons]
    refine ⟨fun hmem => ?_, h.listed_once⟩
    obtain ⟨m, hm, hfold⟩ := List.mem_map.mp hmem
    have hin : c.listed.contains k = true := SlugSet.contains_iff.mpr ⟨m, hm, hfold.symm⟩
    rw [hk] at hin
    cases hin
  seen_eq := h.seen_eq
  found_eq := by rw [List.filterMap_append, h.found_eq]; simp [Move.record?]
  stack_wanted j hj := h.stack_wanted j (by rw [hstack]; exact List.mem_cons_of_mem _ hj)
  waiting hfail j hj := by
    simp only [SlugSet.contains_iff]
    rcases h.waiting (fun e he => hfail e (List.mem_append_left _ he)) j hj with hl | hs
    · obtain ⟨m, hm, hfold⟩ := SlugSet.contains_iff.mp hl
      exact Or.inl ⟨m, List.mem_cons_of_mem _ hm, hfold⟩
    · rw [hstack] at hs
      rcases List.mem_cons.mp hs with rfl | hs
      · exact Or.inl ⟨_, List.mem_cons_self, rfl⟩
      · exact Or.inr hs
  paced hends := by
    have hpaced := h.paced fun m hm => hends m (List.mem_append_left _ hm)
    rw [hstack, hcur] at hpaced
    simp only [SlugSet.size, List.length_append, List.length_cons, List.length_nil,
      Option.toList_none, Option.toList_some] at hpaced ⊢
    omega

theorem Covered.close (h : c.Covered root pulled moves) (e : ApiError) :
    c.close.Covered root pulled (moves ++ [.failed e]) where
  listed_once := h.listed_once
  seen_eq := h.seen_eq
  found_eq := by rw [List.filterMap_append, h.found_eq]; simp [Move.record?]
  stack_wanted := nofun
  waiting hfail := absurd (List.mem_append_right _ List.mem_cons_self) (hfail e)
  paced hends := nomatch hends (.failed e) (List.mem_append_right _ List.mem_cons_self)

/-- Taking in a record: the stack holds it if it is wanted and not listed. -/
theorem push_waiting (h : ∀ k ∈ wanted root pulled, c.listed.contains k = true ∨ k ∈ c.stack)
    (r : Repository) : ∀ k ∈ wanted root (pulled ++ [r]),
      (c.push r).listed.contains k = true ∨ k ∈ (c.push r).stack := by
  intro k hk
  rw [wanted_concat] at hk
  rw [push_listed]
  rcases List.mem_append.mp hk with hk | hk
  · rcases h k hk with hl | hs
    · exact Or.inl hl
    · refine Or.inr ?_
      unfold push
      split
      · exact List.mem_cons_of_mem _ hs
      · exact hs
  · cases hr : r.hasForks with
    | false => simp [hr] at hk
    | true =>
        rw [hr, if_pos rfl, List.mem_singleton] at hk
        subst hk
        cases hl : c.listed.contains r.slug with
        | true => exact Or.inl rfl
        | false =>
            refine Or.inr ?_
            simp [push, hr, hl]

theorem push_wanted (h : ∀ k ∈ c.stack, k ∈ wanted root pulled) (r : Repository) :
    ∀ k ∈ (c.push r).stack, k ∈ wanted root (pulled ++ [r]) := by
  intro k hk
  rw [wanted_concat]
  unfold push at hk
  split at hk
  · rename_i hpush
    have hforks : r.hasForks = true := (Bool.and_eq_true _ _ ▸ hpush).1
    rcases List.mem_cons.mp hk with rfl | hk
    · exact List.mem_append_right _ (by simp [hforks])
    · exact List.mem_append_left _ (h k hk)
  · exact List.mem_append_left _ (h k hk)

/-- Taking in a record: one step more, one record more, and at most one more on the stack. -/
theorem push_paced {l : Listing} (hcur : c.current = some l)
    (h : moves.length + c.stack.length + c.current.toList.length ≤
      2 * pulled.length + c.listed.size + 1) (l' : Listing) (m : Move) (r : Repository) :
    (moves ++ [m]).length + (({ c with current := some l' } : Crawl).push r).stack.length + 1 ≤
      2 * (pulled ++ [r]).length + c.listed.size + 1 := by
  have hstack : (({ c with current := some l' } : Crawl).push r).stack.length ≤
      c.stack.length + 1 := by
    unfold push
    split
    · exact Nat.le_refl _
    · exact Nat.le_succ _
  rw [hcur] at h
  simp only [Option.toList_some, List.length_append, List.length_cons, List.length_nil] at h ⊢
  omega

/-- A step that takes in a record, whether it hands it out or not. -/
theorem Covered.take (h : c.Covered root pulled moves) {l : Listing} (hcur : c.current = some l)
    (l' : Listing) (m : Move) {r : Repository} {seen : SlugSet}
    (hseen : seen.members.reverse = (Repository.firsts (pulled ++ [r])).map Repository.slug)
    (hfound : Repository.firsts pulled ++ m.record?.toList = Repository.firsts (pulled ++ [r])) :
    ({ ({ c with current := some l' } : Crawl).push r with seen } : Crawl).Covered root
      (pulled ++ [r]) (moves ++ [m]) where
  listed_once := by
    simp only [push_listed]
    exact h.listed_once
  seen_eq := hseen
  found_eq := by
    rw [List.filterMap_append, h.found_eq, ← hfound]
    cases hm : m.record? <;> simp [hm]
  stack_wanted := push_wanted (c := { c with current := some l' }) h.stack_wanted r
  waiting hfail := by
    refine push_waiting (c := { c with current := some l' }) (h.waiting ?_) r
    intro e he
    exact hfail e (List.mem_append_left _ he)
  paced hends := by
    simp only [push_listed, push_current]
    refine push_paced hcur (h.paced ?_) l' m r
    intro x hx
    exact hends x (List.mem_append_left _ hx)

/-- A record whose slug was seen is not handed out. -/
theorem Covered.repeat (h : c.Covered root pulled moves) {l : Listing} (hcur : c.current = some l)
    (l' : Listing) {r : Repository} (hr : c.seen.contains r.slug = true) :
    (({ c with current := some l' } : Crawl).push r).Covered root (pulled ++ [r])
      (moves ++ [.passed]) := by
  obtain ⟨a, ha, hfold⟩ := (h.seen_iff r.slug).mp hr
  have hfirsts := Repository.firsts_concat_old ha hfold
  have hpush : ({ c with current := some l' } : Crawl).push r =
      { ({ c with current := some l' } : Crawl).push r with seen := c.seen } := by
    unfold push
    split <;> rfl
  rw [hpush]
  refine h.take hcur l' .passed ?_ ?_
  · rw [hfirsts]
    exact h.seen_eq
  · rw [hfirsts]
    exact List.append_nil _

/-- A record whose slug was not seen is handed out, and is the first of its slug. -/
theorem Covered.find (h : c.Covered root pulled moves) {l : Listing} (hcur : c.current = some l)
    (l' : Listing) {r : Repository} (hr : c.seen.contains r.slug = false) :
    ({ ({ c with current := some l' } : Crawl).push r with
        seen := ⟨r.slug :: c.seen.members⟩ } : Crawl).Covered root (pulled ++ [r])
      (moves ++ [.item r]) := by
  have hfirsts : Repository.firsts (pulled ++ [r]) = Repository.firsts pulled ++ [r] := by
    refine Repository.firsts_concat_new ?_
    intro a ha hfold
    have hin := (h.seen_iff r.slug).mpr ⟨a, ha, hfold⟩
    rw [hr] at hin
    cases hin
  refine h.take hcur l' (.item r) ?_ hfirsts.symm
  rw [hfirsts, List.reverse_cons, h.seen_eq, List.map_append, List.map_singleton]

end Crawl

/-! ## Both along a course -/

/-- The account of a crawl from `root`: its chapters, and what came of them. -/
def Crawl.Account (root : Slug) (moves : List Move) (c : Crawl) (log : List Exchange) : Prop :=
  ∃ chapters, c.Told root moves chapters log ∧ c.Covered root (Chapter.pulled chapters) moves

theorem Crawl.account_start (root : Slug) : Account root [] (start root) [] := by
  refine ⟨[], ⟨.resting nofun nofun nofun, rfl, .nil, rfl⟩, ?_⟩
  exact ⟨List.nodup_nil, rfl, rfl, by simp [start, wanted, Chapter.pulled],
    by simp [start, wanted, Chapter.pulled], fun _ => Nat.le_refl _⟩

theorem Crawl.account_step {root : Slug} {moves : List Move} {c c' : Crawl}
    {log g : List Exchange} {m : Move} (h : Account root moves c log)
    (hst : c.Stepped m c' g) : Account root (moves ++ [m]) c' (log ++ g) := by
  obtain ⟨chapters, told, covered⟩ := h
  cases hst with
  | finished hcur hstack =>
      rw [List.append_nil]
      exact ⟨chapters, told.finish, covered.keep c .finished rfl rfl rfl rfl nofun⟩
  | skipped hcur hstack hk =>
      rw [List.append_nil]
      exact ⟨chapters, told.skip hstack, covered.skip hstack hk⟩
  | begun hcur hstack hk =>
      rw [List.append_nil]
      have hk' := covered.stack_wanted _ (by rw [hstack]; exact List.mem_cons_self)
      refine ⟨_, told.begin hcur hstack hk', ?_⟩
      rw [show Chapter.pulled (chapters ++ [⟨_, [], []⟩]) = Chapter.pulled chapters by
        simp [Chapter.pulled]]
      exact covered.begin hcur hstack hk
  | @failed l l' e g hcur hp =>
      obtain ⟨chapters', told', hpulled⟩ :=
        told.pull c.close (.failed e) hcur hp rfl ⟨rfl, rfl⟩ fun _ => by simp
      refine ⟨chapters', told', ?_⟩
      rw [hpulled]
      simpa [Pull.record?] using covered.close _
  | ended hcur hp =>
      obtain ⟨chapters', told', hpulled⟩ :=
        told.pull { c with current := none } .passed hcur hp rfl rfl fun _ => by simp
      refine ⟨chapters', told', ?_⟩
      rw [hpulled]
      simpa [Pull.record?] using covered.keep { c with current := none } .passed
        rfl rfl rfl rfl fun _ => ⟨by rw [hcur]; rfl, rfl⟩
  | @repeated l l' r g hcur hp hr =>
      obtain ⟨chapters', told', hpulled⟩ :=
        told.pull (({ c with current := some l' } : Crawl).push r) .passed hcur hp
          (push_listed _ _) (push_current _ _) fun _ => by simp
      refine ⟨chapters', told', ?_⟩
      rw [hpulled]
      exact covered.repeat hcur _ hr
  | @found l l' r g hcur hp hr =>
      obtain ⟨chapters', told', hpulled⟩ :=
        told.pull { ({ c with current := some l' } : Crawl).push r with
          seen := ⟨r.slug :: c.seen.members⟩ } (.item r) hcur hp (push_listed _ _)
          (push_current _ _) fun _ => by simp
      refine ⟨chapters', told', ?_⟩
      rw [hpulled]
      exact covered.find hcur _ hr

/-- **Every course of a recursive survey has its account.** -/
theorem Survey.Course.account {root : Slug} {moves : List Move} {v : Survey}
    {log : List Exchange} (h : Course (.start root true) moves v log) :
    ∃ c, v = .recursive c ∧ c.Account root moves log :=
  h.crawl (P := fun moves c log => c.Account root moves log) (Crawl.account_start root)
    Crawl.account_step

/-! ## The end of a crawl -/

/-- Where the last step was the end, nothing is left to do. -/
theorem Survey.Course.finished {root : Slug} {moves : List Move} {c : Crawl} {log : List Exchange}
    (h : Course (.start root true) moves (.recursive c) log)
    (hlast : moves.getLast? = some .finished) : c.current = none ∧ c.stack = [] := by
  cases h with
  | start => cases hlast
  | step _ hst =>
      rw [List.getLast?_concat, Option.some.injEq] at hlast
      cases hst with
      | recursive hst =>
          subst hlast
          cases hst with
          | finished hcur hstack => exact ⟨hcur, hstack⟩

/-- A crawl that came to its end without a failure: its chapters are complete, and all that is
wanted was listed. -/
theorem Crawl.finished_complete {root : Slug} {c : Crawl} {moves : List Move}
    {log : List Exchange} {chapters : List Chapter} (told : c.Told root moves chapters log)
    (covered : c.Covered root (Chapter.pulled chapters) moves) (hcur : c.current = none)
    (hstack : c.stack = []) (hmoves : ∀ e, Move.failed e ∉ moves) :
    (∀ ch ∈ chapters, ch.Complete) ∧
      ∀ k ∈ wanted root (Chapter.pulled chapters), ∃ ch ∈ chapters, ch.root.same k = true := by
  constructor
  · cases told.history with
    | resting _ _ hdone => exact hdone
    | listing hsome =>
        rw [hcur] at hsome
        cases hsome
    | broken _ _ hm => exact absurd hm (hmoves _)
  · intro k hk
    rcases covered.waiting hmoves k hk with hl | hs
    · obtain ⟨m, hm, hfold⟩ := SlugSet.contains_iff.mp hl
      rw [← List.mem_reverse, told.listed] at hm
      obtain ⟨ch, hch, rfl⟩ := List.mem_map.mp hm
      exact ⟨ch, hch, Slug.same_iff.mpr hfold.symm⟩
    · rw [hstack] at hs
      cases hs

end ForkCensus
