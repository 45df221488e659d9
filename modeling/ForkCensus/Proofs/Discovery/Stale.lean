import ForkCensus.Proofs.Discovery.Lifetime

/-
# How many pages one pull asks for

A pull of a direct survey asks for one page at most.  A pull of a
recursive survey goes on until it finds something new, past pages that
hold only what is known and from one listing to the next, and may ask for
any number of pages on its way.  But each of them, unless it is the last
thing that the pull asks for, brought nothing that had not been handed
out before (`Survey.pages_stale`).  So what is not stale is asked for at
most once in a pull.

`Crawl.Scans` is what carries a pull from step to step: all pages before
the last question are stale, and of the records on the last page those
that are not known are still in the buffer.  A step asks for something
only where the buffer is empty (`Listing.Pulled.reads`), and then the last
page is stale too.
-/

namespace ForkCensus

open Exchange

/-- Whether this is a page that came with nothing on it but repositories in `K`. -/
def Exchange.Stale (K : Slug → Prop) (x : Exchange) : Prop :=
  ∃ k page answer, x = .forkPage k page (.ok answer) ∧ ∀ r ∈ answer.value, K r.slug

theorem Exchange.Stale.mono {K K' : Slug → Prop} (hK : ∀ k, K k → K' k) {x : Exchange}
    (h : x.Stale K) : x.Stale K' := by
  obtain ⟨k, page, answer, hx, hknown⟩ := h
  exact ⟨k, page, answer, hx, fun r hr => hK _ (hknown r hr)⟩

theorem Exchange.Quiet.not_page {log : List Exchange} (h : Quiet log) {x : Exchange}
    (hx : x ∈ log) : x.isPage = false := by
  have hquiet := h x hx
  rw [isRequest, Bool.or_eq_false_iff] at hquiet
  exact hquiet.2

/-! ## One pull of a listing -/

/-- A pull of a listing hands out of the buffer, or asks one question behind the gate; what comes on a
page is handed out or in the buffer. -/
theorem Listing.Pulled.reads {l l' : Listing} {p : Pull} {g : List Exchange}
    (h : l.Pulled p l' g) :
    (∃ r, p = .item r ∧ l.buffer = r :: l'.buffer ∧ g = []) ∨
      (l.buffer = [] ∧ Quiet g.dropLast ∧ ∀ x ∈ g.getLast?, x.isPage = true → p.error? = none →
        ∃ k page answer, x = .forkPage k page (.ok answer) ∧
          answer.value = p.record?.toList ++ l'.buffer) := by
  have hasked {g : List Exchange} (hg : Quiet g) (x : Exchange) :
      Quiet (g ++ [x]).dropLast ∧ ∀ y ∈ (g ++ [x]).getLast?, y = x := by
    rw [List.dropLast_concat, List.getLast?_concat]
    exact ⟨hg, fun y hy => (Option.mem_some_iff.mp hy).symm⟩
  -- A question that is not for a page leaves nothing to be said of what came.
  have hother {g : List Exchange} {P : Exchange → Prop} (hg : Quiet g) (x : Exchange)
      (hx : x.isPage = false) :
      Quiet (g ++ [x]).dropLast ∧ ∀ y ∈ (g ++ [x]).getLast?, y.isPage = true → P y := by
    obtain ⟨hquiet, hlast⟩ := hasked hg x
    refine ⟨hquiet, fun y hy hpage => ?_⟩
    rw [hlast y hy, hx] at hpage
    cases hpage
  cases h with
  | buffered hb => exact Or.inl ⟨_, rfl, hb, rfl⟩
  | idle hb => exact Or.inr ⟨hb, quiet_nil, nofun⟩
  | rootUngated hb => exact Or.inr ⟨hb, hother quiet_nil _ rfl⟩
  | rootFailed hb _ hg => exact Or.inr ⟨hb, hother hg.quiet _ rfl⟩
  | root hb _ hg => exact Or.inr ⟨hb, hother hg.quiet _ rfl⟩
  | pageUngated hb => exact Or.inr ⟨hb, hother quiet_nil _ rfl⟩
  | pageFailed hb _ hg =>
      exact Or.inr ⟨hb, (hasked hg.quiet _).1, fun _ _ _ herror => nomatch herror⟩
  | lastPage hb _ hg =>
      obtain ⟨hquiet, hlast⟩ := hasked hg.quiet _
      exact Or.inr ⟨hb, hquiet, fun x hx _ _ => ⟨_, _, _, hlast x hx, rfl⟩⟩
  | page hb _ hg =>
      obtain ⟨hquiet, hlast⟩ := hasked hg.quiet _
      exact Or.inr ⟨hb, hquiet, fun x hx _ _ => ⟨_, _, _, hlast x hx, rfl⟩⟩

/-! ## One pull of a crawl -/

/-- In a pull that began when `seen` was seen, the crawl has come to this point, and `g` was asked for
on the way. -/
structure Crawl.Scans (seen : SlugSet) (c : Crawl) (g : List Exchange) : Prop where
  seen_eq : c.seen = seen
  /-- Nothing on the pages before the last question was new. -/
  stale : ∀ x ∈ g.dropLast, x.isPage = true → x.Stale fun k => seen.contains k = true
  /-- What was new on the last page is in the buffer. -/
  scanned : ∀ x ∈ g.getLast?, x.isPage = true → ∃ k page answer,
    x = .forkPage k page (.ok answer) ∧
      ∀ r ∈ answer.value, seen.contains r.slug = true ∨ ∃ l ∈ c.current, r ∈ l.buffer

namespace Crawl.Scans

variable {seen : SlugSet} {c c' : Crawl} {g g' : List Exchange}

theorem start (c : Crawl) : Scans c.seen c [] :=
  ⟨rfl, nofun, nofun⟩

/-- Where the buffer is empty, the last page is stale too. -/
theorem all_stale (h : c.Scans seen g) (hc : ∀ l ∈ c.current, l.buffer = []) :
    ∀ x ∈ g, x.isPage = true → x.Stale fun k => seen.contains k = true := by
  intro x hx hpage
  rcases List.eq_nil_or_concat' g with rfl | ⟨g, y, rfl⟩
  · cases hx
  · rcases List.mem_append.mp hx with hx | hx
    · exact h.stale x (by rwa [List.dropLast_concat]) hpage
    · obtain rfl := List.mem_singleton.mp hx
      obtain ⟨k, page, answer, heq, hknown⟩ := h.scanned x (by simp) hpage
      refine ⟨k, page, answer, heq, fun r hr => (hknown r hr).resolve_right ?_⟩
      rintro ⟨l, hl, hbuffer⟩
      rw [hc l hl] at hbuffer
      cases hbuffer

/-- Where nothing more is in the buffer, and nothing was asked for since, it does not matter what the
crawl turns to. -/
theorem turn_to (h : c.Scans seen g) (hc : ∀ l ∈ c.current, l.buffer = []) (hseen : c'.seen = c.seen) :
    c'.Scans seen g where
  seen_eq := hseen.trans h.seen_eq
  stale := h.stale
  scanned x hx hpage := by
    obtain ⟨k, page, answer, heq, hknown⟩ := h.all_stale hc x (List.mem_of_getLast? hx) hpage
    exact ⟨k, page, answer, heq, fun r hr => Or.inl (hknown r hr)⟩

/-- What a pull of the listing under way asks for leaves stale pages behind. -/
theorem pulled_stale (h : c.Scans seen g) {l l' : Listing} {p : Pull} (hcur : c.current = some l)
    (hp : l.Pulled p l' g') :
    ∀ x ∈ (g ++ g').dropLast, x.isPage = true → x.Stale fun k => seen.contains k = true := by
  rcases hp.reads with ⟨r, -, -, rfl⟩ | ⟨hb, hquiet, -⟩
  · rw [List.append_nil]
    exact h.stale
  · rcases List.eq_nil_or_concat' g' with rfl | ⟨g', y, rfl⟩
    · rw [List.append_nil]
      exact h.stale
    · rw [← List.append_assoc, List.dropLast_concat]
      rw [List.dropLast_concat] at hquiet
      intro x hx hpage
      rcases List.mem_append.mp hx with hx | hx
      · refine h.all_stale (fun l₀ hl₀ => ?_) x hx hpage
        obtain rfl := Option.mem_some_iff.mp (hcur ▸ hl₀)
        exact hb
      · rw [hquiet.not_page hx] at hpage
        cases hpage

/-- A pull of the listing under way that brings nothing new: what came on a page is known or in the
buffer. -/
theorem pulled (h : c.Scans seen g) {l l' : Listing} {p : Pull} (hcur : c.current = some l)
    (hp : l.Pulled p l' g') (herror : p.error? = none)
    (hknown : ∀ r ∈ p.record?, seen.contains r.slug = true) (hseen : c'.seen = c.seen)
    (hbuffer : ∀ r ∈ l'.buffer, ∃ l ∈ c'.current, r ∈ l.buffer) : c'.Scans seen (g ++ g') where
  seen_eq := hseen.trans h.seen_eq
  stale := h.pulled_stale hcur hp
  scanned x hx hpage := by
    have honly : ∀ l₀ ∈ c.current, l₀ = l := by
      intro l₀ hl₀
      rw [hcur] at hl₀
      exact (Option.mem_some_iff.mp hl₀).symm
    rcases hp.reads with ⟨r, rfl, hb, rfl⟩ | ⟨hb, -, hlast⟩
    · rw [List.append_nil] at hx
      obtain ⟨k, page, answer, heq, hscanned⟩ := h.scanned x hx hpage
      refine ⟨k, page, answer, heq, fun r' hr' => ?_⟩
      rcases hscanned r' hr' with hold | ⟨l₀, hl₀, hin⟩
      · exact Or.inl hold
      · rw [honly l₀ hl₀, hb] at hin
        rcases List.mem_cons.mp hin with rfl | hin
        · exact Or.inl (hknown _ rfl)
        · exact Or.inr (hbuffer _ hin)
    · rcases List.eq_nil_or_concat' g' with rfl | ⟨g', y, rfl⟩
      · rw [List.append_nil] at hx
        have hempty : ∀ l₀ ∈ c.current, l₀.buffer = [] := fun l₀ hl₀ => by rw [honly l₀ hl₀, hb]
        exact (h.turn_to hempty hseen).scanned x hx hpage
      · rw [← List.append_assoc, List.getLast?_concat] at hx
        rw [List.getLast?_concat] at hlast
        obtain ⟨k, page, answer, heq, hvalue⟩ := hlast x hx hpage herror
        refine ⟨k, page, answer, heq, fun r hr => ?_⟩
        rw [hvalue] at hr
        rcases List.mem_append.mp hr with hr | hr
        · exact Or.inl (hknown r (Option.mem_toList.mp hr))
        · exact Or.inr (hbuffer r hr)

/-- **Whatever a step does, the pages before the last question are stale.** -/
theorem stepped_stale (h : c.Scans seen g) {m : Move} (hst : c.Stepped m c' g') :
    ∀ x ∈ (g ++ g').dropLast, x.isPage = true → x.Stale fun k => seen.contains k = true := by
  cases hst with
  | finished => rw [List.append_nil]; exact h.stale
  | skipped => rw [List.append_nil]; exact h.stale
  | begun => rw [List.append_nil]; exact h.stale
  | failed hcur hp => exact h.pulled_stale hcur hp
  | ended hcur hp => exact h.pulled_stale hcur hp
  | repeated hcur hp => exact h.pulled_stale hcur hp
  | found hcur hp => exact h.pulled_stale hcur hp

/-- A step that hands nothing out goes on with the pull. -/
theorem passed (h : c.Scans seen g) (hst : c.Stepped .passed c' g') : c'.Scans seen (g ++ g') := by
  cases hst with
  | skipped hcur =>
      rw [List.append_nil]
      exact h.turn_to (by rw [hcur]; nofun) rfl
  | begun hcur =>
      rw [List.append_nil]
      exact h.turn_to (by rw [hcur]; nofun) rfl
  | ended hcur hp =>
      refine h.pulled hcur hp rfl nofun rfl fun r hr => ?_
      rw [hp.over_of_finished.2] at hr
      cases hr
  | repeated hcur hp hr =>
      refine h.pulled hcur hp rfl ?_ (push_seen _ _) ?_
      · rintro _ ⟨⟩
        rwa [← h.seen_eq]
      · intro r hr
        rw [push_current]
        exact ⟨_, rfl, hr⟩

end Crawl.Scans

namespace Survey

open Exchange

/-! ## Turns -/

/-- How turns of a survey have to ask for pages. -/
structure Sparing (recursive : Bool) (turns : List Turn) : Prop where
  /-- A turn of a direct survey asks for one page at most. -/
  direct : recursive = false → ∀ turn ∈ turns, pageCalls turn.asked ≤ 1
  /-- A page that a turn asks for, and then goes on asking, brought only repositories that the turns
  before had handed out. -/
  stale : ∀ before turn after, turns = before ++ turn :: after →
    ∀ x ∈ turn.asked.dropLast, x.isPage = true →
      x.Stale fun k => ∃ r ∈ handedOut before, r.slug.same k = true

/-- A turn of a direct survey is one pull of its listing. -/
theorem TurnCourse.sparing {l : Listing} {turn : Turn} {v : Survey}
    (h : TurnCourse (.direct l) turn v) :
    pageCalls turn.asked ≤ 1 ∧ Quiet turn.asked.dropLast := by
  obtain ⟨n, hcourse⟩ := h
  cases n with
  | succ n => exact absurd (List.mem_append_left _ List.mem_cons_self) hcourse.not_passed
  | zero =>
      obtain ⟨_ | p, g⟩ := turn
      · obtain ⟨-, rfl⟩ := hcourse.of_nil
        exact ⟨Nat.zero_le _, quiet_nil⟩
      · have hlast : Course (.direct l) ([] ++ [p.move]) v g := hcourse
        obtain ⟨w, before, g', hbefore, hst, rfl⟩ := hlast.of_concat
        obtain ⟨rfl, rfl⟩ := hbefore.of_nil
        generalize p.move = m at hst
        cases hst with
        | direct hp =>
            refine ⟨hp.pageCalls.1, ?_⟩
            rcases hp.reads with ⟨r, -, -, rfl⟩ | ⟨-, hquiet, -⟩
            · exact quiet_nil
            · exact hquiet

/-- Steps of a crawl that hand nothing out go on with one pull. -/
theorem Course.scans {c : Crawl} {moves : List Move} {v : Survey} {g : List Exchange}
    (h : Course (.recursive c) moves v g) (hmoves : ∀ m ∈ moves, m = .passed) :
    ∃ c', v = .recursive c' ∧ c'.Scans c.seen g := by
  have hall : ∃ c', v = .recursive c' ∧ ((∀ m ∈ moves, m = .passed) → c'.Scans c.seen g) := by
    refine h.crawl (P := fun moves c' g => (∀ m ∈ moves, m = .passed) → c'.Scans c.seen g) ?_ ?_
    · exact fun _ => .start c
    · intro moves c' log m c'' g hbefore hst hpassed
      obtain rfl := hpassed m (List.mem_append_right _ List.mem_cons_self)
      exact (hbefore fun m hm => hpassed m (List.mem_append_left _ hm)).passed hst
  obtain ⟨c', hv, hscans⟩ := hall
  exact ⟨c', hv, hscans hmoves⟩

/-- **A turn of a recursive survey leaves only stale pages behind.** -/
theorem TurnCourse.stale {c : Crawl} {turn : Turn} {v : Survey}
    (h : TurnCourse (.recursive c) turn v) : ∀ x ∈ turn.asked.dropLast, x.isPage = true →
      x.Stale fun k => c.seen.contains k = true := by
  have hpassed (n : Nat) : ∀ m ∈ List.replicate n Move.passed, m = .passed :=
    fun m hm => List.eq_of_mem_replicate hm
  obtain ⟨n, hcourse⟩ := h
  obtain ⟨_ | p, g⟩ := turn
  · rw [Option.map_none, Option.toList_none, List.append_nil] at hcourse
    obtain ⟨c', -, hscans⟩ := hcourse.scans (hpassed n)
    exact hscans.stale
  · obtain ⟨w, before, g', hbefore, hst, hlog⟩ := hcourse.of_concat
    obtain ⟨c', rfl, hscans⟩ := hbefore.scans (hpassed n)
    cases hst with
    | recursive hst =>
        obtain rfl : g = before ++ g' := hlog
        exact hscans.stepped_stale hst

/-- **One pull asks for at most one page with anything new on it.**  Whatever the service answers, and
whatever becomes of it between the turns: where a turn goes on asking after a page, nothing on that
page was new, which for a direct survey never happens. -/
theorem pages_stale {σ : Type} (F : Forge σ) (root : Slug) (recursive : Bool)
    (schedule : List (Nat × (σ → σ))) (s : σ) :
    Sparing recursive (turns F schedule (start root recursive) s) := by
  have hsplit {before after : List Turn} {turn : Turn}
      (h : turns F schedule (start root recursive) s = before ++ turn :: after) :
      ∃ moves w log w', Course (start root recursive) moves w log ∧
        moves.filterMap Move.record? = handedOut before ∧ TurnCourse w turn w' :=
    turn_course F schedule s .start h
  refine ⟨?direct, ?stale⟩
  case direct =>
    intro hdirect turn hturn
    subst hdirect
    obtain ⟨before, after, h⟩ := List.append_of_mem hturn
    obtain ⟨moves, w, log, w', hcourse, -, hturn⟩ := hsplit h
    obtain ⟨l, rfl, -⟩ := hcourse.listing (P := fun _ _ _ => True) trivial fun _ _ => trivial
    exact hturn.sparing.1
  case stale =>
    intro before turn after h x hx hpage
    obtain ⟨moves, w, log, w', hcourse, hrecords, hturn⟩ := hsplit h
    cases recursive with
    | false =>
        obtain ⟨l, rfl, -⟩ := hcourse.listing (P := fun _ _ _ => True) trivial fun _ _ => trivial
        rw [hturn.sparing.2.not_page hx] at hpage
        cases hpage
    | true =>
        obtain ⟨c, rfl, chapters, -, covered⟩ := hcourse.account
        refine (hturn.stale x hx hpage).mono fun k hk => ?_
        obtain ⟨r, hr, hfold⟩ := (covered.seen_iff k).mp hk
        rw [← hrecords, covered.found_eq]
        exact ⟨r, hr, Slug.same_iff.mpr hfold⟩

end Survey

/-- A fork of a fork. -/
def Catalog.forkOfFork : Catalog :=
  (Catalog.empty.withFork ⟨"a", "r"⟩ ⟨"b", "r"⟩).withFork ⟨"b", "r"⟩ ⟨"c", "r"⟩

namespace Survey

/-- On the way from the last page of `a/r`, which is empty, to the first of `b/r` nothing is handed
out, so one turn asks for both. -/
theorem forkOfFork_paged_twice :
    (turns (Catalog.forge fun _ => 0) [(4, id), (4, id), (4, id)] (start ⟨"a", "r"⟩ true)
        ([], Catalog.forkOfFork)).map
        (fun turn => (turn.result.bind Pull.record?).map Repository.owner) =
      [some "a", some "b", some "c"] ∧
    (turns (Catalog.forge fun _ => 0) [(4, id), (4, id), (4, id)] (start ⟨"a", "r"⟩ true)
        ([], Catalog.forkOfFork)).map (fun turn => pageCalls turn.asked) = [0, 1, 2] := by
  decide +kernel

end Survey

end ForkCensus
