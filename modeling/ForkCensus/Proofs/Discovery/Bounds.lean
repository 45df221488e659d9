import Mathlib.Data.Finset.Card
import ForkCensus.Proofs.Discovery.Pages
import ForkCensus.Proofs.Forge.Simulation

/-
# How much a survey can ask for

A service that goes on for ever with new repositories, or with pages that
are never empty, keeps a recursive survey busy for ever.  Nothing else
does.  Where all records are of finitely many repositories and every list
of forks comes to an end, or fails, among its first `n` pages, the survey
ends, whatever cycles the answers make and however often they repeat or
contradict each other (`Survey.collect_bounded`).

The chapters of the transcript bound what is asked for: there are no more
of them than repositories, and each has one question for a record and at
most `n` for pages.  That the survey ends needs one thing more: between
two questions it only works off what it has been told, and its account
says how many steps that takes (`Crawl.Covered.paced`).
-/

namespace ForkCensus

namespace Exchange

/-- All records that came in replies, in order. -/
def brought (log : List Exchange) : List Repository :=
  log.flatMap returned

/-- How many questions were for a record or for a page. -/
def requests (log : List Exchange) : Nat :=
  repositoryCalls log + pageCalls log

/-- All records that came are of repositories in `K`, in whatever spelling. -/
def OnlyOf (K : Finset Slug) (log : List Exchange) : Prop :=
  ∀ r ∈ brought log, ∃ k ∈ K, k.same r.slug = true

/-- Of the first `n` questions for pages of one repository, one had an empty page in reply, or
none. -/
def EndsWithin (n : Nat) (log : List Exchange) : Prop :=
  ∀ k, n ≤ (pagesOf k log).length → ∃ x ∈ (pagesOf k log).take n, x.isFull = false

@[simp] theorem brought_append (log log' : List Exchange) :
    brought (log ++ log') = brought log ++ brought log' := by
  simp [brought]

@[simp] theorem requests_append (log log' : List Exchange) :
    requests (log ++ log') = requests log + requests log' := by
  simp only [requests, repositoryCalls_append, pageCalls_append]
  omega

theorem pagesOf_congr {j k : Slug} (h : j.same k = true) (log : List Exchange) :
    pagesOf j log = pagesOf k log := by
  have habout (x : Exchange) : x.call.about j = x.call.about k := by
    cases x with
    | quota => rfl
    | repository i reply => exact Slug.same_congr h i
    | forkPage i page reply => exact Slug.same_congr h i
    | pause => rfl
  simp only [pagesOf, habout]

/-- The repository that was asked for a page of its forks. -/
def paged? : Exchange → Option Slug
  | forkPage k _ _ => some k
  | _ => none

/-- Only repositories that were asked for pages matter. -/
theorem endsWithin_iff {n : Nat} (hpos : 0 < n) {log : List Exchange} :
    EndsWithin n log ↔ ∀ k ∈ log.filterMap paged?, n ≤ (pagesOf k log).length →
      ∃ x ∈ (pagesOf k log).take n, x.isFull = false := by
  refine ⟨fun h k _ => h k, fun h k hlength => ?_⟩
  obtain ⟨x, hx⟩ := List.exists_mem_of_length_pos (Nat.lt_of_lt_of_le hpos hlength)
  obtain ⟨hx, hpage⟩ := List.mem_filter.mp hx
  obtain ⟨habout, hpage⟩ := Bool.and_eq_true_iff.mp hpage
  cases x with
  | forkPage j page reply =>
      have hj : j ∈ log.filterMap paged? := List.mem_filterMap.mpr ⟨_, hx, rfl⟩
      rw [← pagesOf_congr habout] at hlength ⊢
      exact h j hj hlength
  | quota => cases hpage
  | repository => cases hpage
  | pause => cases hpage

/-- Records only come in reply to questions for a record or for a page. -/
theorem Quiet.brought {log : List Exchange} (h : Quiet log) : brought log = [] := by
  refine List.flatMap_eq_nil_iff.mpr fun x hx => ?_
  obtain ⟨_, _, rfl⟩ | ⟨_, rfl⟩ := quota_or_pause (h x hx) <;> rfl

theorem quiet_of_requests {log : List Exchange} (h : requests log = 0) : Quiet log := by
  obtain ⟨hrecords, hpages⟩ := Nat.add_eq_zero_iff.mp h
  intro x hx
  have hrecord := List.countP_eq_zero.mp hrecords x hx
  have hpage := List.countP_eq_zero.mp hpages x hx
  rw [isRequest, Bool.or_eq_false_iff]
  exact ⟨Bool.eq_false_iff.mpr hrecord, Bool.eq_false_iff.mpr hpage⟩

end Exchange

open Exchange

/-! ## One chapter -/

theorem Exchange.pagesOf_forkPage {root k : Slug} (hk : root.same k = true) (page : UInt32)
    (reply : Except ApiError (Answer (List Repository))) :
    pagesOf k [.forkPage root page reply] = [.forkPage root page reply] := by
  simp [pagesOf, isPage, call, Call.about, Call.page?, hk]

/-- One more page, whatever the reply. -/
theorem Listing.PageGate.pagesOf_next {spent : Bool} {g : List Exchange} (h : PageGate spent g)
    {root k : Slug} (hk : root.same k = true) (log : List Exchange) (page : UInt32)
    (reply : Except ApiError (Answer (List Repository))) :
    Exchange.pagesOf k (log ++ (g ++ [.forkPage root page reply])) =
      Exchange.pagesOf k log ++ [.forkPage root page reply] := by
  rw [pagesOf_append, pagesOf_append, h.quiet.pagesOf, pagesOf_forkPage hk, List.nil_append]

theorem Exchange.pagesOf_repository (k root : Slug) (reply : Except ApiError (Answer Repository)) :
    pagesOf k [.repository root reply] = [] := by
  simp [pagesOf, isPage, call, Call.page?]

namespace Listing.Read

variable {root : Slug} {rs : List Repository} {n : Nat} {spent : Bool} {log : List Exchange}

theorem brought (h : Read root rs n spent log) : brought log = rs := by
  induction h with
  | opened hg _ => rw [brought_append, hg.quiet.brought]; rfl
  | page _ hg _ ih =>
      rw [brought_append, brought_append, ih, hg.quiet.brought]
      exact congrArg _ (List.append_nil _)

theorem pagesOf (h : Read root rs n spent log) {k : Slug} (hk : root.same k = true) :
    ∀ x ∈ pagesOf k log, x.isFull = true := by
  induction h with
  | opened hg _ => rw [pagesOf_append, hg.quiet.pagesOf, pagesOf_repository]; nofun
  | page _ hg ha ih =>
      rw [hg.pagesOf_next hk]
      intro x hx
      rcases List.mem_append.mp hx with hx | hx
      · exact ih x hx
      · rw [List.mem_singleton.mp hx]
        simpa [isFull] using ha

end Listing.Read

namespace Chapter

variable {ch : Chapter}

/-- The records of a chapter came in its replies; some of the last page may still be to come. -/
theorem Standing.brought (h : ch.Standing) : ch.records <+: brought ch.log := by
  cases h with
  | opened h =>
      cases h with
      | start => exact List.nil_prefix
      | paging hread =>
          rw [hread.brought]
          exact List.prefix_append _ _
  | complete h =>
      cases h with
      | alone hg _ =>
          rw [brought_append, hg.quiet.brought]
          exact List.prefix_rfl
      | pages hread hg =>
          rw [brought_append, hread.brought]
          exact List.prefix_append _ _
  | broken h =>
      cases h with
      | ungated => exact List.nil_prefix
      | unanswered hg => exact List.nil_prefix
      | pageUngated hread =>
          rw [brought_append, hread.brought]
          exact List.prefix_append _ _
      | pageFailed hread hg =>
          rw [brought_append, hread.brought]
          exact List.prefix_append _ _

/-- All pages of a chapter but the last had something on them. -/
theorem Standing.pagesOf (h : ch.Standing) : ∃ full last : List Exchange,
    pagesOf ch.root ch.log = full ++ last ∧ (∀ x ∈ full, x.isFull = true) ∧
      last.length ≤ 1 := by
  have hroot : ch.root.same ch.root = true := Slug.same_refl _
  cases h with
  | opened h =>
      cases h with
      | start => exact ⟨[], [], rfl, nofun, Nat.zero_le _⟩
      | paging hread =>
          exact ⟨_, [], (List.append_nil _).symm, hread.pagesOf hroot, Nat.zero_le _⟩
  | complete h =>
      cases h with
      | alone hg _ =>
          refine ⟨[], [], ?_, nofun, Nat.zero_le _⟩
          rw [pagesOf_append, hg.quiet.pagesOf, pagesOf_repository]
      | pages hread hg =>
          exact ⟨_, _, hg.pagesOf_next hroot _ _ _, hread.pagesOf hroot, Nat.le_refl _⟩
  | broken h =>
      cases h with
      | ungated => exact ⟨[], [], rfl, nofun, Nat.zero_le _⟩
      | unanswered hg =>
          refine ⟨[], [], ?_, nofun, Nat.zero_le _⟩
          rw [pagesOf_append, hg.quiet.pagesOf, pagesOf_repository]
      | pageUngated hread =>
          exact ⟨_, [], pagesOf_append _ _ _, hread.pagesOf hroot, Nat.zero_le _⟩
      | pageFailed hread hg =>
          exact ⟨_, _, hg.pagesOf_next hroot _ _ _, hread.pagesOf hroot, Nat.le_refl _⟩

/-- Every page in a chapter is of its repository. -/
theorem Standing.pageCalls (h : ch.Standing) :
    pageCalls ch.log = (Exchange.pagesOf ch.root ch.log).length := by
  rw [Exchange.pageCalls, Exchange.pagesOf, ← List.countP_eq_length_filter]
  refine List.countP_congr fun x hx => ?_
  rw [Bool.and_eq_true, iff_and_self]
  intro hpage
  cases x with
  | forkPage j page reply =>
      rw [call, Call.about, Slug.same_comm]
      by_contra hother
      have hnone := h.about_other (Bool.eq_false_iff.mpr hother) _ hx
      rw [call, Call.about, Slug.same_refl] at hnone
      cases hnone
  | quota => cases hpage
  | repository => cases hpage
  | pause => cases hpage

/-- Where one of the first `n` pages is the last, a chapter has no more than `n`. -/
theorem Standing.pageCalls_le (h : ch.Standing) {n : Nat}
    (hn : n ≤ (Exchange.pagesOf ch.root ch.log).length →
      ∃ x ∈ (Exchange.pagesOf ch.root ch.log).take n, x.isFull = false) :
    Exchange.pageCalls ch.log ≤ n := by
  rw [h.pageCalls]
  obtain ⟨full, last, hpages, hfull, hlast⟩ := h.pagesOf
  rw [hpages] at hn ⊢
  by_contra hmore
  rw [List.length_append] at hn hmore
  obtain ⟨x, hx, hempty⟩ := hn (by omega)
  rw [List.take_append_of_le_length (by omega)] at hx
  rw [hfull x (List.mem_of_mem_take hx)] at hempty
  cases hempty

theorem Standing.repositoryCalls_le (h : ch.Standing) : repositoryCalls ch.log ≤ 1 := by
  cases h with
  | opened h =>
      cases h with
      | start => exact Nat.zero_le _
      | paging hread => rw [hread.repositoryCalls]
  | complete h => rw [h.last.1]
  | broken h =>
      have hfirst : ([] : List Exchange).getLast?.any isFull = false := rfl
      have hcalls := h.repositoryCalls hfirst
      omega

/-! ## All chapters -/

/-- What every chapter has at most `n` of, all of them have at most `n` times as much of. -/
theorem countP_flatMap_le {chapters : List Chapter} {f : Exchange → Bool} {n : Nat}
    (h : ∀ ch ∈ chapters, ch.log.countP f ≤ n) :
    (chapters.flatMap Chapter.log).countP f ≤ n * chapters.length := by
  induction chapters with
  | nil => exact Nat.le_refl _
  | cons ch chapters ih =>
      rw [List.flatMap_cons, List.countP_append, List.length_cons, Nat.mul_succ, Nat.add_comm]
      have hlater := ih fun x hx => h x (List.mem_cons_of_mem _ hx)
      exact Nat.add_le_add hlater (h ch List.mem_cons_self)

/-- The records of the chapters came in their replies, in that order. -/
theorem pulled_sublist {chapters : List Chapter} (h : ∀ ch ∈ chapters, ch.Standing) :
    (pulled chapters).Sublist (Exchange.brought (chapters.flatMap Chapter.log)) := by
  induction chapters with
  | nil => exact List.Sublist.refl _
  | cons ch chapters ih =>
      rw [pulled, List.flatMap_cons, List.flatMap_cons, brought_append, ← pulled]
      have hlater := ih fun x hx => h x (List.mem_cons_of_mem _ hx)
      exact (h ch List.mem_cons_self).brought.sublist.append hlater

/-- Each chapter is about the root or about something that came with forks. -/
theorem Grown.wanted {root : Slug} {chapters : List Chapter} (h : Grown root chapters) :
    ∀ ch ∈ chapters, ch.root ∈ Crawl.wanted root (pulled chapters) := by
  induction h with
  | nil => nofun
  | @concat chapters ch _ hch ih =>
      have hmore (k : Slug) (hk : k ∈ Crawl.wanted root (pulled chapters)) :
          k ∈ Crawl.wanted root (pulled (chapters ++ [ch])) := by
        rw [Crawl.wanted, pulled, List.flatMap_append, List.filter_append, List.map_append,
          ← List.cons_append]
        exact List.mem_append_left _ hk
      intro x hx
      rcases List.mem_append.mp hx with hx | hx
      · exact hmore _ (ih x hx)
      · rw [List.mem_singleton.mp hx]
        exact hmore _ hch

end Chapter

namespace Crawl

variable {root : Slug} {moves : List Move} {c : Crawl} {chapters : List Chapter}
  {log : List Exchange} {K : Finset Slug} {n : Nat}

/-- There are no more chapters than repositories. -/
theorem chapters_le (told : c.Told root moves chapters log)
    (covered : c.Covered root (Chapter.pulled chapters) moves) (hK : OnlyOf K log) :
    chapters.length ≤ (K.image Slug.fold).card + 1 := by
  have hroots := roots_nodup told covered
  have hsub : (chapters.map fun ch => ch.root.fold).toFinset ⊆
      insert root.fold (K.image Slug.fold) := by
    intro k hk
    obtain ⟨ch, hch, rfl⟩ := List.mem_map.mp (List.mem_toFinset.mp hk)
    rcases List.mem_cons.mp (told.grown.wanted ch hch) with hroot | hcame
    · rw [hroot]
      exact Finset.mem_insert_self _ _
    · obtain ⟨r, hr, hslug⟩ := List.mem_map.mp hcame
      have hbrought : r ∈ brought log := by
        rw [told.log_eq]
        exact (Chapter.pulled_sublist told.history.standing).subset (List.mem_filter.mp hr).1
      obtain ⟨k, hk, hsame⟩ := hK r hbrought
      rw [← hslug, ← Slug.same_iff.mp hsame]
      exact Finset.mem_insert_of_mem (Finset.mem_image_of_mem _ hk)
  rw [← List.length_map fun ch : Chapter => ch.root.fold, ← List.toFinset_card_of_nodup hroots]
  exact (Finset.card_le_card hsub).trans (Finset.card_insert_le _ _)

/-- Each chapter has one question for a record and at most `n` for pages. -/
theorem calls_le (told : c.Told root moves chapters log)
    (covered : c.Covered root (Chapter.pulled chapters) moves) (hn : EndsWithin n log) :
    repositoryCalls log ≤ chapters.length ∧ pageCalls log ≤ n * chapters.length := by
  have hstanding := told.history.standing
  have hroots := roots_nodup told covered
  rw [told.log_eq] at hn ⊢
  constructor
  · rw [← Nat.one_mul chapters.length]
    exact Chapter.countP_flatMap_le fun ch hch => (hstanding ch hch).repositoryCalls_le
  · refine Chapter.countP_flatMap_le fun ch hch => (hstanding ch hch).pageCalls_le ?_
    -- No other chapter has pages of this repository.
    have hpages : pagesOf ch.root (chapters.flatMap Chapter.log) = pagesOf ch.root ch.log :=
      Chapter.filter_flatMap hstanding hroots hch (Slug.same_refl _)
        fun x hx => (Bool.and_eq_true _ _ ▸ hx).1
    have hends := hn ch.root
    rwa [hpages] at hends

/-- **What a crawl asks for is bounded**, at every point of its course. -/
theorem Account.calls_le (h : Account root moves c log) (hK : OnlyOf K log)
    (hn : EndsWithin n log) :
    repositoryCalls log ≤ (K.image Slug.fold).card + 1 ∧
      pageCalls log ≤ n * ((K.image Slug.fold).card + 1) := by
  obtain ⟨chapters, told, covered⟩ := h
  have hchapters := chapters_le told covered hK
  obtain ⟨hrecords, hpages⟩ := Crawl.calls_le told covered hn
  exact ⟨hrecords.trans hchapters, hpages.trans (Nat.mul_le_mul_left _ hchapters)⟩

/-- **What a crawl does with what it was told is bounded**, as long as it goes on. -/
theorem Account.moves_le (h : Account root moves c log) (hK : OnlyOf K log)
    (hmoves : ∀ m ∈ moves, m.ending? = none) :
    moves.length ≤ 2 * (brought log).length + ((K.image Slug.fold).card + 2) := by
  obtain ⟨chapters, told, covered⟩ := h
  have hchapters := chapters_le told covered hK
  have hpaced := covered.paced hmoves
  have hlisted := told.size_listed
  have hpulled := (Chapter.pulled_sublist told.history.standing).length_le
  rw [← told.log_eq] at hpulled
  omega

end Crawl

namespace Survey

variable {σ : Type} {F : Forge σ}

/-! ## Budgets that are large enough -/

/-- What a survey comes to does not depend on the budget once that lasts. -/
theorem drain_more : ∀ {budget more : Nat} {v : Survey} {s : σ},
    (v.drain F budget s).2.1 ≠ none → budget ≤ more → v.drain F more s = v.drain F budget s
  | 0, _, _, _, h, _ => absurd rfl h
  | budget + 1, 0, _, _, _, hle => absurd hle (Nat.not_succ_le_zero _)
  | budget + 1, more + 1, v, s, h, hle => by
      have hle := Nat.le_of_succ_le_succ hle
      rcases hstep : v.step F s with ⟨m, v', t⟩
      simp only [drain, hstep] at h ⊢
      cases m with
      | finished => rfl
      | failed e => rfl
      | passed => exact drain_more h hle
      | item r =>
          dsimp only at h ⊢
          rw [drain_more h hle]

theorem collect_more {budget more : Nat} {v : Survey} {s : σ}
    (h : (v.drain F budget s).2.1 ≠ none) (hle : budget ≤ more) :
    v.collect F more s = v.collect F budget s := by
  rw [collect, collect, drain_more h hle]

/-- Surveys that end have an outcome. -/
theorem collect_ends {budget : Nat} {v : Survey} {s : σ} (h : (v.drain F budget s).2.1 ≠ none) :
    ∃ outcome, v.collect F budget s = (some outcome, (v.drain F budget s).2.2) := by
  rcases hdrain : v.drain F budget s with ⟨records, ending, rest⟩
  rw [hdrain] at h
  simp only [collect, hdrain]
  cases ending with
  | none => exact absurd rfl h
  | some ending =>
      cases ending with
      | complete => exact ⟨_, rfl⟩
      | broken e => exact ⟨_, rfl⟩

/-- A survey that is drained after these records were handed out. -/
def drainAfter (F : Forge σ) (records : List Repository) (budget : Nat) (v : Survey) (s : σ) :
    List Repository × Option Ending × Survey × σ :=
  (records ++ (v.drain F budget s).1, (v.drain F budget s).2)

/-- A step that does not end the survey, then the rest of it. -/
theorem drain_of_step {v v' : Survey} {s t : σ} {m : Move} (hstep : v.step F s = (m, v', t))
    (hm : m.ending? = none) (budget : Nat) :
    v.drain F (budget + 1) s = v'.drainAfter F m.record?.toList budget t := by
  simp only [drain, hstep]
  cases m with
  | finished => cases hm
  | failed e => cases hm
  | passed => rfl
  | item r => rfl

theorem drain_step {v v' : Survey} {s t : σ} {m : Move} (hstep : v.step F s = (m, v', t))
    (hm : m.ending? = none) (budget : Nat) :
    (v.drain F (budget + 1) s).2 = (v'.drain F budget t).2 := by
  rw [drain_of_step hstep hm, drainAfter]

/-- The transcript of a number of steps. -/
def transcript (F : Forge σ) (v : Survey) (s : List Exchange × σ) (steps : Nat) :
    List Exchange :=
  (v.drain F.watched steps s).2.2.2.1

theorem transcript_more {v : Survey} {s : List Exchange × σ} {budget more : Nat}
    (h : (v.drain F.watched budget s).2.1 ≠ none) (hle : budget ≤ more) :
    transcript F v s more = transcript F v s budget := by
  rw [transcript, transcript, drain_more h hle]

/-! ## The end of a survey -/

/-- A course with `P` at each of its points comes to an end if `P` bounds what was asked for, and
what can happen without asking for more. -/
theorem drain_ends_of_bounded {v₀ : Survey} {P : List Exchange → Prop} {most extra : Nat}
    (hrequests : ∀ {moves v log}, Course v₀ moves v log → P log → requests log ≤ most)
    (hmoves : ∀ {moves v log}, Course v₀ moves v log → P log →
      (∀ m ∈ moves, m.ending? = none) → moves.length ≤ 2 * (brought log).length + extra)
    {moves : List Move} {v : Survey} {log : List Exchange} {s : σ} (h : Course v₀ moves v log)
    (hgoing : ∀ m ∈ moves, m.ending? = none)
    (hP : ∀ steps, P (transcript F v (log, s) steps)) :
    ∃ budget, (v.drain F.watched budget (log, s)).2.1 ≠ none := by
  obtain ⟨m, v', g, t, hstep, hst⟩ := v.step_watched F log s
  cases hm : m.ending? with
  | some ending =>
      refine ⟨1, ?_⟩
      simp only [drain, hstep]
      cases m with
      | finished => exact Option.some_ne_none _
      | failed e => exact Option.some_ne_none _
      | passed => cases hm
      | item r => cases hm
  | none =>
      have h' := h.step hst
      have hgoing' : ∀ m' ∈ moves ++ [m], m'.ending? = none := by
        intro m' hm'
        rcases List.mem_append.mp hm' with hm' | hm'
        · exact hgoing m' hm'
        · rwa [List.mem_singleton.mp hm']
      have hP' : ∀ steps, P (transcript F v' (log ++ g, t) steps) := by
        intro steps
        have hnext := hP (steps + 1)
        rwa [transcript, drain_step hstep hm] at hnext
      have hrequests' := hrequests h' (hP' 0)
      have hmoves' := hmoves h' (hP' 0) hgoing'
      -- Either more was asked for, or one step more was done with what had been told before.
      have hless : most - requests (log ++ g) < most - requests log ∨
          most - requests (log ++ g) = most - requests log ∧
            2 * (brought (log ++ g)).length + extra - (moves ++ [m]).length <
              2 * (brought log).length + extra - moves.length := by
        rw [List.length_append, List.length_singleton] at hmoves' ⊢
        rw [requests_append] at hrequests' ⊢
        by_cases hg : requests g = 0
        · rw [brought_append, (quiet_of_requests hg).brought, List.append_nil] at hmoves' ⊢
          omega
        · omega
      obtain ⟨budget, hends⟩ := drain_ends_of_bounded hrequests hmoves h' hgoing' hP'
      refine ⟨budget + 1, ?_⟩
      rwa [drain_step hstep hm]
termination_by (most - requests log, 2 * (brought log).length + extra - moves.length)
decreasing_by exact Prod.lex_def.mpr hless

/-- **On a finite universe a recursive survey ends, and asks for little.**  Whatever the service
answers and however its answers depend on what it was asked before: if all records that it returns
are of repositories in `K`, and of the first `n` questions for pages of one repository one has an
empty page in reply or fails, then the survey comes to its end, and has asked for at most one record
more than there are repositories in `K`, and for at most `n` times as many pages. -/
theorem collect_bounded (F : Forge σ) (root : Slug) (s : σ) (K : Finset Slug) (n : Nat)
    (hK : ∀ steps, OnlyOf K (transcript F (.start root true) ([], s) steps))
    (hn : ∀ steps, EndsWithin n (transcript F (.start root true) ([], s) steps)) :
    ∃ budget outcome left log t,
      (∀ more, budget ≤ more → (Survey.start root true).collect F.watched more ([], s) =
        (some outcome, left, log, t)) ∧
      repositoryCalls log ≤ (K.image Slug.fold).card + 1 ∧
      pageCalls log ≤ n * ((K.image Slug.fold).card + 1) := by
  have hbounds {moves v log} (h : Course (.start root true) moves v log)
      (hP : OnlyOf K log ∧ EndsWithin n log) :
      repositoryCalls log ≤ (K.image Slug.fold).card + 1 ∧
        pageCalls log ≤ n * ((K.image Slug.fold).card + 1) := by
    obtain ⟨c, -, haccount⟩ := h.account
    exact haccount.calls_le hP.1 hP.2
  obtain ⟨budget, hends⟩ := drain_ends_of_bounded (F := F) (s := s)
    (P := fun log => OnlyOf K log ∧ EndsWithin n log)
    (fun h hP => Nat.add_le_add (hbounds h hP).1 (hbounds h hP).2)
    (fun h hP hgoing => by
      obtain ⟨c, -, haccount⟩ := h.account
      exact haccount.moves_le hP.1 hgoing)
    (@Course.start (.start root true)) nofun fun steps => ⟨hK steps, hn steps⟩
  obtain ⟨moves, left, log, t, hdrain, hcourse, -⟩ :=
    drain_course (F := F) budget s (@Course.start (.start root true))
  have hlog : transcript F (.start root true) ([], s) budget = log := by
    rw [transcript, hdrain]
  obtain ⟨outcome, hcollect⟩ := collect_ends hends
  rw [hdrain] at hcollect
  refine ⟨budget, outcome, left, log, t, ?_, ?_⟩
  · intro more hle
    rw [collect_more hends hle, hcollect]
  · rw [← hlog]
    rw [List.nil_append, ← hlog] at hcourse
    exact hbounds hcourse ⟨hK budget, hn budget⟩

/-- The transcript of a recursive survey of two repositories that are forks of each other. -/
def logOfTwo (steps : Nat) : List Exchange :=
  transcript (Catalog.forge fun _ => 0) (.start ⟨"a", "r"⟩ true) ([], [], Catalog.pair) steps

theorem logOfTwo_of_le {P : List Exchange → Prop} (h : ∀ steps ≤ 9, P (logOfTwo steps))
    (steps : Nat) : P (logOfTwo steps) := by
  have hends : ((Survey.start ⟨"a", "r"⟩ true).drain (Catalog.forge fun _ => 0).watched 9
      ([], [], Catalog.pair)).2.1 ≠ none := by
    decide +kernel
  rcases Nat.le_total steps 9 with hle | hle
  · exact h steps hle
  · rw [show logOfTwo steps = logOfTwo 9 from transcript_more hends hle]
    exact h 9 (Nat.le_refl _)

/-- It keeps to the two, whose lists end with the second page. -/
theorem collect_bounded_two :
    (∀ steps, OnlyOf {⟨"a", "r"⟩, ⟨"b", "r"⟩} (logOfTwo steps)) ∧
      (∀ steps, EndsWithin 2 (logOfTwo steps)) ∧
      ∃ budget outcome left log t,
        (∀ more, budget ≤ more → (Survey.start ⟨"a", "r"⟩ true).collect
          (Catalog.forge fun _ => 0).watched more ([], [], Catalog.pair) =
            (some outcome, left, log, t)) ∧
        repositoryCalls log ≤ 3 ∧ pageCalls log ≤ 6 := by
  have hK : ∀ steps, OnlyOf {⟨"a", "r"⟩, ⟨"b", "r"⟩} (logOfTwo steps) :=
    logOfTwo_of_le (by unfold OnlyOf; decide +kernel)
  have hn : ∀ steps, EndsWithin 2 (logOfTwo steps) := by
    refine logOfTwo_of_le fun steps hsteps => (endsWithin_iff (by decide)).mpr ?_
    revert steps
    decide +kernel
  have h := collect_bounded (Catalog.forge fun _ => 0) ⟨"a", "r"⟩ ([], Catalog.pair)
    {⟨"a", "r"⟩, ⟨"b", "r"⟩} 2 hK hn
  have hcard : (({⟨"a", "r"⟩, ⟨"b", "r"⟩} : Finset Slug).image Slug.fold).card = 2 := by
    decide +kernel
  rw [hcard] at h
  exact ⟨hK, hn, h⟩

end Survey

end ForkCensus
