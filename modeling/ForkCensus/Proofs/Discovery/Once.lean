import Mathlib.Algebra.Group.Nat.Defs
import Mathlib.Data.List.Nodup
import ForkCensus.Proofs.Discovery.Account

/-
# Nothing is asked for twice

Within one survey, whatever the service answers: the calls about one
repository are its record, once, and then its pages of forks from 1 on,
each once (`Chapter.Standing.callsAbout`, `Crawl.Account.callsAbout`).  For a
recursive survey `Survey.pulls_once` adds that no repository is handed
out twice and what the count of listings is.

It all comes from the chapters of the transcript: one chapter for each
listed repository, and no repository is listed twice.
-/

namespace ForkCensus

/-- The calls for pages 1 to `n` of the forks of a repository. -/
def Call.pages (k : Slug) (n : Nat) : List Call :=
  (List.range' 1 n).map fun i => .forkPage k (.ofNat i)

theorem Call.pages_succ (k : Slug) (n : Nat) :
    Call.pages k (n + 1) = Call.pages k n ++ [.forkPage k (.ofNat (n + 1))] := by
  simp [Call.pages, List.range'_1_concat, Nat.add_comm]

/-! ## The calls of one chapter -/

open Exchange

theorem Exchange.callsAbout_repository {root k : Slug} (hk : root.same k = true)
    (reply : Except ApiError (Answer Repository)) :
    callsAbout k [.repository root reply] = [.repository root] := by
  simp [callsAbout, call, Call.about, hk]

theorem Exchange.callsAbout_repository_other {root k : Slug} (hk : root.same k = false)
    (reply : Except ApiError (Answer Repository)) :
    callsAbout k [.repository root reply] = [] := by
  simp [callsAbout, call, Call.about, hk]

theorem Exchange.callsAbout_forkPage {root k : Slug} (hk : root.same k = true) (page : UInt32)
    (reply : Except ApiError (Answer (List Repository))) :
    callsAbout k [.forkPage root page reply] = [.forkPage root page] := by
  simp [callsAbout, call, Call.about, hk]

theorem Exchange.callsAbout_forkPage_other {root k : Slug} (hk : root.same k = false)
    (page : UInt32) (reply : Except ApiError (Answer (List Repository))) :
    callsAbout k [.forkPage root page reply] = [] := by
  simp [callsAbout, call, Call.about, hk]

theorem Exchange.callsAbout_quota (k : Slug) (reply : Except ApiError Quota) (time : Int64) :
    callsAbout k [.quota reply time] = [] := rfl

theorem Gate.Passed.callsAbout_repository {g : List Exchange} (h : Gate.Passed g)
    {root k : Slug} (hk : root.same k = true) (reply : Except ApiError (Answer Repository)) :
    Exchange.callsAbout k (g ++ [.repository root reply]) =
      .repository root :: Call.pages root 0 := by
  rw [callsAbout_append, h.quiet.callsAbout, Exchange.callsAbout_repository hk]
  rfl

namespace Listing.Read

variable {root : Slug} {rs : List Repository} {n : Nat} {spent : Bool} {log : List Exchange}

theorem callsAbout (h : Read root rs n spent log) {k : Slug} (hk : root.same k = true) :
    callsAbout k log = .repository root :: Call.pages root n := by
  induction h with
  | opened hg _ =>
      rw [callsAbout_append, hg.quiet.callsAbout, callsAbout_repository hk]
      rfl
  | page _ hg _ ih =>
      rw [callsAbout_append, callsAbout_append, hg.quiet.callsAbout, callsAbout_forkPage hk, ih,
        Call.pages_succ]
      rfl

theorem callsAbout_other (h : Read root rs n spent log) {k : Slug} (hk : root.same k = false) :
    Exchange.callsAbout k log = [] := by
  induction h with
  | opened hg _ => rw [callsAbout_append, hg.quiet.callsAbout, callsAbout_repository_other hk]; rfl
  | page _ hg _ ih =>
      rw [callsAbout_append, callsAbout_append, hg.quiet.callsAbout, callsAbout_forkPage_other hk, ih]
      rfl

theorem fullPages (h : Read root rs n spent log) {k : Slug} (hk : root.same k = true) :
    n ≤ fullPages k log := by
  induction h with
  | opened => exact Nat.zero_le _
  | @page _ n _ log g a _ hg ha ih =>
      have hlast : Exchange.fullPages k [.forkPage root (.ofNat (n + 1)) (.ok a)] = 1 := by
        simp [Exchange.fullPages, call, Call.about, isFull, hk, ha]
      simp only [fullPages_append, hlast]
      omega

theorem repositoryCalls (h : Read root rs n spent log) : repositoryCalls log = 1 := by
  induction h with
  | opened hg _ =>
      rw [repositoryCalls_append, hg.quiet.repositoryCalls]
      rfl
  | page _ hg _ ih =>
      rw [repositoryCalls_append, repositoryCalls_append, hg.quiet.repositoryCalls, ih]
      rfl

/-- The last exchange: a page with something on it if the quota was spent, no failed gate. -/
theorem last (h : Read root rs n spent log) : ∃ before x, log = before ++ [x] ∧
    x.isQuotaFailure = false ∧ (spent = true → x.isFull = true) := by
  cases h with
  | opened => exact ⟨_, _, rfl, rfl, nofun⟩
  | page _ _ ha =>
      exact ⟨_, _, (List.append_assoc _ _ _).symm, rfl, fun _ => by simpa [isFull] using ha⟩

/-! One more page, whatever the reply. -/

theorem callsAbout_next (h : Read root rs n spent log) {g : List Exchange}
    (hg : PageGate spent g) {k : Slug} (hk : root.same k = true)
    (reply : Except ApiError (Answer (List Repository))) :
    Exchange.callsAbout k (log ++ (g ++ [.forkPage root (.ofNat (n + 1)) reply])) =
      .repository root :: Call.pages root (n + 1) := by
  rw [callsAbout_append, callsAbout_append, h.callsAbout hk, hg.quiet.callsAbout,
    callsAbout_forkPage hk, Call.pages_succ]
  rfl

theorem callsAbout_next_other (h : Read root rs n spent log) {g : List Exchange}
    (hg : PageGate spent g) {k : Slug} (hk : root.same k = false)
    (reply : Except ApiError (Answer (List Repository))) :
    Exchange.callsAbout k (log ++ (g ++ [.forkPage root (.ofNat (n + 1)) reply])) = [] := by
  rw [callsAbout_append, callsAbout_append, h.callsAbout_other hk, hg.quiet.callsAbout,
    callsAbout_forkPage_other hk]
  rfl

theorem fullPages_next (h : Read root rs n spent log) {k : Slug} (hk : root.same k = true)
    (g : List Exchange) : n + 1 ≤ Exchange.fullPages k (log ++ g) + 1 := by
  rw [fullPages_append]
  exact Nat.succ_le_succ (Nat.le_add_right_of_le (h.fullPages hk))

end Listing.Read

namespace Chapter

/-- A chapter as far as any service lets it come. -/
inductive Standing : Chapter → Prop
  | opened {ch : Chapter} {l : Listing} : ch.Open l → Standing ch
  | complete {ch : Chapter} : ch.Complete → Standing ch
  | broken {ch : Chapter} : ch.Broken → Standing ch

variable {ch : Chapter} {k : Slug}

/-- **The calls of a chapter about its repository**: none, or the record and then the pages from 1
on; all pages but the last had something on them. -/
theorem Standing.callsAbout (h : ch.Standing) (hk : ch.root.same k = true) :
    callsAbout k ch.log = [] ∨ ∃ n, n ≤ fullPages k ch.log + 1 ∧
      callsAbout k ch.log = .repository ch.root :: Call.pages ch.root n := by
  cases h with
  | opened h =>
      cases h with
      | start => exact Or.inl rfl
      | paging hread =>
          exact Or.inr ⟨_, Nat.le_succ_of_le (hread.fullPages hk), hread.callsAbout hk⟩
  | complete h =>
      cases h with
      | alone hg _ => exact Or.inr ⟨0, Nat.zero_le _, hg.callsAbout_repository hk _⟩
      | pages hread hg =>
          exact Or.inr ⟨_, hread.fullPages_next hk _, hread.callsAbout_next hg hk _⟩
  | broken h =>
      cases h with
      | ungated => exact Or.inl rfl
      | unanswered hg => exact Or.inr ⟨0, Nat.zero_le _, hg.callsAbout_repository hk _⟩
      | @pageUngated _ _ n _ _ _ hread =>
          refine Or.inr ⟨n, ?_, ?_⟩
          · rw [fullPages_append]
            exact Nat.le_succ_of_le (Nat.le_add_right_of_le (hread.fullPages hk))
          · rw [callsAbout_append, hread.callsAbout hk, callsAbout_quota, List.append_nil]
      | pageFailed hread hg =>
          exact Or.inr ⟨_, hread.fullPages_next hk _, hread.callsAbout_next hg hk _⟩

/-- A chapter has no calls about other repositories. -/
theorem Standing.callsAbout_other (h : ch.Standing) (hk : ch.root.same k = false) :
    Exchange.callsAbout k ch.log = [] := by
  cases h with
  | opened h =>
      cases h with
      | start => rfl
      | paging hread => exact hread.callsAbout_other hk
  | complete h =>
      cases h with
      | alone hg _ => rw [callsAbout_append, hg.quiet.callsAbout, callsAbout_repository_other hk]; rfl
      | pages hread hg => exact hread.callsAbout_next_other hg hk _
  | broken h =>
      cases h with
      | ungated => rfl
      | unanswered hg => rw [callsAbout_append, hg.quiet.callsAbout, callsAbout_repository_other hk]; rfl
      | pageUngated hread =>
          rw [callsAbout_append, hread.callsAbout_other hk, callsAbout_quota, List.append_nil]
      | pageFailed hread hg => exact hread.callsAbout_next_other hg hk _

/-- A complete chapter asks for the record of its repository, and ends neither at the gate nor with
a page that had something on it. -/
theorem Complete.last (h : ch.Complete) : Exchange.repositoryCalls ch.log = 1 ∧
    ∃ before x, ch.log = before ++ [x] ∧ x.isQuotaFailure = false ∧ x.isFull = false := by
  cases h with
  | alone hg _ =>
      refine ⟨?_, _, _, rfl, rfl, rfl⟩
      rw [repositoryCalls_append, hg.quiet.repositoryCalls]
      rfl
  | pages hread hg =>
      refine ⟨?_, _, _, (List.append_assoc _ _ _).symm, rfl, rfl⟩
      rw [repositoryCalls_append, repositoryCalls_append, hread.repositoryCalls,
        hg.quiet.repositoryCalls]
      rfl

theorem complete_last {done : List Chapter} (h : ∀ ch ∈ done, ch.Complete) :
    Exchange.repositoryCalls (done.flatMap Chapter.log) = done.length ∧
      (done.flatMap Chapter.log).getLast?.any isQuotaFailure = false ∧
      (done.flatMap Chapter.log).getLast?.any isFull = false := by
  induction done using List.reverseRecOn with
  | nil => exact ⟨rfl, rfl, rfl⟩
  | append_singleton done ch ih =>
      obtain ⟨hcalls, -, -⟩ := ih fun x hx => h x (List.mem_append_left _ hx)
      obtain ⟨hch, before, x, hlog, hquota, hfull⟩ :=
        (h ch (List.mem_append_right _ List.mem_cons_self)).last
      have hflat : (done ++ [ch]).flatMap Chapter.log =
          done.flatMap Chapter.log ++ ch.log := by simp
      rw [hflat]
      refine ⟨?_, ?_, ?_⟩
      · rw [repositoryCalls_append, hcalls, hch, List.length_append, List.length_singleton]
      · simpa [hlog] using hquota
      · simpa [hlog] using hfull

/-- A chapter with its gate passed asks for the record of its repository once. -/
theorem Open.repositoryCalls {l : Listing} (h : ch.Open l) (hl : l.phase ≠ .start)
    (before : List Exchange) :
    Exchange.repositoryCalls ch.log = 1 ∧ endsUngated (before ++ ch.log) = false := by
  cases h with
  | start => exact absurd rfl hl
  | paging hread =>
      obtain ⟨before', x, hlog, hquota, -⟩ := hread.last
      refine ⟨hread.repositoryCalls, ?_⟩
      simp only [hlog, ← List.append_assoc, endsUngated_concat, hquota, Bool.false_and]

/-- A broken chapter asks for the record of its repository once, unless it failed at the gate before
that. -/
theorem Broken.repositoryCalls (h : ch.Broken) {before : List Exchange}
    (hbefore : before.getLast?.any isFull = false) :
    Exchange.repositoryCalls ch.log + (if endsUngated (before ++ ch.log) then 1 else 0) = 1 := by
  cases h with
  | ungated =>
      rw [endsUngated_concat, hbefore]
      rfl
  | unanswered hg =>
      rw [← List.append_assoc, endsUngated_concat, repositoryCalls_append, hg.quiet.repositoryCalls]
      rfl
  | pageUngated hread =>
      obtain ⟨before', x, hlog, -, hfull⟩ := hread.last
      have hlast : (before ++ (before' ++ [x])).getLast?.any isFull = true := by
        simpa using hfull rfl
      rw [← List.append_assoc, endsUngated_concat, hlog, hlast, ← hlog, repositoryCalls_append,
        hread.repositoryCalls]
      rfl
  | pageFailed hread hg =>
      rw [← List.append_assoc, ← List.append_assoc, endsUngated_concat, repositoryCalls_append,
        repositoryCalls_append, hread.repositoryCalls, hg.quiet.repositoryCalls]
      rfl

theorem Standing.about_other (h : ch.Standing) (hk : ch.root.same k = false) :
    ∀ x ∈ ch.log, x.call.about k = false := by
  have hnone := h.callsAbout_other hk
  rw [callsAbout_eq, List.map_eq_nil_iff, List.filter_eq_nil_iff] at hnone
  exact fun x hx => Bool.eq_false_iff.mpr (hnone x hx)

/-- Chapters about other repositories have nothing about a given one. -/
theorem filter_flatMap_other {chapters : List Chapter} (h : ∀ ch ∈ chapters, ch.Standing)
    (hk : ∀ ch ∈ chapters, ch.root.same k = false) {f : Exchange → Bool}
    (hf : ∀ x, f x = true → x.call.about k = true) :
    (chapters.flatMap Chapter.log).filter f = [] := by
  rw [List.filter_eq_nil_iff]
  intro x hx hfx
  obtain ⟨ch, hch, hx⟩ := List.mem_flatMap.mp hx
  have hother := (h ch hch).about_other (hk ch hch) x hx
  rw [hf x hfx] at hother
  cases hother

/-- Of chapters about different repositories only one has something about a given one. -/
theorem filter_flatMap {chapters : List Chapter} (h : ∀ ch ∈ chapters, ch.Standing)
    (hroots : (chapters.map fun ch => ch.root.fold).Nodup) (hch : ch ∈ chapters)
    (hk : ch.root.same k = true) {f : Exchange → Bool}
    (hf : ∀ x, f x = true → x.call.about k = true) :
    (chapters.flatMap Chapter.log).filter f = ch.log.filter f := by
  induction chapters with
  | nil => cases hch
  | cons ch' chapters ih =>
      rw [List.map_cons, List.nodup_cons] at hroots
      obtain ⟨hnew, hroots⟩ := hroots
      have hlater : ∀ ch ∈ chapters, ch.Standing := fun x hx => h x (List.mem_cons_of_mem _ hx)
      rw [List.flatMap_cons, List.filter_append]
      rcases List.mem_cons.mp hch with rfl | hch
      · have hnone : ∀ x ∈ chapters, x.root.same k = false := by
          intro x hx
          refine Bool.eq_false_iff.mpr fun hsame => hnew ?_
          exact List.mem_map.mpr
            ⟨x, hx, (Slug.same_iff.mp hsame).trans (Slug.same_iff.mp hk).symm⟩
        rw [filter_flatMap_other hlater hnone hf, List.append_nil]
      · have hother : ch'.root.same k = false := by
          refine Bool.eq_false_iff.mpr fun hsame => hnew ?_
          exact List.mem_map.mpr
            ⟨ch, hch, (Slug.same_iff.mp hk).trans (Slug.same_iff.mp hsame).symm⟩
        have hnone : ch'.log.filter f = [] := by
          rw [List.filter_eq_nil_iff]
          intro x hx hfx
          have hx := (h ch' List.mem_cons_self).about_other hother x hx
          rw [hf x hfx] at hx
          cases hx
        rw [hnone, List.nil_append]
        exact ih hlater hroots hch

theorem callsAbout_flatMap_other {chapters : List Chapter} (h : ∀ ch ∈ chapters, ch.Standing)
    (hk : ∀ ch ∈ chapters, ch.root.same k = false) :
    Exchange.callsAbout k (chapters.flatMap Chapter.log) = [] := by
  rw [callsAbout_eq, filter_flatMap_other h hk fun _ hx => hx]
  rfl

theorem callsAbout_flatMap {chapters : List Chapter} (h : ∀ ch ∈ chapters, ch.Standing)
    (hroots : (chapters.map fun ch => ch.root.fold).Nodup) (hch : ch ∈ chapters)
    (hk : ch.root.same k = true) :
    Exchange.callsAbout k (chapters.flatMap Chapter.log) = Exchange.callsAbout k ch.log := by
  rw [callsAbout_eq, callsAbout_eq, filter_flatMap h hroots hch hk fun _ hx => hx]

theorem fullPages_le_flatMap {chapters : List Chapter} (hch : ch ∈ chapters) (k : Slug) :
    fullPages k ch.log ≤ fullPages k (chapters.flatMap Chapter.log) := by
  induction chapters with
  | nil => cases hch
  | cons ch' chapters ih =>
      rw [List.flatMap_cons, fullPages_append]
      rcases List.mem_cons.mp hch with rfl | hch
      · exact Nat.le_add_right _ _
      · exact Nat.le_add_left_of_le (ih hch)

end Chapter

/-! ## The calls of a crawl -/

namespace Crawl

variable {root : Slug} {moves : List Move} {c : Crawl} {chapters : List Chapter}
  {log : List Exchange}

theorem History.standing (h : c.History moves chapters) : ∀ ch ∈ chapters, ch.Standing := by
  intro x hx
  cases h with
  | resting _ _ hdone => exact .complete (hdone x hx)
  | listing _ hopen _ hdone =>
      rcases List.mem_append.mp hx with hx | hx
      · exact .complete (hdone x hx)
      · rw [List.mem_singleton.mp hx]
        exact .opened hopen
  | broken _ _ _ hbroken hdone =>
      rcases List.mem_append.mp hx with hx | hx
      · exact .complete (hdone x hx)
      · rw [List.mem_singleton.mp hx]
        exact .broken hbroken

/-- A listing that still is to begin has nothing in its buffer. -/
theorem History.buffer_eq_nil (h : c.History moves chapters) {l : Listing}
    (hcur : c.current = some l) (hl : l.phase = .start) : l.buffer = [] := by
  cases h with
  | resting hrest => exact (hrest l hcur).2
  | listing hcur' hopen =>
      rw [hcur] at hcur'
      obtain rfl := Option.some.inj hcur'
      cases hopen with
      | start => rfl
      | paging => cases hl
  | broken hnone =>
      rw [hnone] at hcur
      cases hcur

/-- The listed repositories are the roots of the chapters, and these are different. -/
theorem roots_nodup (told : c.Told root moves chapters log)
    (covered : c.Covered root (Chapter.pulled chapters) moves) :
    (chapters.map fun ch => ch.root.fold).Nodup := by
  have h : (c.listed.members.reverse.map Slug.fold).Nodup := by
    rw [List.map_reverse]
    exact List.nodup_reverse.mpr covered.listed_once
  rwa [told.listed, List.map_map] at h

/-- **The calls of a crawl about one repository**: none, or its record and then its pages from 1 on,
all under one spelling. -/
theorem Account.callsAbout (h : Account root moves c log) (k : Slug) :
    callsAbout k log = [] ∨ ∃ j n, j.same k = true ∧ n ≤ fullPages k log + 1 ∧
      callsAbout k log = .repository j :: Call.pages j n := by
  obtain ⟨chapters, told, covered⟩ := h
  have hstanding := told.history.standing
  rw [told.log_eq]
  by_cases hk : ∃ ch ∈ chapters, ch.root.same k = true
  · obtain ⟨ch, hch, hk⟩ := hk
    rw [Chapter.callsAbout_flatMap hstanding (roots_nodup told covered) hch hk]
    rcases (hstanding ch hch).callsAbout hk with hnone | ⟨n, hn, hcalls⟩
    · exact Or.inl hnone
    · have hfull := Chapter.fullPages_le_flatMap hch k
      exact Or.inr ⟨ch.root, n, hk, by omega, hcalls⟩
  · refine Or.inl (Chapter.callsAbout_flatMap_other hstanding ?_)
    intro ch hch
    exact Bool.eq_false_iff.mpr fun hsame => hk ⟨ch, hch, hsame⟩

/-- The count of listings is that of the questions for a record, and one more where the gate of a
listing failed; unless a listing was begun and not yet pulled. -/
theorem Account.listedCount (h : Account root moves c log)
    (hfresh : ∀ l, c.current = some l → l.phase ≠ .start) :
    c.listedCount = repositoryCalls log + if endsUngated log then 1 else 0 := by
  obtain ⟨chapters, told, -⟩ := h
  rw [Crawl.listedCount, told.size_listed, told.log_eq]
  cases told.history with
  | resting _ _ hdone =>
      obtain ⟨hcalls, hquota, -⟩ := Chapter.complete_last hdone
      have hends : endsUngated (chapters.flatMap Chapter.log) = false := by
        rw [endsUngated, hquota, Bool.false_and]
      rw [hcalls, hends]
      rfl
  | @listing done ch l hcur hopen _ hdone =>
      obtain ⟨hcalls, -, -⟩ := Chapter.complete_last hdone
      obtain ⟨hch, hends⟩ := hopen.repositoryCalls (hfresh l hcur) (done.flatMap Chapter.log)
      simp [hcalls, hch, hends]
  | @broken done ch _ _ _ _ hbroken hdone =>
      obtain ⟨hcalls, -, hfull⟩ := Chapter.complete_last hdone
      have hch := hbroken.repositoryCalls hfull
      simp only [List.flatMap_append, List.flatMap_singleton, repositoryCalls_append, hcalls,
        List.length_append, List.length_singleton]
      omega

end Crawl

namespace Survey

/-- Where a step brought something, no listing is to begin. -/
theorem Course.not_fresh {root : Slug} {moves : List Move} {c : Crawl} {log : List Exchange}
    (h : Course (.start root true) moves (.recursive c) log)
    (hlast : moves.getLast? ≠ some .passed) : ∀ l, c.current = some l → l.phase ≠ .start := by
  intro l' hcur' hphase
  cases h with
  | start => cases hcur'
  | step hcourse hst =>
      obtain ⟨c₀, rfl, chapters, told, -⟩ := hcourse.account
      cases hst with
      | recursive hst =>
          cases hst with
          | finished hcur => rw [hcur] at hcur'; cases hcur'
          | failed => cases hcur'
          | skipped => simp at hlast
          | begun => simp at hlast
          | ended => simp at hlast
          | repeated => simp at hlast
          | found hcur hp _ =>
              simp only [Crawl.push_current, Option.some.injEq] at hcur'
              subst hcur'
              cases hp with
              | buffered hb =>
                  rw [told.history.buffer_eq_nil hcur hphase] at hb
                  cases hb
              | @root a =>
                  cases ha : a.value.hasForks <;> simp [ha] at hphase
              | page _ hpaging => rw [hpaging] at hphase; cases hphase

/-- **No recursive survey asks for anything twice, or hands out a repository twice.**  Whatever the
service answers, after any number of pulls: the records handed out have different slugs; the calls
about a repository are its record, once, and then pages of its forks, numbered 1, 2, … as long as
fewer than 2³² - 1 of them had something on them; and the count of listings is that of the questions
for a record, and one more exactly where the gate of a listing failed. -/
theorem pulls_once {σ : Type} (F : Forge σ) (root : Slug) (budgets : List Nat) (s : σ) :
    let run := (Survey.start root true).pulls F.watched budgets ([], s)
    let log := run.state.1
    run.records.Pairwise (fun a b => a.slug.same b.slug = false) ∧
    (∀ k, callsAbout k log = [] ∨ ∃ (j : Slug) (pages : List UInt32), j.same k = true ∧
      callsAbout k log = .repository j :: pages.map (.forkPage j) ∧
      (fullPages k log < 2 ^ 32 - 1 →
        pages.map UInt32.toNat = List.range' 1 pages.length)) ∧
    (run.Returned → run.survey.listedCount? =
      some (repositoryCalls log + if endsUngated log then 1 else 0)) := by
  intro run log
  obtain ⟨moves, hcourse, hresults, -⟩ :=
    pulls_course (F := F) budgets s (@Course.start (Survey.start root true))
  obtain ⟨c, -, haccount⟩ := hcourse.account
  refine ⟨?_, ?_, ?_⟩
  · obtain ⟨chapters, -, covered⟩ := haccount
    rw [List.nil_append] at covered
    rw [show run.records = _ from records_of_results hresults, covered.found_eq]
    exact Slug.nodup_fold_iff.mp (Repository.firsts_nodup _)
  · intro k
    rcases haccount.callsAbout k with hnone | ⟨j, n, hj, hn, hcalls⟩
    · exact Or.inl hnone
    · refine Or.inr ⟨j, (List.range' 1 n).map UInt32.ofNat, hj, ?_, ?_⟩
      · rw [hcalls, Call.pages, List.map_map]
        rfl
      · -- All pages but the last had something on them, so every number fits.
        intro hfull
        rw [List.map_map, List.length_map, List.length_range']
        refine (List.map_congr_left ?_).trans (List.map_id _)
        intro i hi
        rw [List.mem_range'_1] at hi
        have hpages : n ≤ fullPages k log + 1 := hn
        have hlt : i < 2 ^ 32 := by omega
        simpa using Nat.mod_eq_of_lt hlt
  · -- A pull that has returned leaves no listing that is still to begin.
    intro hreturned
    obtain ⟨moves', hcourse', hlast⟩ := pulls_returned hreturned
    obtain ⟨c', hc', haccount'⟩ := hcourse'.account
    have hfresh := Course.not_fresh (hc' ▸ hcourse') hlast
    have hcount := haccount'.listedCount hfresh
    rw [show run.survey = .recursive c' from hc', ← hcount]
    rfl

end Survey

/-- Two repositories that are forks of each other. -/
def Catalog.pair : Catalog :=
  (Catalog.empty.withFork ⟨"a", "r"⟩ ⟨"b", "r"⟩).withFork ⟨"b", "r"⟩ ⟨"a", "r"⟩

namespace Survey

/-- A recursive survey of the two. -/
def ofPair : Pulls (List Exchange × List Call × Catalog) :=
  (Survey.start ⟨"a", "r"⟩ true).pulls (Catalog.forge fun _ => 0).watched [9, 9, 9]
    ([], [], Catalog.pair)

/-- The three pulls have returned, and no number of a page began anew. -/
theorem pulls_once_pair : ofPair.Returned ∧
    fullPages ⟨"B", "r"⟩ ofPair.state.1 < 2 ^ 32 - 1 ∧
    ofPair.records.Pairwise (fun a b => a.slug.same b.slug = false) ∧
    (callsAbout ⟨"B", "r"⟩ ofPair.state.1 = [] ∨ ∃ (j : Slug) (pages : List UInt32),
      j.same ⟨"B", "r"⟩ = true ∧
      callsAbout ⟨"B", "r"⟩ ofPair.state.1 = .repository j :: pages.map (.forkPage j) ∧
      pages.map UInt32.toNat = List.range' 1 pages.length) ∧
    ofPair.survey.listedCount? = some
      (repositoryCalls ofPair.state.1 + if endsUngated ofPair.state.1 then 1 else 0) := by
  have h := pulls_once (Catalog.forge fun _ => 0) ⟨"a", "r"⟩ [9, 9, 9] ([], Catalog.pair)
  dsimp only at h
  rw [← ofPair] at h
  obtain ⟨hrecords, hcalls, hcount⟩ := h
  have hreturned : ofPair.Returned := by
    unfold Pulls.Returned
    decide +kernel
  have hlength : ofPair.state.1.length = 8 := by decide +kernel
  have hfull : fullPages ⟨"B", "r"⟩ ofPair.state.1 < 2 ^ 32 - 1 := by
    have hle : fullPages ⟨"B", "r"⟩ ofPair.state.1 ≤ 8 := by
      rw [← hlength]
      exact List.countP_le_length
    omega
  refine ⟨hreturned, hfull, hrecords, ?_, hcount hreturned⟩
  rcases hcalls ⟨"B", "r"⟩ with hnone | ⟨j, pages, hj, hcalls, hpages⟩
  · exact Or.inl hnone
  · exact Or.inr ⟨j, pages, hj, hcalls, hpages hfull⟩

end Survey

end ForkCensus
