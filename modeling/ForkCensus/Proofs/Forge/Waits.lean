import ForkCensus.Proofs.Discovery.Course

/-
# How long a wait is

The wait for new quota is computed with numbers of 64 bits and sums that
stay at the ends of their range.  `Quota.owed` is what integers make of
it, and `Quota.wait_exact` says that the two agree wherever a wait comes
of it: a sum that leaves the range at the top is beyond the longest wait
anyway, and one that leaves it at the bottom is far below zero
(`Quota.toInt_seconds`).

Nothing else than the gate lets time pass, so no survey of any service
ever pauses for less than a second or for more than an hour
(`Survey.pauses_brief`).
-/

namespace ForkCensus

namespace Quota

/-- The seconds from `now` to a little after the end of the window, an hour at most, in integers. -/
def owed (q : Quota) (now : Int64) : Int :=
  min 3600 (q.reset.toInt - now.toInt + 5)

/-- How long a wait is; none takes no time. -/
def span (wait : Option UInt64) : Nat :=
  wait.elim 0 UInt64.toNat

/-! ## Sums that stay in their range -/

theorem toInt_ofIntClamp (n : Int) : (Int64.ofIntClamp n).toInt =
    max Int64.minValue.toInt (min n Int64.maxValue.toInt) := by
  have hrange : Int64.minValue.toInt ≤ Int64.maxValue.toInt := by decide
  unfold Int64.ofIntClamp
  split
  · split
    · rw [Int64.toInt_ofIntLE]
      omega
    · omega
  · omega

theorem toInt_min (a b : Int64) : (min a b).toInt = min a.toInt b.toInt := by
  have hmin : min a b = if a ≤ b then a else b := rfl
  rw [hmin]
  split
  · rename_i h
    rw [Int64.le_iff_toInt_le] at h
    omega
  · rename_i h
    rw [Int64.le_iff_toInt_le] at h
    omega

/-- **What the bounds of the range do to the sum.**  Of the two ends only the lower one shows, where
there is nothing to wait for. -/
theorem toInt_seconds (q : Quota) (now : Int64) :
    (min (boundedAdd (boundedSub q.reset now) waitMargin) longestWait).toInt =
      max (Int64.minValue.toInt + 5) (q.owed now) := by
  have hmargin : waitMargin.toInt = 5 := rfl
  have hlongest : longestWait.toInt = 3600 := rfl
  have hmin : Int64.minValue.toInt = -9223372036854775808 := rfl
  have hmax : Int64.maxValue.toInt = 9223372036854775807 := rfl
  rw [toInt_min, boundedAdd, toInt_ofIntClamp, boundedSub, toInt_ofIntClamp, owed]
  omega

/-! ## The wait -/

theorem toNat_toUInt64 {seconds : Int64} (h : 0 ≤ seconds.toInt) :
    (seconds.toUInt64.toNat : Int) = seconds.toInt := by
  have hle : 0 ≤ seconds := Int64.le_iff_toInt_le.mpr h
  rw [Int64.toNat_toUInt64_of_le hle]
  exact Int.toNat_of_nonneg h

/-- **When there is a wait, and how long it is.** -/
theorem wait_eq_some_iff {q : Quota} {now : Int64} {seconds : UInt64} :
    q.wait now = some seconds ↔
      q.remaining = 0 ∧ 0 < q.owed now ∧ (seconds.toNat : Int) = q.owed now := by
  have hmin : Int64.minValue.toInt = -9223372036854775808 := rfl
  have hsum := q.toInt_seconds now
  unfold wait isSpent
  simp only [beq_iff_eq]
  generalize min (boundedAdd (boundedSub q.reset now) waitMargin) longestWait = sum at hsum ⊢
  by_cases hspent : q.remaining = 0
  · rw [if_pos hspent]
    by_cases hle : sum ≤ 0
    · rw [if_pos hle]
      rw [Int64.le_iff_toInt_le, Int64.toInt_zero] at hle
      constructor
      · nofun
      · rintro ⟨-, hpos, -⟩
        omega
    · rw [if_neg hle, Option.some_inj]
      rw [Int64.le_iff_toInt_le, Int64.toInt_zero] at hle
      have howed : sum.toInt = q.owed now := by omega
      have hvalue : (sum.toUInt64.toNat : Int) = q.owed now := by
        rw [toNat_toUInt64 (by omega), howed]
      constructor
      · rintro rfl
        exact ⟨hspent, by omega, hvalue⟩
      · rintro ⟨-, -, hseconds⟩
        exact UInt64.toNat_inj.mp (by omega)
  · rw [if_neg hspent]
    exact ⟨nofun, fun h => absurd h.1 hspent⟩

theorem wait_eq_none {q : Quota} {now : Int64} (h : q.remaining ≠ 0 ∨ q.owed now ≤ 0) :
    q.wait now = none := by
  rw [Option.eq_none_iff_forall_ne_some]
  intro seconds hwait
  obtain ⟨hspent, hpos, -⟩ := wait_eq_some_iff.mp hwait
  rcases h with h | h
  · exact h hspent
  · omega

theorem exists_wait {q : Quota} {now : Int64} (hspent : q.remaining = 0) (hpos : 0 < q.owed now) :
    ∃ seconds, q.wait now = some seconds ∧ (seconds.toNat : Int) = q.owed now := by
  have hcap : q.owed now ≤ 3600 := Int.min_le_left _ _
  have hsize : (q.owed now).toNat < UInt64.size := by
    rw [UInt64.size]
    omega
  have hvalue : ((UInt64.ofNat (q.owed now).toNat).toNat : Int) = q.owed now := by
    rw [UInt64.toNat_ofNat_of_lt' hsize]
    omega
  exact ⟨_, wait_eq_some_iff.mpr ⟨hspent, hpos, hvalue⟩, hvalue⟩

/-- How long the wait is, whether there is one or not. -/
theorem span_wait (q : Quota) (now : Int64) :
    span (q.wait now) = if q.remaining = 0 then (q.owed now).toNat else 0 := by
  split
  · rename_i hspent
    by_cases hpos : 0 < q.owed now
    · obtain ⟨seconds, hwait, hvalue⟩ := exists_wait hspent hpos
      rw [hwait]
      show seconds.toNat = _
      omega
    · rw [wait_eq_none (Or.inr (by omega))]
      show 0 = _
      omega
  · rename_i hleft
    rw [wait_eq_none (Or.inl hleft)]
    rfl

/-- A wait is at least a second and at most an hour. -/
theorem wait_brief {q : Quota} {now : Int64} {seconds : UInt64} (h : q.wait now = some seconds) :
    1 ≤ seconds.toNat ∧ seconds.toNat ≤ 3600 := by
  obtain ⟨-, hpos, hvalue⟩ := wait_eq_some_iff.mp h
  rw [owed] at hpos hvalue
  omega

/-- **The wait is what integers make of it**, for every quota and at every time.  It takes from a
second to an hour, grows with the end of the window and falls as time goes on; and unless it is as
long as waits can be, it ends five seconds after the window. -/
theorem wait_exact (q : Quota) (now : Int64) :
    (0 < q.remaining → q.wait now = none) ∧
    (q.remaining = 0 → q.owed now ≤ 0 → q.wait now = none) ∧
    (q.remaining = 0 → 0 < q.owed now →
      ∃ seconds, q.wait now = some seconds ∧ (seconds.toNat : Int) = q.owed now) ∧
    (∀ seconds, q.wait now = some seconds →
      (1 ≤ seconds.toNat ∧ seconds.toNat ≤ 3600) ∧
      (seconds.toNat < 3600 → now.toInt + seconds.toNat = q.reset.toInt + 5)) ∧
    (∀ reset, q.reset ≤ reset →
      span (q.wait now) ≤ span ({ q with reset := reset }.wait now)) ∧
    ∀ later, now ≤ later → span (q.wait later) ≤ span (q.wait now) := by
  refine ⟨fun hleft => ?left, fun _ hle => wait_eq_none (Or.inr hle), exists_wait,
    fun seconds hwait => ⟨wait_brief hwait, fun hshort => ?ends⟩, fun reset hreset => ?reset,
    fun later hlater => ?later⟩
  case left =>
    refine wait_eq_none (Or.inl ?_)
    intro hspent
    rw [hspent] at hleft
    exact absurd hleft (by decide)
  case ends =>
    obtain ⟨-, -, hvalue⟩ := wait_eq_some_iff.mp hwait
    rw [owed] at hvalue
    omega
  case reset =>
    rw [Int64.le_iff_toInt_le] at hreset
    rw [span_wait, span_wait, owed, owed]
    split
    · dsimp only
      omega
    · exact Nat.le_refl 0
  case later =>
    rw [Int64.le_iff_toInt_le] at hlater
    rw [span_wait, span_wait, owed, owed]
    split
    · omega
    · exact Nat.le_refl 0

/-- A window that is over for four seconds is still waited for, one that is over for five is not. -/
example : (⟨0, 996⟩ : Quota).wait 1000 = some 1 ∧ (⟨0, 995⟩ : Quota).wait 1000 = none := by
  decide

end Quota

/-! ## Waits in a survey -/

/-- A question, or a pause from a second to an hour. -/
def Exchange.Brief (x : Exchange) : Prop :=
  ∀ seconds, x = .pause seconds → 1 ≤ seconds.toNat ∧ seconds.toNat ≤ 3600

open Exchange (Brief)

theorem Exchange.brief_of_question {x : Exchange} (h : ∀ seconds, x ≠ .pause seconds) : x.Brief :=
  fun seconds hx => absurd hx (h seconds)

theorem Gate.Passed.brief {g : List Exchange} (h : Gate.Passed g) : ∀ x ∈ g, x.Brief := by
  cases h with
  | free => exact List.forall_mem_singleton.mpr (Exchange.brief_of_question nofun)
  | waited hwait =>
      refine List.forall_mem_cons.mpr ⟨Exchange.brief_of_question nofun,
        List.forall_mem_singleton.mpr ?_⟩
      rintro _ ⟨⟩
      exact Quota.wait_brief hwait

theorem Listing.PageGate.brief {spent : Bool} {g : List Exchange} (h : PageGate spent g) :
    ∀ x ∈ g, x.Brief := by
  cases spent with
  | false => rw [show g = [] from h]; nofun
  | true => exact Gate.Passed.brief h

theorem Listing.Pulled.brief {l l' : Listing} {p : Pull} {g : List Exchange}
    (h : l.Pulled p l' g) : ∀ x ∈ g, x.Brief := by
  -- Behind what the gate lets pass stands one question.
  have hlast {g : List Exchange} (hg : ∀ x ∈ g, x.Brief) {x : Exchange}
      (hx : ∀ seconds, x ≠ .pause seconds) : ∀ y ∈ g ++ [x], y.Brief :=
    List.forall_mem_append.mpr
      ⟨hg, List.forall_mem_singleton.mpr (Exchange.brief_of_question hx)⟩
  cases h with
  | buffered => nofun
  | idle => nofun
  | rootUngated => exact hlast (g := []) nofun nofun
  | rootFailed _ _ hg => exact hlast hg.brief nofun
  | root _ _ hg => exact hlast hg.brief nofun
  | pageUngated => exact hlast (g := []) nofun nofun
  | pageFailed _ _ hg => exact hlast hg.brief nofun
  | lastPage _ _ hg => exact hlast hg.brief nofun
  | page _ _ hg => exact hlast hg.brief nofun

theorem Crawl.Stepped.brief {c c' : Crawl} {m : Move} {g : List Exchange} (h : c.Stepped m c' g) :
    ∀ x ∈ g, x.Brief := by
  cases h with
  | finished => nofun
  | skipped => nofun
  | begun => nofun
  | failed _ hp => exact hp.brief
  | ended _ hp => exact hp.brief
  | repeated _ hp => exact hp.brief
  | found _ hp => exact hp.brief

theorem Survey.Course.brief {v₀ v : Survey} {moves : List Move} {log : List Exchange}
    (h : Course v₀ moves v log) : ∀ x ∈ log, x.Brief := by
  induction h with
  | start => nofun
  | step _ hst ih =>
      refine List.forall_mem_append.mpr ⟨ih, ?_⟩
      cases hst with
      | direct hp => exact hp.brief
      | recursive hst => exact hst.brief

/-- **No survey waits for more than an hour at a time**, whatever the quota that the service tells,
and a pause is never without length. -/
theorem Survey.pauses_brief {σ : Type} (F : Forge σ) (v : Survey) (budgets : List Nat) (s : σ) :
    ∀ x ∈ (v.pulls F.watched budgets ([], s)).state.1, x.Brief := by
  obtain ⟨moves, hcourse, -⟩ := pulls_course (F := F) budgets s (@Course.start v)
  exact hcourse.brief

end ForkCensus
