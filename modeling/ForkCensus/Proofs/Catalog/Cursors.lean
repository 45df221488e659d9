import Mathlib.Logic.Function.Basic
import ForkCensus.Proofs.Catalog.Walk

/-
# Many cursors on one catalog

Surveys of one catalog may be pulled in turns, in any order.  They share
the list of the calls it got, and nothing else: what a recursive survey
hands out is the walk from its root, one record after the other, then the
end again and again (`Catalog.collect_walk`).  Neither the turns of the
others nor how many forks a page holds shows in it.

A turn follows the course of its own survey (`Catalog.pull_walks`) and
leaves those of the others alone, so the turns of one survey follow one
course, whatever comes between them (`Catalog.interleaved_walks`).
-/

namespace ForkCensus

open Exchange

namespace Survey

variable {σ : Type}

/-- Turns of a number of surveys of one service, each with its own budget: the results, each with the
number of its survey. -/
def interleaved (F : Forge σ) : List (Nat × Nat) → (Nat → Survey) → σ → List (Nat × Option Pull)
  | [], _, _ => []
  | (i, budget) :: schedule, cursors, s =>
    let (result, v, t) := (cursors i).pull F budget s
    (i, result) :: interleaved F schedule (Function.update cursors i v) t

/-- The results of one of the surveys. -/
def resultsOf (i : Nat) (results : List (Nat × Option Pull)) : List (Option Pull) :=
  (results.filter fun result => result.1 == i).map Prod.snd

theorem resultsOf_same (i : Nat) (result : Option Pull) (results : List (Nat × Option Pull)) :
    resultsOf i ((i, result) :: results) = result :: resultsOf i results := by
  simp [resultsOf]

theorem resultsOf_other {i j : Nat} (h : j ≠ i) (result : Option Pull)
    (results : List (Nat × Option Pull)) :
    resultsOf i ((j, result) :: results) = resultsOf i results := by
  simp [resultsOf, h]

/-- Every turn has a result. -/
theorem length_resultsOf (F : Forge σ) (i : Nat) (schedule : List (Nat × Nat))
    (cursors : Nat → Survey) (s : σ) :
    (resultsOf i (interleaved F schedule cursors s)).length =
      schedule.countP fun turn => turn.1 == i := by
  induction schedule generalizing cursors s with
  | nil => rfl
  | cons turn schedule ih =>
      obtain ⟨j, budget⟩ := turn
      rw [interleaved]
      by_cases hj : j = i
      · subst hj
        rw [resultsOf_same, List.length_cons, ih, List.countP_cons_of_pos]
        exact beq_self_eq_true j
      · rw [resultsOf_other hj, ih, List.countP_cons_of_neg]
        simpa using hj

end Survey

namespace Catalog

/-- A turn changes nothing of the catalog but the list of calls, on which no answer depends. -/
theorem pull_forge (c : Catalog) (clock : Nat → Int64) (budget : Nat) (v : Survey)
    (calls : List Call) : ∃ result v' calls',
      v.pull (forge clock) budget (calls, c) = (result, v', calls', c) ∧
        v.pull (c.still clock) budget calls = (result, v', calls') := by
  obtain ⟨result, p, q, hforge, hstill, h⟩ :=
    ((c.forge_alike_still clock).toMatch.pull budget v (s := (calls, c)) (t := calls) rfl).split
  obtain ⟨v', s, t, rfl, rfl, rfl⟩ := h.split
  exact ⟨result, v', t, hforge, hstill⟩

section

variable {c : Catalog} {root : Slug} (clock : Nat → Int64)

/-- A survey does not pass over something for ever. -/
theorem not_all_passed (hc : c.WellKept) (hpages : ∀ k, c.pageCount k < 2 ^ 32 - 1)
    (hroot : c.repos.contains root = true) {moves : List Move} {v : Survey} {log : List Exchange}
    {n : Nat} (h : Survey.Course (.start root true) (moves ++ List.replicate n .passed) v log)
    (hlog : ∀ x ∈ log, c.Answered x) (hn : c.budget (.start root true) ≤ n) : False := by
  obtain ⟨crawl, rfl, hgone⟩ := h.gone hc hpages hroot hlog
  obtain ⟨crawl', hcrawl, chapters, told, covered⟩ := h.account
  obtain rfl := Survey.recursive.inj hcrawl
  rcases hgone.ending with hmoves | ⟨-, hlast⟩
  · have hlt := steps_lt_budget hc hpages hroot told covered hlog hmoves
    rw [List.length_append, List.length_replicate] at hlt
    omega
  · cases n with
    | zero => exact absurd hn (by simp [budget])
    | succ n =>
        rw [List.replicate_succ', ← List.append_assoc, List.getLast?_concat] at hlast
        cases hlast

/-- **A turn of a recursive survey** that is given enough steps brings something, and follows its
course. -/
theorem pull_walks (hc : c.WellKept) (hpages : ∀ k, c.pageCount k < 2 ^ 32 - 1)
    (hroot : c.repos.contains root = true) {moves : List Move} {v : Survey} {log : List Exchange}
    (h : Survey.Course (.start root true) moves v log) (hlog : ∀ x ∈ log, x.From (c.still clock))
    {budget : Nat} (hbudget : c.budget (.start root true) ≤ budget) (calls : List Call) :
    ∃ p v' calls' moves' log',
      v.pull (forge clock) budget (calls, c) = (some p, v', calls', c) ∧
      Survey.Course (.start root true) (moves ++ moves') v' log' ∧
      (∀ x ∈ log', x.From (c.still clock)) ∧ moves'.filterMap Survey.Move.pull? = [p] := by
  obtain ⟨n, result, v', log', t, hwatched, hcourse, hnone⟩ :=
    Survey.pull_course (F := c.still clock) budget calls h
  have hfrom := ((c.still clock).watched_from.toMatch.pull budget v (s := (log, calls))
    (t := (log, calls)) ⟨⟨rfl, hlog⟩, rfl⟩).2.2.1.2
  have hplain := (c.still clock).watched_alike.toMatch.pull budget v (s := (log, calls))
    (t := calls) rfl
  obtain ⟨result', v'', calls', hforge, hstill⟩ := c.pull_forge clock budget v calls
  rw [hwatched] at hfrom hplain
  rw [hstill] at hplain
  obtain ⟨rfl, rfl, rfl⟩ := hplain
  have hanswered : ∀ x ∈ log', c.Answered x := fun x hx => answered_of_from (hfrom x hx)
  cases result with
  | some p =>
      refine ⟨p, _, _, _, log', hforge, hcourse, hfrom, ?_⟩
      rw [List.filterMap_append, Survey.pull?_passed, Survey.pull?_result]
      rfl
  | none =>
      obtain rfl := hnone rfl
      rw [Option.map_none, Option.toList_none, List.append_nil] at hcourse
      exact (not_all_passed hc hpages hroot hcourse hanswered hbudget).elim

/-- **The turns of one survey bring its walk**, whatever turns of others come between them. -/
theorem interleaved_walks (hc : c.WellKept) (hpages : ∀ k, c.pageCount k < 2 ^ 32 - 1)
    (hroot : c.repos.contains root = true) (i : Nat) : ∀ (schedule : List (Nat × Nat))
    (cursors : Nat → Survey) (calls : List Call) {moves : List Move} {log : List Exchange},
    Survey.Course (.start root true) moves (cursors i) log →
    (∀ x ∈ log, x.From (c.still clock)) →
    (∀ turn ∈ schedule, turn.1 = i → c.budget (.start root true) ≤ turn.2) →
    ∃ moves' v log', Survey.Course (.start root true) (moves ++ moves') v log' ∧
      (∀ x ∈ log', x.From (c.still clock)) ∧
      Survey.resultsOf i (Survey.interleaved (forge clock) schedule cursors (calls, c)) =
        (moves'.filterMap Survey.Move.pull?).map some
  | [], cursors, calls, moves, log, h, hlog, _ =>
      ⟨[], _, log, by rwa [List.append_nil], hlog, rfl⟩
  | (j, budget) :: schedule, cursors, calls, moves, log, h, hlog, hbudget => by
      obtain ⟨hfirst, hlater⟩ := List.forall_mem_cons.mp hbudget
      by_cases hj : j = i
      · subst hj
        obtain ⟨p, v, calls', moves₁, log₁, hpull, h₁, hlog₁, hp⟩ :=
          pull_walks clock hc hpages hroot h hlog (hfirst rfl) calls
        obtain ⟨moves₂, v', log₂, h₂, hlog₂, hresults⟩ :=
          interleaved_walks hc hpages hroot j schedule (Function.update cursors j v) calls'
            (by rwa [Function.update_self]) hlog₁ hlater
        refine ⟨moves₁ ++ moves₂, v', log₂, by rwa [← List.append_assoc], hlog₂, ?_⟩
        simp only [Survey.interleaved, hpull]
        rw [Survey.resultsOf_same, hresults, List.filterMap_append, hp]
        rfl
      · obtain ⟨result, v, calls', hpull, -⟩ := c.pull_forge clock budget (cursors j) calls
        obtain ⟨moves', v', log', h', hlog', hresults⟩ :=
          interleaved_walks hc hpages hroot i schedule (Function.update cursors j v) calls'
            (by rwa [Function.update_of_ne (Ne.symm hj)]) hlog hlater
        refine ⟨moves', v', log', h', hlog', ?_⟩
        simp only [Survey.interleaved, hpull]
        rw [Survey.resultsOf_other hj, hresults]

/-- What the turns of one survey bring begins the walk, and goes on with its end. -/
theorem prefix_of_interleaved (hc : c.WellKept) (hpages : ∀ k, c.pageCount k < 2 ^ 32 - 1)
    (hroot : c.repos.contains root = true) {i : Nat} {schedule : List (Nat × Nat)}
    {cursors : Nat → Survey} (hstart : cursors i = .start root true)
    (hbudget : ∀ turn ∈ schedule, turn.1 = i → c.budget (.start root true) ≤ turn.2)
    (calls : List Call) :
    Survey.resultsOf i (Survey.interleaved (forge clock) schedule cursors (calls, c)) <+:
      (c.walk [root] .empty []).map (some ∘ Pull.item) ++
        List.replicate schedule.length (some Pull.finished) := by
  have hcursor : Survey.Course (.start root true) [] (cursors i) [] := by
    rw [hstart]
    exact .start
  have hnothing : ∀ x ∈ ([] : List Exchange), x.From (c.still clock) := nofun
  obtain ⟨moves, v, log, hcourse, hlog, hresults⟩ :=
    interleaved_walks clock hc hpages hroot i schedule cursors calls hcursor hnothing hbudget
  obtain ⟨crawl, -, hgone⟩ :=
    hcourse.gone hc hpages hroot fun x hx => answered_of_from (hlog x hx)
  rw [List.nil_append] at hgone
  obtain ⟨n, htold, hdone⟩ := hgone.told
  have hlength := congrArg List.length hresults
  rw [Survey.length_resultsOf, htold] at hlength
  have hturns : schedule.countP (fun turn => turn.1 == i) ≤ schedule.length := List.countP_le_length
  simp only [List.length_map, List.length_append, List.length_replicate] at hlength
  rw [hresults, htold, List.map_append, List.map_map, List.map_replicate]
  cases n with
  | zero =>
      rw [List.replicate_zero, List.append_nil]
      exact (hgone.ahead.begins.map _).trans (List.prefix_append _ _)
  | succ n =>
      rw [hgone.ahead.kept_eq (hdone (Nat.succ_ne_zero n)), List.prefix_append_right_inj]
      have hn : n + 1 ≤ schedule.length := by omega
      exact ⟨_, by rw [List.replicate_append_replicate, Nat.add_sub_cancel' hn]⟩

/-- A recursive survey of a well kept catalog hands out the walk. -/
theorem drain_walk (hc : c.WellKept) (hpages : ∀ k, c.pageCount k < 2 ^ 32 - 1)
    (hroot : c.repos.contains root = true) {budget : Nat}
    (hbudget : c.budget (.start root true) ≤ budget) (calls : List Call) :
    ∃ rest, (Survey.start root true).drain (c.still clock) budget calls =
      (c.walk [root] .empty [], some .complete, rest) := by
  obtain ⟨records, rest, hdrain, -⟩ := drain_reachable hc hpages hroot hbudget clock calls
  obtain ⟨moves, v, log, rest', hdrain', hcourse, hlog, -⟩ :=
    c.drain_still clock (.start root true) budget calls
  rw [hdrain, Prod.mk.injEq, Prod.mk.injEq] at hdrain'
  obtain ⟨rfl, hending, rfl⟩ := hdrain'
  obtain ⟨crawl, -, hgone⟩ := hcourse.gone hc hpages hroot hlog
  rcases hgone.ending with hmoves | ⟨hdone, -⟩
  · obtain ⟨m, hm, hend⟩ := Option.bind_eq_some_iff.mp hending.symm
    rw [hmoves m (List.mem_of_getLast? hm)] at hend
    cases hend
  · exact ⟨rest, by rw [hdrain, hgone.ahead.kept_eq hdone]⟩

end

/-- **A recursive survey is the walk, piece by piece.**  However a catalog was built, however many
forks a page holds, and from every repository it has: draining the survey brings the walk from there;
and so do its single pulls, each the next record and then the end, whatever pulls of other surveys of
the catalog come between them. -/
theorem collect_walk (edits : List Edit) (size : Nat) (clock : Nat → Int64) (root : Slug)
    (calls : List Call) (budget : Nat) (hroot : (built edits).repos.contains root = true)
    (hpages : ∀ k, ((built edits).withPageSize size).pageCount k < 2 ^ 32 - 1)
    (hbudget : (built edits).budget (.start root true) ≤ budget) :
    let c := (built edits).withPageSize size
    let all := (built edits).walk [root] .empty []
    (∃ rest, (Survey.start root true).collect (forge clock) budget (calls, c) =
      (some (.ok all), rest)) ∧
    ∀ (i : Nat) (schedule : List (Nat × Nat)) (cursors : Nat → Survey),
      cursors i = .start root true →
      (∀ turn ∈ schedule, turn.1 = i → (built edits).budget (.start root true) ≤ turn.2) →
      Survey.resultsOf i (Survey.interleaved (forge clock) schedule cursors (calls, c)) =
        (all.map (some ∘ Pull.item) ++ List.replicate schedule.length (some Pull.finished)).take
          (schedule.countP fun turn => turn.1 == i) := by
  intro c all
  have hc : c.WellKept := (built_wellKept edits).edit (.pageSize size)
  have hall : c.walk [root] .empty [] = all := walk_withPageSize _ _ _ _ _
  constructor
  · obtain ⟨rest, hdrain⟩ := drain_walk clock hc hpages hroot hbudget calls
    have hforge := (c.forge_alike_still clock).drain budget (.start root true)
      (s := (calls, c)) (t := calls) rfl
    rw [hdrain, hall] at hforge
    obtain ⟨records, p, q, hrun, hq, hpq⟩ := hforge.split
    obtain ⟨rfl, rfl⟩ := Prod.mk.inj hq
    obtain ⟨ending, p', q', rfl, hq', -⟩ := hpq.split
    obtain ⟨rfl, rfl⟩ := Prod.mk.inj hq'
    exact ⟨p', by rw [Survey.collect, hrun]⟩
  · intro i schedule cursors hstart hturns
    have hprefix := prefix_of_interleaved clock hc hpages hroot hstart hturns calls
    rw [hall] at hprefix
    rw [List.prefix_iff_eq_take.mp hprefix, Survey.length_resultsOf]

/-- Two surveys of the knot: all that can be reached from `a`, and the direct forks of `b`. -/
def knotCursors : Nat → Survey
  | 0 => .start ⟨"a", "r"⟩ true
  | _ => .start ⟨"b", "r"⟩ false

/-- Turns of the two, more than there is to hand out. -/
def knotTurns : List (Nat × Nat) :=
  let budget := (built knot).budget (.start ⟨"a", "r"⟩ true)
  [(1, 1), (0, budget), (0, budget), (1, 1), (0, budget), (1, 1), (0, budget)]

/-- With two forks to a page in place of one. -/
theorem collect_walk_knot :
    ((built knot).walk [⟨"a", "r"⟩] .empty []).map Repository.owner = ["a", "b", "c"] ∧
    (∃ rest, (Survey.start ⟨"a", "r"⟩ true).collect (forge fun _ => 0)
        ((built knot).budget (.start ⟨"a", "r"⟩ true)) ([], (built knot).withPageSize 2) =
      (some (.ok ((built knot).walk [⟨"a", "r"⟩] .empty [])), rest)) ∧
    Survey.resultsOf 0 (Survey.interleaved (forge fun _ => 0) knotTurns knotCursors
        ([], (built knot).withPageSize 2)) =
      (((built knot).walk [⟨"a", "r"⟩] .empty []).map (some ∘ Pull.item) ++
        List.replicate 7 (some Pull.finished)).take 4 := by
  have hentries : (((built knot).withPageSize 2).forks.entries.flatMap Prod.snd).length <
      2 ^ 32 - 1 := by
    decide +kernel
  have hpages : ∀ k, ((built knot).withPageSize 2).pageCount k < 2 ^ 32 - 1 := fun k =>
    Nat.lt_of_le_of_lt (Catalog.pageCount_le _ k) hentries
  obtain ⟨hcollect, hturns⟩ := collect_walk knot 2 (fun _ => 0) ⟨"a", "r"⟩ [] _ (by decide +kernel)
    hpages (Nat.le_refl _)
  have howners : ((built knot).walk [⟨"a", "r"⟩] .empty []).map Repository.owner =
      ["a", "b", "c"] := by
    have hrun : (((Survey.start ⟨"a", "r"⟩ true).collect (forge fun _ => 0)
        ((built knot).budget (.start ⟨"a", "r"⟩ true)) ([], (built knot).withPageSize 2)).1.bind
          fun result => result.toOption.map (List.map Repository.owner)) = some ["a", "b", "c"] := by
      decide +kernel
    obtain ⟨rest, hwalk⟩ := hcollect
    rw [hwalk] at hrun
    exact Option.some.inj hrun
  exact ⟨howners, hcollect, hturns 0 knotTurns knotCursors rfl (by decide +kernel)⟩

end Catalog

end ForkCensus
