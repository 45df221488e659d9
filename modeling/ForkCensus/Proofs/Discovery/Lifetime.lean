import ForkCensus.Proofs.Discovery.Turns

/-
# The life of a survey

A survey is pulled in turns, and between two turns the service may become
any other: what it answers then need have nothing to do with what it
answered before.  `Survey.turns` are the turns of such a life, each with
what it brought and what it asked for.

Once a turn has brought the end or a failure, the survey is over
(`Survey.Over`): nothing is buffered, nothing waits on a stack, and no
listing is under way.  From there no step leads anywhere, whatever the
service (`Survey.Over.step`), which is `Survey.finished_for_good`.  What
the turns before the end can do is a course of its own for each of them
(`Survey.turn_course`).
-/

namespace ForkCensus

open Exchange

theorem Listing.Pulled.over_of_finished {l l' : Listing} {g : List Exchange}
    (h : l.Pulled .finished l' g) : l'.Over := by
  cases h with
  | idle hbuffer hphase => exact ⟨hphase, hbuffer⟩
  | lastPage => exact ⟨rfl, rfl⟩

namespace Survey

/-- One pull: what it brings, if its budget lasts, and what it asks for. -/
structure Turn where
  result : Option Pull
  asked : List Exchange

/-- Pulls in a row, each with its budget of further steps; before each of them the service may change
in whatever way. -/
def turns {σ : Type} (F : Forge σ) : List (Nat × (σ → σ)) → Survey → σ → List Turn
  | [], _, _ => []
  | (budget, change) :: schedule, v, s =>
    let (result, v', g, t) := v.pull F.watched (budget + 1) ([], change s)
    ⟨result, g⟩ :: turns F schedule v' t

/-- Whether the turn brought the end or a failure. -/
def Turn.ends (turn : Turn) : Bool :=
  turn.result.any fun p => p.record?.isNone

/-- Whether the turn brought a failure. -/
def Turn.fails (turn : Turn) : Bool :=
  turn.result.any fun p => p.error?.isSome

/-- The turn that brings the end and asks for nothing. -/
def Turn.idle : Turn :=
  ⟨some .finished, []⟩

/-- What the turns of a survey have to be like once it has ended. -/
structure Settled (turns : List Turn) : Prop where
  /-- Whatever comes after the end is the end again, without a question. -/
  rests : turns.Pairwise fun turn later => turn.ends = true → later = .idle
  /-- No more than one turn brings a failure. -/
  fails_once : turns.countP Turn.fails ≤ 1

/-! ## Where nothing is left to do -/

/-- Nothing will come of the survey any more. -/
def Over : Survey → Prop
  | direct l => l.Over
  | recursive c => c.current = none ∧ c.stack = []

/-- **A survey that is over stays so**, and does not even look at the service. -/
theorem Over.step {v : Survey} (h : v.Over) {σ : Type} (F : Forge σ) (s : σ) :
    v.step F s = (.finished, v, s) := by
  cases v with
  | direct l =>
      obtain ⟨hphase, hbuffer⟩ := h
      simp only [Survey.step, Listing.pull, hbuffer, hphase]
  | recursive c =>
      obtain ⟨hcur, hstack⟩ := h
      simp only [Survey.step, Crawl.step, Crawl.descend, hcur, hstack]

theorem Over.pull {v : Survey} (h : v.Over) {σ : Type} (F : Forge σ) (budget : Nat) (s : σ) :
    v.pull F (budget + 1) s = (some .finished, v, s) := by
  rw [Survey.pull, h.step F s]

/-- The end and a failure leave nothing behind that could go on. -/
theorem Stepped.over {v v' : Survey} {m : Move} {g : List Exchange} (h : v.Stepped m v' g)
    (hm : m.ending? ≠ none) : v'.Over := by
  cases h with
  | @direct l l' p g hp =>
      cases p with
      | item r => exact absurd rfl hm
      | failed e => exact hp.over_of_failed
      | finished => exact hp.over_of_finished
  | recursive hst =>
      cases hst with
      | finished hcur hstack => exact ⟨hcur, hstack⟩
      | skipped => exact absurd rfl hm
      | begun => exact absurd rfl hm
      | failed => exact ⟨rfl, rfl⟩
      | ended => exact absurd rfl hm
      | repeated => exact absurd rfl hm
      | found => exact absurd rfl hm

/-! ## Turns as courses -/

section

variable {v₀ v v' : Survey} {moves moves' : List Move} {log log' : List Exchange}

/-- One course after the other. -/
theorem Course.trans (h : Course v₀ moves v log) (h' : Course v moves' v' log') :
    Course v₀ (moves ++ moves') v' (log ++ log') := by
  induction h' with
  | start => rwa [List.append_nil, List.append_nil]
  | step _ hst ih =>
      rw [← List.append_assoc, ← List.append_assoc]
      exact ih.step hst

/-- A course without steps. -/
theorem Course.of_nil (h : Course v₀ [] v log) : v = v₀ ∧ log = [] := by
  generalize hall : ([] : List Move) = all at h
  cases h with
  | start => exact ⟨rfl, rfl⟩
  | step => simp at hall

/-- The last step of a course. -/
theorem Course.of_concat {m : Move} (h : Course v₀ (moves ++ [m]) v log) :
    ∃ w before g, Course v₀ moves w before ∧ w.Stepped m v g ∧ log = before ++ g := by
  generalize hall : moves ++ [m] = all at h
  cases h with
  | start => simp at hall
  | step h hst =>
      obtain ⟨rfl, hlast⟩ := List.append_inj' hall rfl
      obtain rfl := List.singleton_inj.mp hlast
      exact ⟨_, _, _, h, hst, rfl⟩

end

variable {σ : Type} (F : Forge σ)

/-- The records that turns have handed out. -/
def handedOut (turns : List Turn) : List Repository :=
  turns.filterMap fun turn => turn.result.bind Pull.record?

/-- The course of one turn: something is passed over a number of times, and then there is the result,
if the budget lasts. -/
def TurnCourse (v : Survey) (turn : Turn) (v' : Survey) : Prop :=
  ∃ n, Course v (List.replicate n .passed ++ (turn.result.map Pull.move).toList) v' turn.asked

theorem turns_cons (budget : Nat) (change : σ → σ) (schedule : List (Nat × (σ → σ))) (v : Survey)
    (s : σ) : ∃ turn v' t, TurnCourse v turn v' ∧
      turns F ((budget, change) :: schedule) v s = turn :: turns F schedule v' t := by
  obtain ⟨n, result, v', g, t, hpull, hcourse, -⟩ :=
    pull_course (F := F) (budget + 1) (change s) (@Course.start v)
  refine ⟨⟨result, g⟩, v', t, ⟨n, hcourse⟩, ?_⟩
  simp only [turns, hpull]

theorem TurnCourse.over {v v' : Survey} {turn : Turn} (h : TurnCourse v turn v')
    (hends : turn.ends = true) : v'.Over := by
  obtain ⟨n, hcourse⟩ := h
  obtain ⟨_ | p, g⟩ := turn
  · cases hends
  · obtain ⟨_, _, _, -, hst, -⟩ := hcourse.of_concat
    refine hst.over ?_
    cases p with
    | item r => cases hends
    | finished => nofun
    | failed e => nofun

/-- What a turn hands out is the record among its steps. -/
theorem TurnCourse.record {v v' : Survey} {turn : Turn} (h : TurnCourse v turn v') :
    ∃ moves, Course v moves v' turn.asked ∧
      moves.filterMap Move.record? = (turn.result.bind Pull.record?).toList := by
  obtain ⟨n, hcourse⟩ := h
  refine ⟨_, hcourse, ?_⟩
  obtain ⟨_ | p, g⟩ := turn
  · simp [Move.record?]
  · cases p <;> simp [Move.record?, Pull.move, Pull.record?]

/-- **A turn among others** begins where those before it have left the survey, with what they handed
out. -/
theorem turn_course {v₀ : Survey} : ∀ (schedule : List (Nat × (σ → σ))) {v : Survey}
    {moves : List Move} {log : List Exchange} (s : σ) {before after : List Turn} {turn : Turn},
    Course v₀ moves v log → turns F schedule v s = before ++ turn :: after →
    ∃ moves' w log' w', Course v₀ (moves ++ moves') w log' ∧
      moves'.filterMap Move.record? = handedOut before ∧ TurnCourse w turn w'
  | [], _, _, _, _, before, _, _, _, h => by cases before <;> cases h
  | (budget, change) :: schedule, v, moves, log, s, before, after, turn, hcourse, h => by
      obtain ⟨first, v', t, hfirst, hturns⟩ := turns_cons F budget change schedule v s
      rw [hturns] at h
      cases before with
      | nil =>
          obtain ⟨rfl, -⟩ := List.cons.inj h
          exact ⟨[], v, log, v', by rwa [List.append_nil], rfl, hfirst⟩
      | cons _ before =>
          obtain ⟨rfl, hrest⟩ := List.cons.inj h
          obtain ⟨moves₁, hmoves₁, hrecord⟩ := hfirst.record
          obtain ⟨moves₂, w, log', w', hw, hrecords, hturn⟩ :=
            turn_course schedule t (hcourse.trans hmoves₁) hrest
          refine ⟨moves₁ ++ moves₂, w, log', w', by rwa [← List.append_assoc], ?_, hturn⟩
          rw [List.filterMap_append, hrecord, hrecords]
          unfold handedOut
          rw [List.filterMap_cons]
          cases first.result.bind Pull.record? <;> rfl

/-! ## After the end -/

theorem Over.turns {v : Survey} (h : v.Over) (schedule : List (Nat × (σ → σ))) (s : σ) :
    ∀ turn ∈ v.turns F schedule s, turn = .idle := by
  induction schedule generalizing s with
  | nil => nofun
  | cons first schedule ih =>
      simp only [Survey.turns, h.pull]
      exact List.forall_mem_cons.mpr ⟨rfl, ih _⟩

theorem settled_rests (schedule : List (Nat × (σ → σ))) (v : Survey) (s : σ) :
    (v.turns F schedule s).Pairwise fun turn later => turn.ends = true → later = .idle := by
  induction schedule generalizing v s with
  | nil => exact List.Pairwise.nil
  | cons first schedule ih =>
      obtain ⟨turn, v', t, hturn, hturns⟩ := turns_cons F first.1 first.2 schedule v s
      rw [hturns]
      refine List.pairwise_cons.mpr ⟨?_, ih v' t⟩
      intro later hlater hends
      exact (hturn.over hends).turns F schedule t later hlater

/-- A direct survey is pulled as its listing is. -/
theorem pull_direct (l : Listing) (budget : Nat) (s : σ) :
    (direct l).pull F (budget + 1) s =
      (some (l.pull F s).1, direct (l.pull F s).2.1, (l.pull F s).2.2) := by
  rcases hp : l.pull F s with ⟨p, l', t⟩
  simp only [pull, step, hp]
  cases p <;> rfl

theorem Turn.ends_of_fails {turn : Turn} (h : turn.fails = true) : turn.ends = true := by
  obtain ⟨_ | p, g⟩ := turn
  · cases h
  · cases p with
    | item r => cases h
    | finished => cases h
    | failed e => rfl

/-- Where only idle turns follow one that ends the survey, there is no second failure. -/
theorem settled_of_rests {turns : List Turn}
    (h : turns.Pairwise fun turn later => turn.ends = true → later = .idle) : Settled turns := by
  refine ⟨h, ?_⟩
  induction turns with
  | nil => exact Nat.zero_le _
  | cons turn turns ih =>
      obtain ⟨hturn, hrest⟩ := List.pairwise_cons.mp h
      cases hfails : turn.fails with
      | false =>
          rw [List.countP_cons_of_neg (by rw [hfails]; decide)]
          exact ih hrest
      | true =>
          have hnone : turns.countP Turn.fails = 0 := by
            refine List.countP_eq_zero.mpr fun later hlater => ?_
            rw [hturn later hlater (Turn.ends_of_fails hfails)]
            decide
          rw [List.countP_cons_of_pos hfails, hnone]

/-- **A survey that has ended has ended for good.**  Whatever survey it is, however far it has come,
and whatever becomes of the service between its turns: after a turn that brought the end or a failure
every turn brings the end and asks for nothing, so that no second failure comes.  A listing of its own
is the same as a direct survey. -/
theorem finished_for_good :
    (∀ (v : Survey) (schedule : List (Nat × (σ → σ))) (s : σ), Settled (v.turns F schedule s)) ∧
      ∀ (l : Listing) (budget : Nat) (s : σ), (direct l).pull F (budget + 1) s =
        (some (l.pull F s).1, direct (l.pull F s).2.1, (l.pull F s).2.2) :=
  ⟨fun v schedule s => settled_of_rests (settled_rests F schedule v s), pull_direct F⟩

end Survey

end ForkCensus
