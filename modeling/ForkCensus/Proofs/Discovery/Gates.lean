import ForkCensus.Proofs.Discovery.Turns

/-
# Where a listing looks at the quota

A listing goes through the gate before its first question, and before a
page exactly where the page before it came with the last request of the
quota.  `Listing.Asks` spells that out from front to back, for everything
that a listing may ask; `Listing.gates_exact` says that any number of
turns against any service asks so.

The chapters of a transcript say the same from back to front: there each
page is written behind what was read before it.  `Listing.Read.asks`
turns the one into the other, by putting what was read before in front of
what is asked from the next page on.
-/

namespace ForkCensus

open Exchange

namespace Listing

/-- What a listing of `root` asks from page `n` on, where the page before it came with the last
request of the quota exactly if `spent`.  `halted` is a listing that is pulled no further. -/
inductive AsksPages (root : Slug) : Nat → Bool → List Exchange → Prop
  | halted {n : Nat} {spent : Bool} : AsksPages root n spent []
  | ungated {n : Nat} {e : ApiError} {time : Int64} :
      AsksPages root n true [.quota (.error e) time]
  | failed {n : Nat} {spent : Bool} {e : ApiError} {g : List Exchange} : PageGate spent g →
      AsksPages root n spent (g ++ [.forkPage root (.ofNat n) (.error e)])
  | last {n : Nat} {spent spent' : Bool} {g : List Exchange} : PageGate spent g →
      AsksPages root n spent (g ++ [.forkPage root (.ofNat n) (.ok ⟨[], spent'⟩)])
  | next {n : Nat} {spent : Bool} {a : Answer (List Repository)} {g rest : List Exchange} :
      PageGate spent g → a.value ≠ [] → AsksPages root (n + 1) a.quotaSpent rest →
      AsksPages root n spent (g ++ .forkPage root (.ofNat n) (.ok a) :: rest)

/-- What a listing of `root` asks: the gate, the record and, if that counts forks, pages from 1 on. -/
inductive Asks (root : Slug) : List Exchange → Prop
  | unasked : Asks root []
  | ungated {e : ApiError} {time : Int64} : Asks root [.quota (.error e) time]
  | failed {e : ApiError} {g : List Exchange} : Gate.Passed g →
      Asks root (g ++ [.repository root (.error e)])
  | alone {a : Answer Repository} {g : List Exchange} : Gate.Passed g →
      a.value.hasForks = false → Asks root (g ++ [.repository root (.ok a)])
  | forked {a : Answer Repository} {g rest : List Exchange} : Gate.Passed g →
      a.value.hasForks = true → AsksPages root 1 false rest →
      Asks root (g ++ .repository root (.ok a) :: rest)

/-- Behind what was read come the pages that were not. -/
theorem Read.asks {root : Slug} {rs : List Repository} {n : Nat} {spent : Bool}
    {log rest : List Exchange} (h : Read root rs n spent log)
    (hrest : AsksPages root (n + 1) spent rest) : Asks root (log ++ rest) := by
  induction h generalizing rest with
  | opened hg hforks =>
      rw [List.append_assoc]
      exact .forked hg hforks hrest
  | page _ hg ha ih =>
      rw [List.append_assoc, List.append_assoc]
      exact ih (.next hg ha hrest)

end Listing

/-- A chapter is what a listing asks. -/
theorem Chapter.Standing.asks {ch : Chapter} (h : ch.Standing) : Listing.Asks ch.root ch.log := by
  cases h with
  | opened h =>
      cases h with
      | start => exact .unasked
      | paging hread =>
          rw [← List.append_nil (Chapter.log _)]
          exact hread.asks .halted
  | complete h =>
      cases h with
      | alone hg hforks => exact .alone hg hforks
      | pages hread hg => exact hread.asks (.last hg)
  | broken h =>
      cases h with
      | ungated => exact .ungated
      | unanswered hg => exact .failed hg
      | pageUngated hread => exact hread.asks .ungated
      | pageFailed hread hg => exact hread.asks (.failed hg)

namespace Listing

/-- What the questions of a listing of `root` have to be like, turn by turn. -/
structure Gated (root : Slug) (turns : List Turn) : Prop where
  /-- All questions in order, with the gates among them. -/
  asks : Asks root (asked turns)
  /-- As long as no reply ends the listing, every turn hands out a record that came. -/
  goes : verdictOf (asked turns) = none → results turns <+: (brought (asked turns)).map Pull.item
  /-- A failure is what the turn brings that met with it, and nothing is asked for after it. -/
  fails : ∀ before turn after x e, turns = before ++ turn :: after → x ∈ turn.asked →
    x.error? = some e → turn.result = .failed e ∧ asked turns = asked before ++ turn.asked ∧
      turn.asked.getLast? = some x

/-- A failure ends a listing. -/
theorem verdict_of_error {x : Exchange} {e : ApiError} (h : x.error? = some e) :
    x.verdict? = some (.failed e) := by
  cases x with
  | quota reply time => cases reply <;> simp_all [error?, verdict?]
  | repository k reply => cases reply <;> simp_all [error?, verdict?]
  | forkPage k page reply => cases reply <;> simp_all [error?, verdict?]
  | pause seconds => cases h

/-- A failure that a pull met with is what it brings. -/
theorem Pulled.result_of_error {l l' : Listing} {p : Pull} {g : List Exchange}
    (h : l.Pulled p l' g) {x : Exchange} {e : ApiError} (hx : x ∈ g) (he : x.error? = some e) :
    p = .failed e := by
  have hmem : e ∈ Exchange.errors g := List.mem_filterMap.mpr ⟨x, hx, he⟩
  rw [h.errors] at hmem
  cases p with
  | item r => cases hmem
  | finished => cases hmem
  | failed e' =>
      obtain rfl := List.mem_singleton.mp hmem
      rfl

/-- What is not before the last is the last. -/
theorem last_of_not_mem_dropLast {x : Exchange} {before log after : List Exchange} (hx : x ∈ log)
    (h : x ∉ (before ++ (log ++ after)).dropLast) : after = [] ∧ log.getLast? = some x := by
  rcases List.eq_nil_or_concat' after with rfl | ⟨after, y, rfl⟩
  · refine ⟨rfl, ?_⟩
    rcases List.eq_nil_or_concat' log with rfl | ⟨log, z, rfl⟩
    · cases hx
    · rw [List.append_nil, ← List.append_assoc, List.dropLast_concat] at h
      rcases List.mem_append.mp hx with hx | hx
      · exact absurd (List.mem_append_right _ hx) h
      · rw [List.getLast?_concat, List.mem_singleton.mp hx]
  · rw [← List.append_assoc, ← List.append_assoc, List.dropLast_concat] at h
    exact absurd (List.mem_append_left _ (List.mem_append_right _ hx)) h

/-- **A listing looks at the quota where it has to, and nowhere else.**  Whatever the service
answers, and however many turns there are: the gate comes before the first question, and before a
page exactly where the page before it came with the last request of the quota.  A gate that does not
open ends the listing with its failure. -/
theorem gates_exact {σ : Type} (F : Forge σ) (root : Slug) (n : Nat) (s : σ) :
    Gated root (turns F n (.start root) s) := by
  obtain ⟨l, h⟩ := turns_of_watched F n s (@Turns.start root)
  rw [List.nil_append] at h
  obtain ⟨ch, rfl, hlog, hch, htold⟩ := h.told
  refine ⟨?asks, ?goes, ?fails⟩
  case asks =>
    rw [← hlog]
    exact hch.asks
  case goes =>
    intro hgoing
    rw [← hlog] at hgoing ⊢
    rcases htold with ⟨-, hresults⟩ | ⟨-, p, hp, -⟩
    · rw [hresults]
      exact hch.brought.map Pull.item
    · rw [hp] at hgoing
      cases hgoing
  case fails =>
    intro before turn after x e heq hx he
    obtain ⟨_, _, _, hp⟩ := h.split heq
    have hasked : ch.log = asked before ++ (turn.asked ++ asked after) := by
      rw [hlog, heq, asked_append]
      rfl
    -- Only the last question of all can have failed.
    have hlast : x ∉ ch.log.dropLast := by
      intro hmem
      have hnone := hch.verdict x hmem
      rw [verdict_of_error he] at hnone
      cases hnone
    rw [hasked] at hlast
    obtain ⟨hafter, hend⟩ := last_of_not_mem_dropLast hx hlast
    refine ⟨hp.result_of_error hx he, ?_, hend⟩
    rw [← hlog, hasked, hafter, List.append_nil]

end Listing

/-- A repository without forks. -/
def Catalog.lonely : Catalog :=
  Catalog.empty.withRepo ⟨"a", "r"⟩ 0

namespace Listing

/-- Of such a repository no page is asked for, though nothing has failed when the listing ends. -/
theorem lonely_unpaged :
    (turns (Catalog.forge fun _ => 0) 2 (.start ⟨"a", "r"⟩) ([], Catalog.lonely)).map
        (fun turn => (turn.result.move.ending?, turn.asked.map call, errors turn.asked)) =
      [(none, [.quota, .repository ⟨"a", "r"⟩], []), (some .complete, [], [])] := by
  decide +kernel

end Listing

end ForkCensus
