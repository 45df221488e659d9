import Mathlib.Data.List.Infix
import ForkCensus.Proofs.Catalog.Faults
import ForkCensus.Proofs.Forge.CutShort

/-
# Further failures only truncate

Two catalogs that hold the same, one of them with further failures
(`Catalog.MoreFaults`), take a survey along the same way until it asks for
something that fails on account of those (`Catalog.Hit`).  So what the
survey hands out and asks for with the further failures is a beginning of
what it hands out and asks for without them, and all of it if none of them
is hit (`Catalog.failures_truncate`).

What an answer owes to the failures is `Catalog.fault?`, one function for
the three kinds of questions; apart from it the two answer as the catalog
without failures does.
-/

namespace ForkCensus

/-- How a call fails on account of one entry, if it does. -/
def Fault.error? : Call → Fault → Option ApiError
  | .quota, .quota e => some e
  | .repository k, .repository j e => if j.same k then some e else none
  | .forkPage k page, .forkPage j p e => if j.same k && p == page then some e else none
  | _, _ => none

namespace Catalog

/-- How a call fails, if it is to. -/
def fault? (c : Catalog) (call : Call) : Option ApiError :=
  c.faults.findSome? (Fault.error? call)

/-- The catalogs are the same, but the second has further failures, before, between or after those of
the first. -/
structure MoreFaults (c c' : Catalog) : Prop where
  faults : c.faults.Sublist c'.faults
  rest : c'.mended = c.mended

/-- The call fails on account of what the second catalog has further.  A further failure is not hit
where one comes before it that the first catalog has as well. -/
def Hit (c c' : Catalog) (call : Call) : Prop :=
  c'.fault? call ≠ c.fault? call

/-- What there is to see of a survey. -/
structure Run where
  records : List Repository
  ending : Option Ending
  left : Survey
  /-- What the survey asked for. -/
  calls : List Call
deriving DecidableEq

/-- Draws all it can from a survey, on a catalog that got the calls `before` already. -/
def surveyed (c : Catalog) (clock : Nat → Int64) (before : List Call) (v : Survey) (budget : Nat) :
    Run :=
  let (records, ending, left, calls, _) := v.drain (forge clock) budget (before, c)
  ⟨records, ending, left, calls.drop before.length⟩

/-- The run on the catalog `c'`, which has more failures, stops where the run on `c` may go on. -/
structure Truncates (c c' : Catalog) (short long : Run) : Prop where
  records : short.records <+: long.records
  calls : short.calls <+: long.calls
  /-- Unless a further failure is hit there is no difference. -/
  same : (∀ call ∈ short.calls, ¬ Hit c c' call) → short = long
  /-- The call that hits one is the last, and with its failure the run ends. -/
  broken : ∀ call ∈ short.calls, Hit c c' call → short.calls.getLast? = some call ∧
    ∃ e, c'.fault? call = some e ∧ short.ending = some (.broken e)

/-! ## Answers and their failures -/

variable {c c' : Catalog}

theorem findSome?_faults (c : Catalog) (call : Call) {f : Fault → Option ApiError}
    (hf : ∀ fault, f fault = Fault.error? call fault) : c.faults.findSome? f = c.fault? call := by
  rw [funext hf]
  rfl

theorem answerQuota_eq (c : Catalog) :
    c.answerQuota = (c.fault? .quota).elim c.mended.answerQuota .error := by
  rw [answerQuota, c.findSome?_faults .quota]
  · cases c.fault? .quota <;> rfl
  · intro fault
    cases fault <;> rfl

theorem answerRepository_eq (c : Catalog) (k : Slug) :
    c.answerRepository k = (c.fault? (.repository k)).elim (c.mended.answerRepository k) .error := by
  rw [answerRepository, c.findSome?_faults (.repository k)]
  · cases c.fault? (.repository k) <;> rfl
  · intro fault
    cases fault <;> rfl

theorem answerPage_eq (c : Catalog) (k : Slug) (page : UInt32) :
    c.answerPage k page =
      (c.fault? (.forkPage k page)).elim (c.mended.answerPage k page) .error := by
  rw [answerPage, c.findSome?_faults (.forkPage k page)]
  · cases c.fault? (.forkPage k page) <;> rfl
  · intro fault
    cases fault <;> rfl

theorem not_hit_pause (c c' : Catalog) (seconds : UInt64) : ¬ Hit c c' (.pause seconds) := by
  have hnone (c : Catalog) : c.fault? (.pause seconds) = none :=
    List.findSome?_eq_none_iff.mpr fun _ _ => rfl
  rw [Hit, hnone c, hnone c']
  exact fun h => h rfl

/-- A call that hits a further failure fails. -/
theorem MoreFaults.fault_of_hit (h : c.MoreFaults c') {call : Call} (hhit : Hit c c' call) :
    ∃ e, c'.fault? call = some e := by
  cases hc' : c'.fault? call with
  | some e => exact ⟨e, rfl⟩
  | none => exact absurd (hc'.trans (h.faults.findSome?_eq_none hc').symm) hhit

theorem moreFaults_withFault (c : Catalog) (fault : Fault) : c.MoreFaults (c.withFault fault) :=
  ⟨List.sublist_append_left _ _, rfl⟩

/-! ## The two side by side -/

variable {before : List Call} {s t : List Call × Catalog}

/-- So far both catalogs got the same calls, none of which hit a further failure. -/
def Abreast (c c' : Catalog) (before : List Call) (s t : List Call × Catalog) : Prop :=
  ∃ asked, s = (before ++ asked, c') ∧ t = (before ++ asked, c) ∧ ∀ call ∈ asked, ¬ Hit c c' call

/-- The last call to the second catalog hit a further failure; the first got all those calls and
maybe others since. -/
def Stopped (c c' : Catalog) (before : List Call) (e : ApiError) (s t : List Call × Catalog) : Prop :=
  ∃ asked call, s.1 = before ++ (asked ++ [call]) ∧ s.1 <+: t.1 ∧
    (∀ call ∈ asked, ¬ Hit c c' call) ∧ Hit c c' call ∧ c'.fault? call = some e

theorem Abreast.call (h : Abreast c c' before s t) {call : Call} (hcall : ¬ Hit c c' call) :
    Abreast c c' before (s.1 ++ [call], s.2) (t.1 ++ [call], t.2) := by
  obtain ⟨asked, rfl, rfl, hasked⟩ := h
  refine ⟨asked ++ [call], by rw [List.append_assoc], by rw [List.append_assoc], ?_⟩
  exact List.forall_mem_append.mpr ⟨hasked, List.forall_mem_singleton.mpr hcall⟩

/-- One call to either, where the answers differ at most by the failures. -/
theorem MoreFaults.cut (h : c.MoreFaults c') (hst : Abreast c c' before s t) {α : Type}
    (call : Call) (answer : Except ApiError α) :
    Cut .error (Abreast c c' before) (Stopped c c' before)
      ((c'.fault? call).elim answer .error, s.1 ++ [call], s.2)
      ((c.fault? call).elim answer .error, t.1 ++ [call], t.2) := by
  by_cases hcall : Hit c c' call
  · obtain ⟨e, he⟩ := h.fault_of_hit hcall
    obtain ⟨asked, rfl, rfl, hasked⟩ := hst
    refine Or.inr ⟨e, by rw [he]; rfl, asked, call, ?_, List.prefix_rfl, hasked, hcall, he⟩
    rw [List.append_assoc]
  · refine Or.inl ⟨?_, hst.call hcall⟩
    rw [not_not.mp hcall]

theorem Stopped.call {e : ApiError} (h : Stopped c c' before e s t) (call : Call) (c'' : Catalog) :
    Stopped c c' before e s (t.1 ++ [call], c'') := by
  obtain ⟨asked, last, hs, hst, hrest⟩ := h
  exact ⟨asked, last, hs, hst.trans (List.prefix_append _ _), hrest⟩

/-- **A catalog with further failures answers as it does without**, until one of them is hit. -/
theorem MoreFaults.cutShort (h : c.MoreFaults c') (clock : Nat → Int64) (before : List Call) :
    Forge.CutShort (Abreast c c' before) (Stopped c c' before) (forge clock) (forge clock) where
  quota {s t} hst := by
    have hcut := h.cut hst .quota c.mended.answerQuota
    obtain ⟨asked, rfl, rfl, -⟩ := hst
    rwa [← answerQuota_eq, ← h.rest, ← answerQuota_eq] at hcut
  pause seconds hst := hst.call (not_hit_pause c c' seconds)
  now hst := by
    obtain ⟨asked, rfl, rfl, -⟩ := hst
    rfl
  note _ hst := hst
  repository {s t} k hst := by
    have hcut := h.cut hst (.repository k) (c.mended.answerRepository k)
    obtain ⟨asked, rfl, rfl, -⟩ := hst
    rwa [← answerRepository_eq, ← h.rest, ← answerRepository_eq] at hcut
  forkPage {s t} k page hst := by
    have hcut := h.cut hst (.forkPage k page) (c.mended.answerPage k page)
    obtain ⟨asked, rfl, rfl, -⟩ := hst
    rwa [← answerPage_eq, ← h.rest, ← answerPage_eq] at hcut
  after e s :=
    { quota := fun hs => hs.call _ _
      pause := fun _ hs => hs.call _ _
      note := fun _ hs => hs
      repository := fun _ hs => hs.call _ _
      forkPage := fun _ _ hs => hs.call _ _ }

/-- **Further failures only truncate.**  On a catalog with further failures, whatever they are and
wherever they stand, every survey hands out a beginning of what it hands out without them, and asks
for a beginning of what it asks for; the call that hits one of them is the last.  If none is hit, the
two do the same. -/
theorem failures_truncate (h : c.MoreFaults c') (clock : Nat → Int64) (before : List Call)
    (v : Survey) (budget : Nat) :
    Truncates c c' (c'.surveyed clock before v budget) (c.surveyed clock before v budget) := by
  have hdrain := (h.cutShort clock before).drain budget v (s := (before, c')) (t := (before, c))
    ⟨[], by rw [List.append_nil], by rw [List.append_nil], nofun⟩
  unfold surveyed
  rcases hshort : v.drain (forge clock) budget (before, c') with ⟨records, ending, left, s⟩
  rcases hlong : v.drain (forge clock) budget (before, c) with ⟨records', ending', left', t⟩
  rw [hshort, hlong] at hdrain
  dsimp only
  cases hdrain with
  | same hst =>
      obtain ⟨asked, rfl, rfl, hasked⟩ := hst
      refine ⟨List.prefix_rfl, List.prefix_rfl, fun _ => rfl, ?_⟩
      intro call hcall hhit
      rw [List.drop_left] at hcall
      exact absurd hhit (hasked call hcall)
  | cut hrecords hstopped =>
      obtain ⟨asked, last, hs, hst, hasked, hhit, he⟩ := hstopped
      have hcalls : s.1.drop before.length = asked ++ [last] := by
        rw [hs, List.drop_left]
      refine ⟨hrecords, hst.drop _, ?unhit, ?hit⟩
      case unhit =>
        intro hnone
        have hlast : last ∈ s.1.drop before.length := by
          rw [hcalls]
          exact List.mem_concat_self
        exact absurd hhit (hnone last hlast)
      case hit =>
        intro call hcall hhit'
        dsimp only at hcall ⊢
        rw [hcalls] at hcall ⊢
        rcases List.mem_append.mp hcall with hcall | hcall
        · exact absurd hhit' (hasked call hcall)
        · obtain rfl := List.mem_singleton.mp hcall
          exact ⟨List.getLast?_concat, _, he, rfl⟩

/-- Two forks, each on a page of its own. -/
def pageByPage : Catalog :=
  ((empty.withFork ⟨"a", "r"⟩ ⟨"b", "r"⟩).withFork ⟨"a", "r"⟩ ⟨"c", "r"⟩).withPageSize 1

/-- Where the second page of its forks fails, the record of the repository and its first fork have been
handed out. -/
theorem failures_truncate_pageByPage :
    let failing := pageByPage.withFault (.forkPage ⟨"a", "r"⟩ 2 (.network "" ""))
    let short := failing.surveyed (fun _ => 0) [] (.start ⟨"a", "r"⟩ false) 5
    let long := pageByPage.surveyed (fun _ => 0) [] (.start ⟨"a", "r"⟩ false) 5
    pageByPage.MoreFaults failing ∧ Truncates pageByPage failing short long ∧
      short.records.map Repository.owner = ["a", "b"] ∧
      long.records.map Repository.owner = ["a", "b", "c"] := by
  refine ⟨moreFaults_withFault _ _, failures_truncate (moreFaults_withFault _ _) _ _ _ _, ?_⟩
  decide +kernel

end Catalog

end ForkCensus
