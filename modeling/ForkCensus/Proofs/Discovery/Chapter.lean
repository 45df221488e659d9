import ForkCensus.Proofs.Discovery.Course
import ForkCensus.Proofs.Firsts

/-
# Transcripts in chapters

The transcript of a discovery falls into chapters, one for each
repository whose listing was begun, in the order in which they were
begun.  A chapter reads the same whatever the service answers: the gate,
the question for the repository, then its pages of forks from 1 on, each
behind the gate if the page before it said so, up to the first empty page
or the first failure.

`Listing.Read` is the part of a chapter that every further page extends;
`Chapter.Open`, `Chapter.Complete` and `Chapter.Broken` say how far it
has come.  One lemma for a listing (`Chapter.Open.pulled`) and one for a
crawl (`Crawl.account_step`) carry the account along a course; what later
files need of a transcript they read off its chapters.
-/

namespace ForkCensus

/-! ## The chapter of one listing -/

/-- The records, the number of pages, whether the last of them spent the quota, and the transcript
of a listing that has found forks to be there. -/
inductive Listing.Read (root : Slug) :
    List Repository → Nat → Bool → List Exchange → Prop
  | opened {a : Answer Repository} {g : List Exchange} : Gate.Passed g →
      a.value.hasForks = true →
      Read root [a.value] 0 false (g ++ [.repository root (.ok a)])
  | page {records : List Repository} {n : Nat} {spent : Bool} {log g : List Exchange}
      {a : Answer (List Repository)} : Read root records n spent log →
      Listing.PageGate spent g → a.value ≠ [] →
      Read root (records ++ a.value) (n + 1) a.quotaSpent
        (log ++ (g ++ [.forkPage root (.ofNat (n + 1)) (.ok a)]))

/-- The part of a discovery that one listing is: the repository, the records it brought so far and
its part of the transcript. -/
structure Chapter where
  root : Slug
  records : List Repository
  log : List Exchange

/-- A listing from which nothing more will come. -/
def Listing.Over (l : Listing) : Prop :=
  l.phase = .over ∧ l.buffer = []

namespace Chapter

/-- The listing `l` has told the chapter so far, and goes on. -/
inductive Open : Listing → Chapter → Prop
  | start {root : Slug} : Open (.start root) ⟨root, [], []⟩
  | paging {root : Slug} {records buffer : List Repository} {n : Nat} {spent : Bool}
      {log : List Exchange} : Listing.Read root (records ++ buffer) n spent log →
      Open ⟨root, .paging, .ofNat (n + 1), buffer, spent⟩ ⟨root, records, log⟩

/-- The listing was told to its end: there are no forks, or a page was empty. -/
inductive Complete : Chapter → Prop
  | alone {root : Slug} {a : Answer Repository} {g : List Exchange} : Gate.Passed g →
      a.value.hasForks = false →
      Complete ⟨root, [a.value], g ++ [.repository root (.ok a)]⟩
  | pages {root : Slug} {records : List Repository} {n : Nat} {spent spent' : Bool}
      {log g : List Exchange} : Listing.Read root records n spent log →
      Listing.PageGate spent g →
      Complete ⟨root, records, log ++ (g ++ [.forkPage root (.ofNat (n + 1)) (.ok ⟨[], spent'⟩)])⟩

/-- A failure ended the listing. -/
inductive Broken : Chapter → Prop
  | ungated {root : Slug} {e : ApiError} {time : Int64} :
      Broken ⟨root, [], [.quota (.error e) time]⟩
  | unanswered {root : Slug} {e : ApiError} {g : List Exchange} : Gate.Passed g →
      Broken ⟨root, [], g ++ [.repository root (.error e)]⟩
  | pageUngated {root : Slug} {records : List Repository} {n : Nat} {e : ApiError} {time : Int64}
      {log : List Exchange} : Listing.Read root records n true log →
      Broken ⟨root, records, log ++ [.quota (.error e) time]⟩
  | pageFailed {root : Slug} {records : List Repository} {n : Nat} {spent : Bool} {e : ApiError}
      {log g : List Exchange} : Listing.Read root records n spent log →
      Listing.PageGate spent g →
      Broken ⟨root, records, log ++ (g ++ [.forkPage root (.ofNat (n + 1)) (.error e)])⟩

/-- The chapter with what a pull added to it. -/
def extend (ch : Chapter) (p : Pull) (g : List Exchange) : Chapter :=
  ⟨ch.root, ch.records ++ p.record?.toList, ch.log ++ g⟩

@[simp] theorem extend_item (ch : Chapter) (r : Repository) (g : List Exchange) :
    ch.extend (.item r) g = ⟨ch.root, ch.records ++ [r], ch.log ++ g⟩ := rfl

@[simp] theorem extend_finished (ch : Chapter) (g : List Exchange) :
    ch.extend .finished g = ⟨ch.root, ch.records, ch.log ++ g⟩ := by
  simp [extend, Pull.record?]

@[simp] theorem extend_failed (ch : Chapter) (e : ApiError) (g : List Exchange) :
    ch.extend (.failed e) g = ⟨ch.root, ch.records, ch.log ++ g⟩ := by
  simp [extend, Pull.record?]

/-- How a chapter stands after a pull that brought `p` and left `l`. -/
def Stands (l : Listing) (p : Pull) (ch : Chapter) : Prop :=
  match p with
  | .item _ => Open l ch ∨ (l.Over ∧ Complete ch)
  | .finished => l.Over ∧ Complete ch
  | .failed _ => Broken ch

/-- The first pull of a listing. -/
theorem Open.pulled_start {root : Slug} {p : Pull} {l' : Listing} {g : List Exchange}
    (h : (Listing.start root).Pulled p l' g) :
    Stands l' p (extend ⟨root, [], []⟩ p g) := by
  cases h with
  | buffered hb => cases hb
  | idle _ hp => cases hp
  | rootUngated => exact .ungated
  | rootFailed _ _ hg => exact .unanswered hg
  | @root a g _ _ hg =>
      rw [extend_item]
      cases hf : a.value.hasForks with
      | false => exact Or.inr ⟨⟨rfl, rfl⟩, .alone hg hf⟩
      | true =>
          have hread : Listing.Read root ([] ++ [a.value] ++ []) 0 false
              ([] ++ (g ++ [.repository root (.ok a)])) := .opened hg hf
          exact Or.inl (.paging hread)
  | pageUngated _ hp => cases hp
  | pageFailed _ hp => cases hp
  | lastPage _ hp => cases hp
  | page _ hp => cases hp

/-- A pull of a listing that asks for pages. -/
theorem Open.pulled_paging {root : Slug} {records buffer : List Repository} {n : Nat}
    {spent : Bool} {log : List Exchange} (hread : Listing.Read root (records ++ buffer) n spent log)
    {p : Pull} {l' : Listing} {g : List Exchange}
    (h : Listing.Pulled ⟨root, .paging, .ofNat (n + 1), buffer, spent⟩ p l' g) :
    Stands l' p (extend ⟨root, records, log⟩ p g) := by
  cases h with
  | buffered hb =>
      obtain rfl := hb
      rw [extend_item, List.append_nil]
      refine Or.inl (.paging ?_)
      simpa using hread
  | idle _ hp => cases hp
  | rootUngated _ hp => cases hp
  | rootFailed _ hp => cases hp
  | root _ hp => cases hp
  | pageUngated hb _ hs =>
      obtain rfl := hb
      obtain rfl := hs
      rw [List.append_nil] at hread
      rw [extend_failed]
      exact Broken.pageUngated hread
  | pageFailed hb _ hg =>
      obtain rfl := hb
      rw [List.append_nil] at hread
      rw [extend_failed]
      exact Broken.pageFailed hread hg
  | lastPage hb _ hg =>
      obtain rfl := hb
      rw [List.append_nil] at hread
      rw [extend_finished]
      exact ⟨⟨rfl, rfl⟩, Complete.pages hread hg⟩
  | @page r rest spent' g hb _ hg =>
      obtain rfl := hb
      rw [List.append_nil] at hread
      rw [extend_item]
      have hnext : UInt32.ofNat (n + 1) + 1 = UInt32.ofNat (n + 1 + 1) := by simp
      have hread' := hread.page hg (a := ⟨r :: rest, spent'⟩) (by simp)
      refine Or.inl ?_
      simp only [hnext]
      refine .paging ?_
      rwa [List.append_assoc]

/-- **A pull writes on the chapter that is open.** -/
theorem Open.pulled {l l' : Listing} {ch : Chapter} (h : Open l ch) {p : Pull}
    {g : List Exchange} (hp : l.Pulled p l' g) : Stands l' p (ch.extend p g) := by
  cases h with
  | start => exact pulled_start hp
  | paging hread => exact pulled_paging hread hp

end Chapter

/-- Nothing comes of a listing that is over. -/
theorem Listing.Over.pulled {l l' : Listing} (h : l.Over) {p : Pull} {g : List Exchange}
    (hp : l.Pulled p l' g) : p = .finished ∧ l' = l ∧ g = [] := by
  obtain ⟨root, phase, page, buffer, spent⟩ := l
  obtain ⟨hphase, hbuffer⟩ := h
  obtain rfl : phase = .over := hphase
  obtain rfl : buffer = [] := hbuffer
  cases hp with
  | buffered hb => cases hb
  | idle => exact ⟨rfl, rfl, rfl⟩
  | rootUngated _ hp => cases hp
  | rootFailed _ hp => cases hp
  | root _ hp => cases hp
  | pageUngated _ hp => cases hp
  | pageFailed _ hp => cases hp
  | lastPage _ hp => cases hp
  | page _ hp => cases hp

end ForkCensus
