import ForkCensus.Proofs.Discovery.Once

/-
# The pages that a survey asks for

A survey of either kind asks for the pages of a repository from 1 on, one
after the other, and never begins anew (`Survey.Course.pagesAsked`).  A
recursive survey has this from its account; a direct one is a single
chapter.
-/

namespace ForkCensus

open Exchange

theorem Call.filterMap_pages (k : Slug) (n : Nat) :
    (Call.pages k n).filterMap Call.page? = (List.range' 1 n).map UInt32.ofNat := by
  rw [Call.pages, List.filterMap_map, ← List.filterMap_eq_map]
  rfl

/-- Where the calls about a repository are its record and then its pages, the pages asked for are
these. -/
theorem Exchange.pagesAsked_of_callsAbout {j k : Slug} {n : Nat} {log : List Exchange}
    (h : callsAbout k log = .repository j :: Call.pages j n) :
    pagesAsked k log = (List.range' 1 n).map UInt32.ofNat := by
  rw [pagesAsked_eq, h, List.filterMap_cons_none rfl, Call.filterMap_pages]

/-! ## Direct surveys -/

/-- After a failure a listing is over. -/
theorem Listing.Pulled.over_of_failed {l l' : Listing} {e : ApiError} {g : List Exchange}
    (h : l.Pulled (.failed e) l' g) : l'.Over := by
  cases h <;> exact ⟨rfl, rfl⟩

/-- The account of a listing of `root`: its chapter, which is open, with a record for every pull so
far, or to which nothing is added. -/
def Listing.Account (root : Slug) (moves : List Move) (l : Listing) (log : List Exchange) : Prop :=
  ∃ ch : Chapter, ch.root = root ∧ ch.log = log ∧ ch.records = moves.filterMap Move.record? ∧
    ((ch.Open l ∧ ∀ m ∈ moves, m.record?.isSome = true) ∨
      (l.Over ∧ ((ch.Complete ∧ ∀ e, .failed e ∉ moves) ∨ ch.Broken)))

theorem Listing.account_start (root : Slug) : Account root [] (.start root) [] :=
  ⟨⟨root, [], []⟩, rfl, rfl, rfl, Or.inl ⟨.start, nofun⟩⟩

theorem Listing.account_step {root : Slug} {moves : List Move} {l l' : Listing} {p : Pull}
    {log g : List Exchange} (h : Account root moves l log) (hp : l.Pulled p l' g) :
    Account root (moves ++ [p.move]) l' (log ++ g) := by
  obtain ⟨ch, hroot, rfl, hrecords, ⟨hopen, hmoves⟩ | ⟨hover, hch⟩⟩ := h
  · have hstands := hopen.pulled hp
    have hfine : ∀ e, .failed e ∉ moves := fun e he => by
      cases hmoves _ he
    refine ⟨ch.extend p g, hroot, rfl, ?_, ?_⟩
    · rw [Chapter.extend, hrecords, List.filterMap_append]
      cases p <;> rfl
    · cases p with
      | item r =>
          rcases hstands with hopen' | ⟨hover, hcomplete⟩
          · refine Or.inl ⟨hopen', fun m hm => ?_⟩
            rcases List.mem_append.mp hm with hm | hm
            · exact hmoves m hm
            · rw [List.mem_singleton.mp hm]
              rfl
          · exact Or.inr ⟨hover, Or.inl ⟨hcomplete, by simpa [Pull.move] using hfine⟩⟩
      | finished => exact Or.inr ⟨hstands.1, Or.inl ⟨hstands.2, by simpa [Pull.move] using hfine⟩⟩
      | failed e => exact Or.inr ⟨hp.over_of_failed, Or.inr hstands⟩
  · obtain ⟨rfl, rfl, rfl⟩ := hover.pulled hp
    refine ⟨ch, hroot, (List.append_nil _).symm, ?_, Or.inr ⟨hover, ?_⟩⟩
    · rw [hrecords, List.filterMap_append]
      exact (List.append_nil _).symm
    · rcases hch with ⟨hcomplete, hfine⟩ | hbroken
      · exact Or.inl ⟨hcomplete, by simpa [Pull.move] using hfine⟩
      · exact Or.inr hbroken

/-- A direct survey is one chapter: its records are those of the steps and, once a step brought none,
it is told to its end or was broken off. -/
theorem Survey.Course.chapter {root : Slug} {moves : List Move} {v : Survey}
    {log : List Exchange} (h : Course (.start root false) moves v log) :
    ∃ ch : Chapter, ch.root = root ∧ ch.log = log ∧ ch.records = moves.filterMap Move.record? ∧
      ch.Standing ∧ ((∀ m ∈ moves, m.record?.isSome = true) ∨
        (ch.Complete ∧ ∀ e, .failed e ∉ moves) ∨ ch.Broken) := by
  obtain ⟨l, -, ch, hroot, hlog, hrecords, hch⟩ := h.listing
    (P := fun moves l log => l.Account root moves log) (Listing.account_start root)
    Listing.account_step
  rcases hch with ⟨hopen, hmoves⟩ | ⟨-, hcomplete | hbroken⟩
  · exact ⟨ch, hroot, hlog, hrecords, .opened hopen, Or.inl hmoves⟩
  · exact ⟨ch, hroot, hlog, hrecords, .complete hcomplete.1, Or.inr (Or.inl hcomplete)⟩
  · exact ⟨ch, hroot, hlog, hrecords, .broken hbroken, Or.inr (Or.inr hbroken)⟩

/-- A direct survey passes over nothing. -/
theorem Survey.Course.not_passed {l : Listing} {moves : List Move} {v : Survey}
    {log : List Exchange} (h : Course (.direct l) moves v log) : .passed ∉ moves := by
  obtain ⟨-, -, hmoves⟩ := h.listing (P := fun moves _ _ => .passed ∉ moves) nofun
    fun {moves l log p l' g} hmoves _ => by
      rw [List.mem_append, List.mem_singleton]
      rintro (hm | hm)
      · exact hmoves hm
      · cases p <;> cases hm
  exact hmoves

/-- The pages asked for in one chapter. -/
theorem Chapter.Standing.pagesAsked {ch : Chapter} (h : ch.Standing) (k : Slug) :
    ∃ n, pagesAsked k ch.log = (List.range' 1 n).map UInt32.ofNat := by
  cases hk : ch.root.same k with
  | false => exact ⟨0, by rw [pagesAsked_eq, h.callsAbout_other hk]; rfl⟩
  | true =>
      rcases h.callsAbout hk with hnone | ⟨n, -, hcalls⟩
      · exact ⟨0, by rw [pagesAsked_eq, hnone]; rfl⟩
      · exact ⟨n, pagesAsked_of_callsAbout hcalls⟩

/-! ## Both kinds -/

/-- **A survey asks for the pages of a repository in order**, from 1 on, and for none again. -/
theorem Survey.Course.pagesAsked {root : Slug} {recursive : Bool} {moves : List Move}
    {v : Survey} {log : List Exchange} (h : Course (.start root recursive) moves v log)
    (k : Slug) : ∃ n, pagesAsked k log = (List.range' 1 n).map UInt32.ofNat := by
  cases recursive with
  | false =>
      obtain ⟨ch, -, rfl, -, hch, -⟩ := h.chapter
      exact hch.pagesAsked k
  | true =>
      obtain ⟨c, -, haccount⟩ := h.account
      rcases haccount.callsAbout k with hnone | ⟨j, n, -, -, hcalls⟩
      · exact ⟨0, by rw [pagesAsked_eq, hnone]; rfl⟩
      · exact ⟨n, pagesAsked_of_callsAbout hcalls⟩

/-- Pages from 1 on are different as long as their numbers do not begin anew. -/
theorem Exchange.nodup_pages_iff {n : Nat} :
    ((List.range' 1 n).map UInt32.ofNat).Nodup ↔ n ≤ 2 ^ 32 := by
  constructor
  · intro h
    by_contra hn
    have hfirst : 1 ∈ List.range' 1 n := List.mem_range'_1.mpr (by omega)
    have hlast : 2 ^ 32 + 1 ∈ List.range' 1 n := List.mem_range'_1.mpr (by omega)
    have heq := List.inj_on_of_nodup_map h hfirst hlast (by decide)
    omega
  · intro hn
    refine List.Nodup.map_on (fun x hx y hy hxy => ?_) List.nodup_range'
    rw [List.mem_range'_1] at hx hy
    have hmod : x % 2 ^ 32 = y % 2 ^ 32 := by
      simpa using congrArg UInt32.toNat hxy
    omega

/-! ## All pages of a transcript -/

namespace Exchange

/-- The repository and the number of a page that was asked for. -/
def pageKey? : Exchange → Option (Slug × UInt32)
  | forkPage k page _ => some (k.fold, page)
  | _ => none

/-- All pages that were asked for, each with its repository, spelled in small letters. -/
def pageKeys (log : List Exchange) : List (Slug × UInt32) :=
  log.filterMap pageKey?

theorem pagesAsked_cons (k : Slug) (x : Exchange) (log : List Exchange) :
    pagesAsked k (x :: log) = pagesAsked k [x] ++ pagesAsked k log := by
  simp only [pagesAsked, Catalog.pageRequests, List.map_cons, List.map_nil, ← List.filterMap_append,
    List.singleton_append]

theorem pagesAsked_forkPage (k j : Slug) (page : UInt32)
    (reply : Except ApiError (Answer (List Repository))) :
    pagesAsked k [.forkPage j page reply] = if j.same k then [page] else [] := by
  cases h : j.same k <;> simp [pagesAsked, Catalog.pageRequests, call, h]

theorem mem_pageKeys {k : Slug} {page : UInt32} {log : List Exchange} :
    (k.fold, page) ∈ pageKeys log ↔ page ∈ pagesAsked k log := by
  induction log with
  | nil => simp [pageKeys, pagesAsked, Catalog.pageRequests]
  | cons x log ih =>
      rw [pagesAsked_cons, List.mem_append, ← ih, pageKeys, List.filterMap_cons, ← pageKeys]
      cases x with
      | forkPage j page' reply =>
          rw [pagesAsked_forkPage]
          cases hj : j.same k with
          | true => simp [pageKey?, Slug.same_iff.mp hj]
          | false =>
              have hne : k.fold ≠ j.fold := fun heq => by
                rw [Slug.same_iff.mpr heq.symm] at hj
                cases hj
              simp [pageKey?, hne]
      | quota => simp [pageKey?, pagesAsked, Catalog.pageRequests, call]
      | repository => simp [pageKey?, pagesAsked, Catalog.pageRequests, call]
      | pause => simp [pageKey?, pagesAsked, Catalog.pageRequests, call]

/-- No page is asked for twice exactly if none of any one repository is. -/
theorem pageKeys_nodup_iff {log : List Exchange} :
    (pageKeys log).Nodup ↔ ∀ k, (pagesAsked k log).Nodup := by
  induction log with
  | nil => simp [pageKeys, pagesAsked, Catalog.pageRequests]
  | cons x log ih =>
      simp only [pagesAsked_cons _ x log]
      rw [pageKeys, List.filterMap_cons, ← pageKeys]
      cases x with
      | forkPage j page reply =>
          simp only [pagesAsked_forkPage, pageKey?, List.nodup_cons, ih, mem_pageKeys]
          constructor
          · rintro ⟨hnew, hnodup⟩ k
            cases hj : j.same k with
            | false => exact hnodup k
            | true =>
                refine List.nodup_cons.mpr ⟨fun hpage => hnew ?_, hnodup k⟩
                rw [← mem_pageKeys, Slug.same_iff.mp hj, mem_pageKeys]
                exact hpage
          · intro h
            have hj := h j
            rw [if_pos (Slug.same_refl j)] at hj
            refine ⟨(List.nodup_cons.mp hj).1, fun k => ?_⟩
            exact (List.nodup_append.mp (h k)).2.1
      | quota => simpa [pageKey?, pagesAsked, Catalog.pageRequests, call] using ih
      | repository => simpa [pageKey?, pagesAsked, Catalog.pageRequests, call] using ih
      | pause => simpa [pageKey?, pagesAsked, Catalog.pageRequests, call] using ih

end Exchange

end ForkCensus
