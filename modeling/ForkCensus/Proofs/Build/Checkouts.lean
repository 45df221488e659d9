import ForkCensus.Proofs.Build.Report
import ForkCensus.Proofs.Build.Requests
import ForkCensus.Proofs.Client.Mirror
import ForkCensus.Proofs.Discovery.Bounds
import ForkCensus.Proofs.Slug.Hashing

/-
# Where repositories are checked out

Each repository of an index has a folder of its own: no two entries have
the same path or the same name, not even on a disk that does not tell
small letters from large ones (`Build.run_checkouts`).

The names of owners and repositories come from the service, and it is the
service that keeps slashes out of them; with a slash in an owner,
`a/b` and `c` would share a path with `a` and `b/c`.  So what is asked of
the records is asked of those that came in replies, and a build lists no
others (`Build.discoveries_sublist`).  Without slashes, owner and name can
be read off a path again, whatever the folder (`Slug.same_display`), and
what is listed has different slugs.
-/

namespace ForkCensus

/-! ## Paths below a folder -/

namespace Files.Path

/-- What stands in front of a name below a folder: the folder, and a slash unless there is no folder
or it ends in one. -/
def lead (folder : String) : String :=
  if folder.isEmpty || endsInSlash folder then folder else folder ++ "/"

theorem join_name {name : String} (h : '/' ∉ name.toList) (folder : String) :
    join folder name = lead folder ++ name := by
  have hrelative : isAbsolute name = false := by
    rw [isAbsolute, beq_eq_false_iff_ne]
    exact fun hhead => h (List.mem_of_head? hhead)
  rw [join, if_neg (Bool.eq_false_iff.mp hrelative), lead]
  split <;> rfl

theorem lead_append {name : String} (hne : name ≠ "") (h : '/' ∉ name.toList) (front : String) :
    lead (front ++ name) = front ++ name ++ "/" := by
  have hlist : name.toList ≠ [] := fun hnil => hne (String.toList_eq_nil_iff.mp hnil)
  have hends : endsInSlash (front ++ name) = false := by
    rw [endsInSlash, beq_eq_false_iff_ne, String.toList_append,
      List.getLast?_append_of_ne_nil _ hlist]
    exact fun hlast => h (List.mem_of_getLast? hlast)
  have hempty : (front ++ name).isEmpty = false := by
    rw [Bool.eq_false_iff, ne_eq, String.isEmpty_iff, ← String.toList_eq_nil_iff,
      String.toList_append, List.append_eq_nil_iff]
    exact fun hnil => hlist hnil.2
  rw [lead, hends, hempty]
  rfl

end Files.Path

/-- The owner and the name of a record are there, and without slashes, as those of all records of
the service. -/
structure Repository.IsPlain (r : Repository) : Prop where
  owner_ne : r.owner ≠ ""
  name_ne : r.name ≠ ""
  noSlash : r.slug.HasNoSlash

instance (r : Repository) : Decidable r.IsPlain :=
  decidable_of_iff (r.owner ≠ "" ∧ r.name ≠ "" ∧ r.slug.HasNoSlash)
    ⟨fun h => ⟨h.1, h.2.1, h.2.2⟩, fun h => ⟨h.owner_ne, h.name_ne, h.noSlash⟩⟩

theorem SearchIndex.Entry.path_ofRepository {r : Repository} (h : r.IsPlain) (folder : String) :
    (ofRepository folder r).path = Files.Path.lead folder ++ r.slug.display := by
  have howner : '/' ∉ r.owner.toList := h.noSlash.1
  have hname : '/' ∉ r.name.toList := h.noSlash.2
  rw [ofRepository, Files.Path.join_name howner, Files.Path.join_name hname,
    Files.Path.lead_append h.owner_ne howner, Slug.display]
  simp only [String.append_assoc]
  rfl

/-- With slashes in an owner and in a name, two repositories can share a path. -/
example : (SearchIndex.Entry.ofRepository "out" (.sample ⟨"a/b", "c"⟩ 0)).path =
    (SearchIndex.Entry.ofRepository "out" (.sample ⟨"a", "b/c"⟩ 0)).path := by
  decide

/-- Entries of different repositories have different paths and names. -/
theorem SearchIndex.Entry.pairwise_ofRepository {records : List Repository}
    (hplain : ∀ r ∈ records, r.IsPlain)
    (hslugs : records.Pairwise fun a b => a.slug.same b.slug = false) (folder : String) :
    (records.map (ofRepository folder)).Pairwise fun a b =>
      Text.Ascii.same a.path b.path = false ∧ Text.Ascii.same a.name b.name = false := by
  rw [List.pairwise_map]
  refine hslugs.imp_of_mem fun {a b} ha hb hab => ?_
  have hname : Text.Ascii.same a.slug.display b.slug.display = false := by
    rw [Slug.same_display (hplain a ha).noSlash.1 (hplain b hb).noSlash.1, hab]
  refine ⟨?_, hname⟩
  rw [path_ofRepository (hplain a ha), path_ofRepository (hplain b hb),
    Text.Ascii.same_append_left, hname]

/-! ## What a build is told -/

open Exchange

/-- The records that a survey hands out came in replies, in that order. -/
theorem Survey.Course.records_sublist {root : Slug} {recursive : Bool} {moves : List Move}
    {v : Survey} {log : List Exchange} (h : Course (.start root recursive) moves v log) :
    (moves.filterMap Move.record?).Sublist (brought log) := by
  cases recursive with
  | false =>
      obtain ⟨ch, -, rfl, hrecords, hch, -⟩ := h.chapter
      rw [← hrecords]
      exact hch.brought.sublist
  | true =>
      obtain ⟨c, -, chapters, told, covered⟩ := h.account
      rw [covered.found_eq, told.log_eq]
      exact (Repository.firsts_sublist _).trans (Chapter.pulled_sublist told.history.standing)

/-- A survey comes to what it comes to when its transcript is kept. -/
theorem Survey.drain_of_watched {σ : Type} (F : Forge σ) (budget : Nat) {v left : Survey}
    {records : List Repository} {ending : Option Ending} {log log' : List Exchange} {s t : σ}
    (h : v.drain F.watched budget (log, s) = (records, ending, left, log', t)) :
    v.drain F budget s = (records, ending, left, t) := by
  obtain ⟨records', p, q, hF, hG, h'⟩ :=
    (F.watched_alike.toMatch.drain_eq budget v (s := (log, s)) rfl).split
  obtain ⟨ending', p', q', rfl, rfl, h''⟩ := h'.split
  obtain ⟨left', ⟨added, t'⟩, u, rfl, rfl, rfl⟩ := h''.split
  rw [h] at hF
  cases hF
  exact hG

namespace Build

section

variable {σ : Type} (F : Forge σ) (budget : Nat)

/-- What the surveys of the sources hand out came in replies, in that order. -/
theorem discoveries_sublist (recursive : Bool) (sources : List String) : ∀ s : σ,
    (discoveries F budget recursive sources s).flatten.Sublist
      (brought (surveys F budget recursive sources s).flatten) := by
  induction sources with
  | nil => exact fun _ => List.Sublist.refl _
  | cons source rest ih =>
      intro s
      rw [discoveries, surveys]
      cases Source.slug? source with
      | error e => exact ih s
      | ok root =>
          obtain ⟨moves, left, log, t, hdrain, hcourse, -⟩ :=
            Survey.drain_course (F := F) budget (F.note (.discovering root recursive) s)
              (@Survey.Course.start (Survey.start root recursive))
          have hrecords := hcourse.records_sublist
          have hnote : F.watched.note (.discovering root recursive) ([], s) =
              ([], F.note (.discovering root recursive) s) := rfl
          simp only [Survey.begin, hnote, hdrain, Survey.drain_of_watched F budget hdrain]
          rcases moves.getLast?.bind Move.ending? with _ | _ | e
          · simpa using hrecords
          · simpa using hrecords.append (ih t)
          · simpa using hrecords

variable {F budget}

/-- The records that a build lists came in replies to its questions. -/
theorem mem_brought_of_listed {plan : Plan} {tree : FileTree} {s : σ} {summary : Summary}
    (hok : (run F.watched budget plan tree ([], s)).outcome = some (.ok summary)) {r : Repository}
    (hr : r ∈ listed F budget plan s) :
    r ∈ brought (run F.watched budget plan tree ([], s)).state.1 := by
  have hsurveys : surveysOf F budget plan tree s =
      surveys F budget plan.recursive plan.sources s := by
    rcases hmade : tree.makeFolders plan.folder with ⟨made, cause | _⟩
    · simp only [run, hmade] at hok
      cases hok
    · simp only [surveysOf, hmade]
  rw [run_log, hsurveys]
  exact (discoveries_sublist F budget plan.recursive plan.sources s).subset
    ((Repository.firsts_sublist _).subset hr)

end

/-- **No two repositories are checked out at the same place.**  If all records that came in replies
have an owner and a name, without slashes, then in every index that a build writes, whatever its
sources and its folder, the path of an entry is that folder, a slash if one is missing, and then, as
in the name of the entry, the owner and the name of a record; and the paths of two entries differ in
more than the case of letters, and so do their names. -/
theorem run_checkouts {σ : Type} (F : Forge σ) (budget : Nat) (plan : Plan) (tree : FileTree)
    (s : σ) {summary : Summary}
    (hok : (run F.watched budget plan tree ([], s)).outcome = some (.ok summary))
    (hplain : ∀ r ∈ brought (run F.watched budget plan tree ([], s)).state.1, r.IsPlain) :
    let result := run F.watched budget plan tree ([], s)
    ∃ text index, result.tree.readText summary.path = .ok text ∧
      SearchIndex.ofText? text = some index ∧
      (∀ e ∈ index.repos, ∃ r ∈ brought result.state.1,
        e = SearchIndex.Entry.ofRepository plan.folder r ∧
        e.path = Files.Path.lead plan.folder ++ (r.owner ++ "/" ++ r.name) ∧
        e.name = r.owner ++ "/" ++ r.name) ∧
      index.repos.Pairwise fun a b =>
        Text.Ascii.same a.path b.path = false ∧ Text.Ascii.same a.name b.name = false := by
  intro result
  obtain ⟨-, houtcome, htree, -⟩ :=
    F.watched_alike.toMatch.run budget plan tree (s := ([], s)) (t := s) rfl
  have hwrote := wrote_of_ok F budget (houtcome.symm.trans hok)
  obtain rfl : summary = _ :=
    Except.ok.inj (Option.some.inj (hok.symm.trans (houtcome.trans hwrote.outcome)))
  obtain ⟨text, htext, hindex⟩ := hwrote.file
  have hperm : (SearchIndex.ranked (listed F budget plan s)).Perm (listed F budget plan s) :=
    (SearchIndex.isRanking_ranked _).perm
  have hbrought : ∀ r ∈ SearchIndex.ranked (listed F budget plan s), r ∈ brought result.state.1 :=
    fun r hr => mem_brought_of_listed hok (hperm.mem_iff.mp hr)
  have hslugs : (SearchIndex.ranked (listed F budget plan s)).Pairwise
      fun a b => a.slug.same b.slug = false :=
    hperm.symm.pairwise (Slug.nodup_fold_iff.mp (Repository.firsts_nodup _))
      fun hab => by rw [Slug.same_comm, hab]
  refine ⟨text, _, by rwa [show result.tree = _ from htree], hindex, ?_,
    SearchIndex.Entry.pairwise_ofRepository (fun r hr => hplain r (hbrought r hr)) hslugs _⟩
  intro e he
  obtain ⟨r, hr, rfl⟩ := List.mem_map.mp he
  exact ⟨r, hbrought r hr, rfl,
    SearchIndex.Entry.path_ofRepository (hplain r (hbrought r hr)) plan.folder, rfl⟩

/-- A repository and its fork, below a folder that is given from the root and with a slash at its
end; the paths of the entries start with it as it was given. -/
theorem run_checkouts_pair :
    let result := run (Catalog.forge fun _ => 0).watched 100
      ⟨"/srv/index/", "idx", ["a/r"], none, "", true, .quiet⟩ ⟨[], ["home", "u"]⟩
      ([], [], Catalog.empty.withFork ⟨"a", "r"⟩ ⟨"b", "r"⟩)
    result.outcome = some (.ok ⟨"/srv/index/livegrep.json", 2, 0⟩) ∧
      (∀ r ∈ brought result.state.1, r.IsPlain) ∧
      ∃ text index, result.tree.readText "/srv/index/livegrep.json" = .ok text ∧
        SearchIndex.ofText? text = some index ∧
        (∀ e ∈ index.repos, ∃ r ∈ brought result.state.1,
          e.path = "/srv/index/" ++ (r.owner ++ "/" ++ r.name) ∧ e.name = r.owner ++ "/" ++ r.name) ∧
        index.repos.Pairwise fun a b =>
          Text.Ascii.same a.path b.path = false ∧ Text.Ascii.same a.name b.name = false := by
  intro result
  have hok : result.outcome = some (.ok ⟨"/srv/index/livegrep.json", 2, 0⟩) := by decide +kernel
  have hplain : ∀ r ∈ brought result.state.1, r.IsPlain := by decide +kernel
  obtain ⟨text, index, htext, hindex, hentries, hapart⟩ :=
    run_checkouts (Catalog.forge fun _ => 0) 100
      ⟨"/srv/index/", "idx", ["a/r"], none, "", true, .quiet⟩ ⟨[], ["home", "u"]⟩
      ([], Catalog.empty.withFork ⟨"a", "r"⟩ ⟨"b", "r"⟩) hok hplain
  have hlead : Files.Path.lead "/srv/index/" = "/srv/index/" := by decide
  refine ⟨hok, hplain, text, index, htext, hindex, fun e he => ?_, hapart⟩
  obtain ⟨r, hr, -, hpath, hname⟩ := hentries e he
  exact ⟨r, hr, hpath.trans (by rw [hlead]), hname⟩

end Build

end ForkCensus
