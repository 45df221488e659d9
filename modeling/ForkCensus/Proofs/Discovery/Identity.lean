import Mathlib.Data.List.Pairwise
import ForkCensus.Forge.Client
import ForkCensus.Http.Script
import ForkCensus.Proofs.Discovery.Once

/-
# One repository under two names

A service may answer a question for one name with the record of another:
a repository that was renamed is still found under its old name.  A crawl
goes by the names it asked for, so it can list such a repository twice,
under either name (`renamed_listed_twice`).

`Survey.identities_distinct_iff` says exactly when this happens: the
records that came in reply are of different repositories as long as no
two names asked for lead to the same one; and in a survey that came to
its end, on a service that says the same under both names, the forks of
one repository are listed twice exactly if one with forks was asked for
under another name than its own.
-/

namespace ForkCensus

open Exchange

/-! ## The record of a chapter -/

theorem Listing.Read.records {root : Slug} {rs : List Repository} {n : Nat} {spent : Bool}
    {log : List Exchange} (h : Read root rs n spent log) :
    ∃ r ∈ rs, r.hasForks = true ∧ records log = [(root, r)] := by
  induction h with
  | opened hg hf =>
      refine ⟨_, List.mem_cons_self, hf, ?_⟩
      rw [records_append, hg.quiet.records]
      rfl
  | page _ hg _ ih =>
      obtain ⟨r, hr, hf, hlog⟩ := ih
      refine ⟨r, List.mem_append_left _ hr, hf, ?_⟩
      rw [records_append, records_append, hlog, hg.quiet.records]
      rfl

namespace Chapter

variable {ch : Chapter}

/-- A chapter has at most one record in reply, to a question for its repository. -/
theorem Standing.records (h : ch.Standing) :
    ((Exchange.records ch.log).map Prod.fst).Sublist [ch.root] := by
  cases h with
  | opened h =>
      cases h with
      | start => exact List.nil_sublist _
      | paging hread =>
          obtain ⟨r, -, -, hlog⟩ := hread.records
          rw [hlog]
          exact List.Sublist.refl _
  | complete h =>
      cases h with
      | alone hg _ =>
          rw [records_append, hg.quiet.records]
          exact List.Sublist.refl _
      | pages hread hg =>
          obtain ⟨r, -, -, hlog⟩ := hread.records
          rw [records_append, records_append, hg.quiet.records, hlog]
          exact List.Sublist.refl _
  | broken h =>
      cases h with
      | ungated => exact List.nil_sublist _
      | unanswered hg =>
          rw [records_append, hg.quiet.records]
          exact List.nil_sublist _
      | pageUngated hread =>
          obtain ⟨r, -, -, hlog⟩ := hread.records
          rw [records_append, hlog]
          exact List.Sublist.refl _
      | pageFailed hread hg =>
          obtain ⟨r, -, -, hlog⟩ := hread.records
          rw [records_append, records_append, hg.quiet.records, hlog]
          exact List.Sublist.refl _

/-- A complete chapter has the record of its repository, and asks for pages exactly if that has
forks. -/
theorem Complete.records (h : ch.Complete) : ∃ r ∈ ch.records,
    Exchange.records ch.log = [(ch.root, r)] ∧
      (pagesAsked ch.root ch.log ≠ [] ↔ r.hasForks = true) := by
  have hroot : ch.root.same ch.root = true := Slug.same_refl _
  cases h with
  | @alone root a g hg hf =>
      refine ⟨_, List.mem_cons_self, ?_, ?_⟩
      · rw [records_append, hg.quiet.records]
        rfl
      · rw [pagesAsked_eq, hg.callsAbout_repository hroot, hf]
        simp [Call.pages, Call.page?]
  | @pages root rs n _ _ log g hread hg =>
      obtain ⟨r, hr, hf, hlog⟩ := hread.records
      refine ⟨r, hr, ?_, ?_⟩
      · rw [records_append, records_append, hlog, hg.quiet.records]
        rfl
      · rw [pagesAsked_eq, hread.callsAbout_next hg hroot, hf, Call.pages_succ]
        simp [Call.page?]

theorem records_flatMap_sublist {chapters : List Chapter} (h : ∀ ch ∈ chapters, ch.Standing) :
    ((Exchange.records (chapters.flatMap Chapter.log)).map Prod.fst).Sublist
      (chapters.map Chapter.root) := by
  induction chapters with
  | nil => exact List.Sublist.refl _
  | cons ch chapters ih =>
      rw [List.flatMap_cons, records_append, List.map_append, List.map_cons]
      have hlater := ih fun x hx => h x (List.mem_cons_of_mem _ hx)
      exact (h ch List.mem_cons_self).records.append hlater

theorem mem_records_flatMap {chapters : List Chapter} {a : Slug × Repository} :
    a ∈ Exchange.records (chapters.flatMap Chapter.log) ↔
      ∃ ch ∈ chapters, a ∈ Exchange.records ch.log := by
  induction chapters with
  | nil => simp
  | cons ch chapters ih => simp [ih]

end Chapter

/-! ## The records of a crawl -/

namespace Crawl

variable {root : Slug} {moves : List Move} {c : Crawl} {log : List Exchange}

/-- No two records came in reply to questions for the same name. -/
theorem Account.records_nodup (h : Account root moves c log) :
    (records log).Pairwise fun a b => a.1.same b.1 = false := by
  obtain ⟨chapters, told, covered⟩ := h
  have hroots := Slug.nodup_fold_iff.mp (roots_nodup told covered)
  have hsub := Chapter.records_flatMap_sublist told.history.standing
  have hmap : (chapters.map Chapter.root).Pairwise fun a b => a.same b = false := by
    rw [List.pairwise_map]
    exact hroots
  rw [told.log_eq]
  exact List.pairwise_map.mp (hmap.sublist hsub)

end Crawl

/-! ## Under which names a repository was asked for -/

/-- Records that came in reply to questions for different names are of different repositories if
the repository determines the name. -/
theorem pairwise_identity_iff {asked : List (Slug × Repository)}
    (hasked : asked.Pairwise fun a b => a.1.same b.1 = false) :
    asked.Pairwise (fun a b => a.2.slug.same b.2.slug = false) ↔
      ∀ a ∈ asked, ∀ b ∈ asked, a.2.slug.same b.2.slug = true → a.1.same b.1 = true := by
  constructor
  · intro h a ha b hb hsame
    by_contra hne
    have hab : a ≠ b := by
      rintro rfl
      exact hne (Slug.same_refl _)
    have hsymm : Std.Symm fun a b : Slug × Repository => a.2.slug.same b.2.slug = false :=
      ⟨fun a b hdiff => by rw [Slug.same_comm]; exact hdiff⟩
    have hdiff := h.forall ha hb hab
    rw [hsame] at hdiff
    cases hdiff
  · intro h
    refine hasked.imp_of_mem fun {a b} ha hb hdiff => ?_
    refine Bool.eq_false_iff.mpr fun hsame => ?_
    rw [h a ha b hb hsame] at hdiff
    cases hdiff

/-- Asked for a repository under the name that it gave, the service gives that name again, and says
the same about forks. -/
def Steady (asked : List (Slug × Repository)) : Prop :=
  ∀ a ∈ asked, ∀ b ∈ asked, b.1.same a.2.slug = true →
    b.2.slug.same a.2.slug = true ∧ b.2.hasForks = a.2.hasForks

instance (asked : List (Slug × Repository)) : Decidable (Steady asked) :=
  inferInstanceAs (Decidable (∀ a ∈ asked, ∀ b ∈ asked, b.1.same a.2.slug = true →
    b.2.slug.same a.2.slug = true ∧ b.2.hasForks = a.2.hasForks))

/-- The records of a transcript whose repository was then asked for pages of its forks. -/
def Exchange.paged (log : List Exchange) : List (Slug × Repository) :=
  (records log).filter fun a => pagesAsked a.1 log ≠ []

namespace Crawl

/-- In a complete crawl, the repositories asked for pages are those with forks. -/
theorem mem_paged {root : Slug} {moves : List Move} {c : Crawl} {chapters : List Chapter}
    {log : List Exchange} (told : c.Told root moves chapters log)
    (covered : c.Covered root (Chapter.pulled chapters) moves)
    (hcomplete : ∀ ch ∈ chapters, ch.Complete) {a : Slug × Repository} :
    a ∈ paged log ↔ a ∈ records log ∧ a.2.hasForks = true := by
  have hroots := roots_nodup told covered
  rw [paged, List.mem_filter, decide_eq_true_eq]
  refine and_congr_right fun ha => ?_
  rw [told.log_eq] at ha ⊢
  obtain ⟨ch, hch, ha⟩ := Chapter.mem_records_flatMap.mp ha
  obtain ⟨r, -, hrecords, hpages⟩ := (hcomplete ch hch).records
  rw [hrecords, List.mem_singleton] at ha
  subst ha
  rw [pagesAsked_eq, Chapter.callsAbout_flatMap told.history.standing hroots hch
    (Slug.same_refl _), ← pagesAsked_eq]
  exact hpages

/-- In a complete crawl, a repository that came with forks was also asked for under the name that it
came with. -/
theorem exists_records {root : Slug} {moves : List Move} {c : Crawl} {chapters : List Chapter}
    {log : List Exchange} (told : c.Told root moves chapters log)
    (hcomplete : ∀ ch ∈ chapters, ch.Complete)
    (hwanted : ∀ k ∈ wanted root (Chapter.pulled chapters), ∃ ch ∈ chapters, ch.root.same k = true)
    {a : Slug × Repository} (ha : a ∈ records log) (hforks : a.2.hasForks = true) :
    ∃ b ∈ records log, b.1.same a.2.slug = true := by
  rw [told.log_eq] at ha ⊢
  obtain ⟨ch, hch, ha⟩ := Chapter.mem_records_flatMap.mp ha
  obtain ⟨r, hr, hrecords, -⟩ := (hcomplete ch hch).records
  rw [hrecords, List.mem_singleton] at ha
  subst ha
  have hpulled : r ∈ Chapter.pulled chapters := List.mem_flatMap.mpr ⟨ch, hch, hr⟩
  have hwant : r.slug ∈ wanted root (Chapter.pulled chapters) :=
    List.mem_cons_of_mem _ (List.mem_map_of_mem (List.mem_filter.mpr ⟨hpulled, hforks⟩))
  obtain ⟨ch', hch', hsame⟩ := hwanted _ hwant
  obtain ⟨r', -, hrecords', -⟩ := (hcomplete ch' hch').records
  refine ⟨(ch'.root, r'), Chapter.mem_records_flatMap.mpr ⟨ch', hch', ?_⟩, hsame⟩
  rw [hrecords']
  exact List.mem_cons_self

/-- In a complete crawl of a steady service, the repositories asked for pages are different exactly
if each was asked for under its own name. -/
theorem paged_pairwise_iff {root : Slug} {moves : List Move} {c : Crawl} {log : List Exchange}
    (h : Account root moves c log) (hcur : c.current = none) (hstack : c.stack = [])
    (hmoves : ∀ e, Move.failed e ∉ moves) (hsteady : Steady (records log)) :
    (paged log).Pairwise (fun a b => a.2.slug.same b.2.slug = false) ↔
      ∀ a ∈ records log, a.2.hasForks = true → a.2.slug.same a.1 = true := by
  have hnodup : (paged log).Pairwise fun a b => a.1.same b.1 = false :=
    h.records_nodup.sublist List.filter_sublist
  obtain ⟨chapters, told, covered⟩ := h
  obtain ⟨hcomplete, hwanted⟩ := finished_complete told covered hcur hstack hmoves
  rw [pairwise_identity_iff hnodup]
  constructor
  · intro hpaged a ha hforks
    -- It was also asked for under the name it came with, and that must be the same name.
    obtain ⟨b, hb, hsame⟩ := exists_records told hcomplete hwanted ha hforks
    obtain ⟨hname, hforks'⟩ := hsteady a ha b hb hsame
    have ha' := (mem_paged told covered hcomplete).mpr ⟨ha, hforks⟩
    have hb' := (mem_paged told covered hcomplete).mpr ⟨hb, hforks'.trans hforks⟩
    rw [Slug.same_comm] at hsame
    exact Slug.same_trans hsame (hpaged b hb' a ha' hname)
  · intro hown a ha b hb hsame
    obtain ⟨ha, hforks⟩ := (mem_paged told covered hcomplete).mp ha
    obtain ⟨hb, hforks'⟩ := (mem_paged told covered hcomplete).mp hb
    have hab : a.1.same a.2.slug = true := by
      rw [Slug.same_comm]
      exact hown a ha hforks
    exact Slug.same_trans (Slug.same_trans hab hsame) (hown b hb hforks')

end Crawl

namespace Survey

/-- **When a recursive survey takes one repository for two.**  The records that came in reply are of
different repositories exactly if no two of the names asked for lead to the same one.  And when the
survey came to its end, with a service that says the same under both names, no repository was asked
for its forks twice exactly if each one with forks was asked for under its own name. -/
theorem identities_distinct_iff {σ : Type} (F : Forge σ) (root : Slug) (budgets : List Nat)
    (s : σ) :
    let run := (Survey.start root true).pulls F.watched budgets ([], s)
    let log := run.state.1
    ((records log).Pairwise (fun a b => a.2.slug.same b.2.slug = false) ↔
      ∀ a ∈ records log, ∀ b ∈ records log,
        a.2.slug.same b.2.slug = true → a.1.same b.1 = true) ∧
    (run.results.getLast? = some (some .finished) → (∀ e, some (.failed e) ∉ run.results) →
      Steady (records log) →
      ((paged log).Pairwise (fun a b => a.2.slug.same b.2.slug = false) ↔
        ∀ a ∈ records log, a.2.hasForks = true → a.2.slug.same a.1 = true)) := by
  intro run log
  obtain ⟨moves, hcourse, hresults, -, hlast⟩ :=
    pulls_course (F := F) budgets s (@Course.start (Survey.start root true))
  obtain ⟨c, hc, haccount⟩ := hcourse.account
  refine ⟨pairwise_identity_iff haccount.records_nodup, ?_⟩
  intro hend hfine hsteady
  rw [hc, List.nil_append] at hcourse
  obtain ⟨hcur, hstack⟩ := hcourse.finished (hlast _ hend)
  refine Crawl.paged_pairwise_iff haccount hcur hstack ?_ hsteady
  intro e he
  rw [List.nil_append] at he
  exact hfine e (failed_of_results hresults he)

end Survey

/-! ## A repository that was renamed -/

/-- The text of a record, with small counts. -/
def Http.recordText (owner name stars forks : String) : String :=
  "\x7b\"owner\":\x7b\"login\":\"" ++ owner ++ "\"\x7d,\"name\":\"" ++ name ++
    "\",\"html_url\":\"\",\"clone_url\":\"\",\"git_url\":\"\",\"ssh_url\":\"\"," ++
    "\"stargazers_count\":" ++ stars ++ ",\"forks_count\":" ++ forks ++ "\x7d"

/-- A server where `old/r` was renamed: it sends a question for it on to `new/r`, and has the same
page of forks under both names. -/
def Http.Script.renamed : Http.Script where
  address := Url.ofText? "http://localhost"
  routes :=
    [("/repos/old/r",
        [.of 301 [.ofText "location" "http://localhost/repos/new/r"] [] false]),
      ("/repos/new/r", [.of 200 [] (Text.utf8 (Http.recordText "new" "r" "7" "1")) false]),
      ("/repos/old/r/forks?per_page=100&page=1", [.of 200 [] (Text.utf8 "[]") false]),
      ("/repos/new/r/forks?per_page=100&page=1", [.of 200 [] (Text.utf8 "[]") false])]
  log := []

/-- What a client of that server sees. -/
def Forge.renamed : Forge Http.Script :=
  (Client.ofBase none "http://localhost").forge (Http.Script.exchange.web 0)

/-- The record that the server has of the repository. -/
def Repository.renamed : Repository :=
  ⟨"new", "r", "", "", "", "", 1, 7⟩

namespace Survey

/-- A recursive survey of that server from the old name. -/
def ofRenamed : Pulls (List Exchange × Http.Script) :=
  (Survey.start ⟨"old", "r"⟩ true).pulls Forge.renamed.watched [8, 8] ([], .renamed)

theorem ofRenamed_eq :
    ofRenamed.results = [some (.item .renamed), some .finished] ∧
      records ofRenamed.state.1 = [(⟨"old", "r"⟩, .renamed), (⟨"new", "r"⟩, .renamed)] ∧
      paged ofRenamed.state.1 = [(⟨"old", "r"⟩, .renamed), (⟨"new", "r"⟩, .renamed)] := by
  decide +kernel

/-- The survey lists one repository under both names: two of the records that came in reply are the
same repository, and both names were asked for pages of forks. -/
theorem renamed_listed_twice :
    ¬(records ofRenamed.state.1).Pairwise (fun a b => a.2.slug.same b.2.slug = false) ∧
      ¬(paged ofRenamed.state.1).Pairwise (fun a b => a.2.slug.same b.2.slug = false) := by
  rw [ofRenamed_eq.2.1, ofRenamed_eq.2.2]
  decide +kernel

/-- The survey comes to its end, and the server says the same under both names. -/
theorem identities_distinct_iff_renamed :
    ofRenamed.results.getLast? = some (some .finished) ∧
      (∀ e, some (.failed e) ∉ ofRenamed.results) ∧ Steady (records ofRenamed.state.1) ∧
      ((paged ofRenamed.state.1).Pairwise (fun a b => a.2.slug.same b.2.slug = false) ↔
        ∀ a ∈ records ofRenamed.state.1, a.2.hasForks = true → a.2.slug.same a.1 = true) := by
  have h := identities_distinct_iff Forge.renamed ⟨"old", "r"⟩ [8, 8] .renamed
  dsimp only at h
  rw [← ofRenamed] at h
  obtain ⟨hresults, hrecords, -⟩ := ofRenamed_eq
  have hlast : ofRenamed.results.getLast? = some (some .finished) := by
    rw [hresults]
    rfl
  have hfine : ∀ e, some (.failed e) ∉ ofRenamed.results := by
    rw [hresults]
    simp
  have hsteady : Steady (records ofRenamed.state.1) := by
    rw [hrecords]
    decide +kernel
  exact ⟨hlast, hfine, hsteady, h.2 hlast hfine hsteady⟩

end Survey

end ForkCensus
