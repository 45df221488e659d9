import ForkCensus.Proofs.Discovery.Identity
import ForkCensus.Proofs.Discovery.Pages

/-
# When a survey heeds that the quota is spent

An answer may say that it came with the last request of the quota.  For
the next request there then is none, and asking for the quota before it
is what keeps a discovery from running into that.  After a page of forks,
and before each new repository, every discovery does so.  After the
record of a repository with forks it does not: what that answer says of
the quota is dropped, and the first page is asked for right away
(`Survey.quota_heeded_iff`).

Both come from the chapters of the transcript.  Within a chapter each
request but the first page stands behind the gate that the page before it
asked for; between two chapters there always is a gate, and a complete
chapter does not end with such a record.
-/

namespace ForkCensus

namespace Exchange

/-- Whether the answer says that it came with the last request of the quota. -/
def saysSpent : Exchange → Bool
  | repository _ (.ok answer) => answer.quotaSpent
  | forkPage _ _ (.ok answer) => answer.quotaSpent
  | _ => false

/-- Whether the answer is the record of a repository with forks. -/
def findsForks : Exchange → Bool
  | repository _ (.ok answer) => answer.value.hasForks
  | _ => false

/-- The request `b` is the next after the request `a`, with `mid` between them. -/
def Follows (log : List Exchange) (a : Exchange) (mid : List Exchange) (b : Exchange) : Prop :=
  ∃ before after, log = before ++ a :: (mid ++ b :: after) ∧
    a.isRequest = true ∧ Quiet mid ∧ b.isRequest = true

/-- The first request is `b`, behind `pre`. -/
def Leads (log pre : List Exchange) (b : Exchange) : Prop :=
  ∃ after, log = pre ++ b :: after ∧ Quiet pre ∧ b.isRequest = true

/-- The last request is `a`, before `rest`. -/
def Trails (log : List Exchange) (a : Exchange) (rest : List Exchange) : Prop :=
  ∃ before, log = before ++ a :: rest ∧ a.isRequest = true ∧ Quiet rest

/-- The quota is asked for between `a` and the next request exactly unless `a` is the record of a
repository with forks; its first page is asked for right away. -/
def Heeded (a : Exchange) (mid : List Exchange) (b : Exchange) : Prop :=
  ((∃ x ∈ mid, x.call = .quota) ↔ a.findsForks = false) ∧
    ∀ k, a.call = .repository k → a.findsForks = true → mid = [] ∧ b.call = .forkPage k 1

/-- Wherever an answer says that the quota is spent, the request after it is `Heeded`. -/
def Heeds (log : List Exchange) : Prop :=
  ∀ a mid b, Follows log a mid b → a.saysSpent = true → Heeded a mid b

variable {log log' mid pre rest : List Exchange} {a b x : Exchange}

/-! ## Requests in joined transcripts -/

/-- The next request is in the same part, or it is the first of the second part. -/
theorem follows_append (h : Follows (log ++ log') a mid b) :
    Follows log a mid b ∨ Follows log' a mid b ∨
      ∃ rest pre, mid = rest ++ pre ∧ Trails log a rest ∧ Leads log' pre b := by
  obtain ⟨before, after, hlog, ha, hmid, hb⟩ := h
  rcases List.append_eq_append_iff.mp hlog with ⟨more, rfl, hfrom⟩ | ⟨more, rfl, hfrom⟩
  · exact Or.inr (Or.inl ⟨more, after, hfrom, ha, hmid, hb⟩)
  · cases more with
    | nil => exact Or.inr (Or.inl ⟨[], after, hfrom.symm, ha, hmid, hb⟩)
    | cons first more =>
        obtain ⟨rfl, hthen⟩ := List.cons.inj hfrom
        -- Here `a` is in the first part; `b` may be in either.
        rcases List.append_eq_append_iff.mp hthen with ⟨pre, rfl, hrest⟩ | ⟨pre, rfl, hrest⟩
        · cases pre with
          | nil =>
              refine Or.inr (Or.inr ⟨mid, [], (List.append_nil _).symm, ⟨before, ?_, ha, hmid⟩,
                after, hrest.symm, nofun, hb⟩)
              rw [List.append_nil]
          | cons second pre =>
              obtain ⟨rfl, -⟩ := List.cons.inj hrest
              exact Or.inl ⟨before, pre, rfl, ha, hmid, hb⟩
        · refine Or.inr (Or.inr ⟨more, pre, rfl, ⟨before, rfl, ha, ?_⟩, after, hrest, ?_, hb⟩)
          · exact fun x hx => hmid x (List.mem_append_left _ hx)
          · exact fun x hx => hmid x (List.mem_append_right _ hx)

/-- The last request is in the second part, or there is none in that. -/
theorem trails_append (h : Trails (log ++ log') a rest) :
    Trails log' a rest ∨ ∃ rest', Trails log a rest' := by
  obtain ⟨before, hlog, ha, hrest⟩ := h
  rcases List.append_eq_append_iff.mp hlog with ⟨more, rfl, hfrom⟩ | ⟨more, rfl, hfrom⟩
  · exact Or.inl ⟨more, hfrom, ha, hrest⟩
  · cases more with
    | nil => exact Or.inl ⟨[], hfrom.symm, ha, hrest⟩
    | cons first more =>
        obtain ⟨rfl, rfl⟩ := List.cons.inj hfrom
        exact Or.inr ⟨more, before, rfl, ha, fun x hx => hrest x (List.mem_append_left _ hx)⟩

/-- The last exchange, if it is a request. -/
theorem trails_concat (hx : x.isRequest = true) (h : Trails (log ++ [x]) a rest) :
    a = x ∧ rest = [] := by
  obtain ⟨before, hlog, -, hrest⟩ := h
  rcases List.eq_nil_or_concat' rest with rfl | ⟨rest, y, rfl⟩
  · exact ⟨(List.append_singleton_inj.mp hlog).2.symm, rfl⟩
  · rw [← List.cons_append, ← List.append_assoc] at hlog
    obtain ⟨-, rfl⟩ := List.append_singleton_inj.mp hlog
    rw [hrest x (List.mem_append_right _ List.mem_cons_self)] at hx
    cases hx

/-- What has no request has no first one. -/
theorem not_leads (hquiet : Quiet log) : ¬Leads log pre b := by
  rintro ⟨after, rfl, -, hb⟩
  rw [hquiet b (List.mem_append_right _ List.mem_cons_self)] at hb
  cases hb

/-- The first request, behind what has none. -/
theorem leads_cons (hquiet : Quiet log) (hx : x.isRequest = true)
    (h : Leads (log ++ x :: log') pre b) : pre = log ∧ b = x := by
  obtain ⟨after, hlog, hpre, hb⟩ := h
  rcases List.append_eq_append_iff.mp hlog with ⟨more, rfl, hfrom⟩ | ⟨more, rfl, hfrom⟩
  · cases more with
    | nil => exact ⟨List.append_nil _, (List.cons.inj hfrom).1.symm⟩
    | cons first more =>
        obtain ⟨rfl, -⟩ := List.cons.inj hfrom
        rw [hpre x (List.mem_append_right _ List.mem_cons_self)] at hx
        cases hx
  · cases more with
    | nil => exact ⟨(List.append_nil _).symm, (List.cons.inj hfrom).1⟩
    | cons first more =>
        obtain ⟨rfl, -⟩ := List.cons.inj hfrom
        rw [hquiet b (List.mem_append_right _ List.mem_cons_self)] at hb
        cases hb

/-- Where only the last exchange may be a request, none has one after it. -/
theorem not_follows_concat (hquiet : Quiet log) : ¬Follows (log ++ [x]) a mid b := by
  have hnot (hmem : a ∈ log) (ha : a.isRequest = true) : False := by
    rw [hquiet a hmem] at ha
    cases ha
  intro h
  rcases follows_append h with ⟨before, after, rfl, ha, -⟩ | ⟨before, after, hlog, -⟩ |
    ⟨rest, pre, -, ⟨before, rfl, ha, -⟩, -⟩
  · exact hnot (List.mem_append_right _ List.mem_cons_self) ha
  · have hlength := congrArg List.length hlog
    simp only [List.length_append, List.length_cons, List.length_nil] at hlength
    omega
  · exact hnot (List.mem_append_right _ List.mem_cons_self) ha

/-- Two requests in a row. -/
theorem follows_succ {i : Nat} (ha : log[i]? = some a) (hb : log[i + 1]? = some b)
    (hasks : a.isRequest = true) (hasks' : b.isRequest = true) : Follows log a [] b := by
  obtain ⟨hi, rfl⟩ := List.getElem?_eq_some_iff.mp ha
  obtain ⟨hi', rfl⟩ := List.getElem?_eq_some_iff.mp hb
  refine ⟨log.take i, log.drop (i + 2), ?_, hasks, nofun, hasks'⟩
  rw [List.nil_append, ← List.drop_eq_getElem_cons hi', ← List.drop_eq_getElem_cons hi,
    List.take_append_drop]

theorem heeds_nil : Heeds [] := by
  rintro a mid b ⟨before, after, hlog, -⟩
  simp at hlog

theorem heeds_concat (h : Quiet log) (x : Exchange) : Heeds (log ++ [x]) :=
  fun _ _ _ hfollows => absurd hfollows (not_follows_concat h)

theorem heeds_singleton (x : Exchange) : Heeds [x] :=
  heeds_concat quiet_nil x

/-- What is heeded in each part and from one to the other is heeded in both. -/
theorem Heeds.append (h : Heeds log) (h' : Heeds log')
    (hbetween : ∀ {a rest pre b}, Trails log a rest → Leads log' pre b → a.saysSpent = true →
      Heeded a (rest ++ pre) b) : Heeds (log ++ log') := by
  intro a mid b hfollows hspent
  rcases follows_append hfollows with hin | hin | ⟨rest, pre, rfl, htrails, hleads⟩
  · exact h a mid b hin hspent
  · exact h' a mid b hin hspent
  · exact hbetween htrails hleads hspent

end Exchange

open Exchange

/-! ## One chapter -/

theorem Gate.Passed.asks {g : List Exchange} (h : Gate.Passed g) : ∃ x ∈ g, x.call = .quota := by
  cases h with
  | free => exact ⟨_, List.mem_cons_self, rfl⟩
  | waited => exact ⟨_, List.mem_cons_self, rfl⟩

namespace Listing.Read

variable {root : Slug} {rs : List Repository} {n : Nat} {spent : Bool} {log : List Exchange}

/-- The first request is for the record, behind the gate. -/
theorem begins (h : Read root rs n spent log) : ∃ g reply more, Gate.Passed g ∧
    log = g ++ .repository root reply :: more := by
  induction h with
  | opened hg _ => exact ⟨_, _, [], hg, rfl⟩
  | page _ _ _ ih =>
      obtain ⟨g, reply, more, hg, rfl⟩ := ih
      exact ⟨g, reply, _, hg, by rw [List.append_assoc, List.cons_append]⟩

/-- The last exchange is a request: for the record of a repository with forks or, later, for a page,
which said whether the quota is spent. -/
theorem trails (h : Read root rs n spent log) {a : Exchange} {rest : List Exchange}
    (ht : Trails log a rest) : rest = [] ∧
      ((n = 0 ∧ spent = false ∧ a.call = .repository root ∧ a.findsForks = true) ∨
        (a.findsForks = false ∧ a.saysSpent = spent)) := by
  cases h with
  | opened hg hforks =>
      obtain ⟨rfl, rfl⟩ := trails_concat rfl ht
      exact ⟨rfl, Or.inl ⟨rfl, rfl, rfl, hforks⟩⟩
  | page _ hg ha =>
      rw [← List.append_assoc] at ht
      obtain ⟨rfl, rfl⟩ := trails_concat rfl ht
      exact ⟨rfl, Or.inr ⟨rfl, rfl⟩⟩

/-- One more page, whatever the reply. -/
theorem heeds_next (h : Read root rs n spent log) (hlog : Heeds log) {g : List Exchange}
    (hg : PageGate spent g) (reply : Except ApiError (Answer (List Repository))) :
    Heeds (log ++ (g ++ [.forkPage root (.ofNat (n + 1)) reply])) := by
  refine hlog.append (heeds_concat hg.quiet _) ?_
  intro a rest pre b htrails hleads hspent
  obtain ⟨rfl, rfl⟩ := leads_cons hg.quiet rfl hleads
  obtain ⟨rfl, ⟨rfl, rfl, hcall, hforks⟩ | ⟨hforks, hsays⟩⟩ := h.trails htrails
  · -- The first page stands behind no gate, whatever came with the record.
    obtain rfl : pre = [] := hg
    refine ⟨by simp [hforks], fun k hk _ => ?_⟩
    rw [hcall] at hk
    cases hk
    exact ⟨rfl, rfl⟩
  · rw [hspent] at hsays
    rw [← hsays] at hg
    refine ⟨iff_of_true (Gate.Passed.asks hg) hforks, fun _ _ hfinds => ?_⟩
    rw [hforks] at hfinds
    cases hfinds

theorem heeds (h : Read root rs n spent log) : Heeds log := by
  induction h with
  | opened hg _ => exact heeds_concat hg.quiet _
  | page hread hg _ ih => exact hread.heeds_next ih hg _

end Listing.Read

namespace Chapter

variable {ch : Chapter}

/-- **In a chapter the quota is heeded** after each page, and not after the record. -/
theorem Standing.heeds (h : ch.Standing) : Heeds ch.log := by
  cases h with
  | opened h =>
      cases h with
      | start => exact heeds_nil
      | paging hread => exact hread.heeds
  | complete h =>
      cases h with
      | alone hg _ => exact heeds_concat hg.quiet _
      | pages hread hg => exact hread.heeds_next hread.heeds hg _
  | broken h =>
      cases h with
      | ungated => exact heeds_singleton _
      | unanswered hg => exact heeds_concat hg.quiet _
      | pageUngated hread =>
          refine hread.heeds.append (heeds_singleton _) ?_
          intro _ _ _ _ _ hleads
          exact absurd hleads (not_leads (quiet_quota _ _))
      | pageFailed hread hg => exact hread.heeds_next hread.heeds hg _

/-- A chapter begins with the gate. -/
theorem Standing.leads (h : ch.Standing) {pre : List Exchange} {b : Exchange}
    (hb : Leads ch.log pre b) : ∃ x ∈ pre, x.call = .quota := by
  have hgate {g more : List Exchange} {reply : Except ApiError (Answer Repository)}
      (hg : Gate.Passed g) (hb : Leads (g ++ .repository ch.root reply :: more) pre b) :
      ∃ x ∈ pre, x.call = .quota := by
    obtain ⟨rfl, -⟩ := leads_cons hg.quiet rfl hb
    exact hg.asks
  have hread {rs : List Repository} {n : Nat} {spent : Bool} {log more : List Exchange}
      (hread : Listing.Read ch.root rs n spent log) (hb : Leads (log ++ more) pre b) :
      ∃ x ∈ pre, x.call = .quota := by
    obtain ⟨g, reply, more, hg, rfl⟩ := hread.begins
    rw [List.append_assoc] at hb
    exact hgate hg hb
  cases h with
  | opened h =>
      cases h with
      | start => exact absurd hb (not_leads quiet_nil)
      | paging h => exact hread h (by rwa [List.append_nil])
  | complete h =>
      cases h with
      | alone hg _ => exact hgate hg hb
      | pages h _ => exact hread h hb
  | broken h =>
      cases h with
      | ungated => exact absurd hb (not_leads (quiet_quota _ _))
      | unanswered hg => exact hgate hg hb
      | pageUngated h => exact hread h hb
      | pageFailed h _ => exact hread h hb

/-- A complete chapter does not end with the record of a repository with forks. -/
theorem Complete.trails (h : ch.Complete) {a : Exchange} {rest : List Exchange}
    (ht : Trails ch.log a rest) : a.findsForks = false := by
  cases h with
  | alone _ hforks =>
      obtain ⟨rfl, -⟩ := trails_concat rfl ht
      exact hforks
  | pages _ _ =>
      rw [← List.append_assoc] at ht
      obtain ⟨rfl, -⟩ := trails_concat rfl ht
      rfl

/-- One more chapter, after complete ones. -/
theorem heeds_concat {done : List Chapter} (hdone : Heeds (done.flatMap Chapter.log))
    (hlast : ∀ {a rest}, Trails (done.flatMap Chapter.log) a rest → a.findsForks = false)
    (h : ch.Standing) : Heeds ((done ++ [ch]).flatMap Chapter.log) := by
  rw [List.flatMap_append, List.flatMap_singleton]
  refine hdone.append h.heeds ?_
  intro a rest pre b htrails hleads _
  have hforks := hlast htrails
  obtain ⟨x, hx, hcall⟩ := h.leads hleads
  refine ⟨iff_of_true ⟨x, List.mem_append_right _ hx, hcall⟩ hforks, fun _ _ hfinds => ?_⟩
  rw [hforks] at hfinds
  cases hfinds

/-- **Between chapters the quota is always asked for.** -/
theorem complete_heeds {done : List Chapter} (h : ∀ ch ∈ done, ch.Complete) :
    Heeds (done.flatMap Chapter.log) ∧
      ∀ {a rest}, Trails (done.flatMap Chapter.log) a rest → a.findsForks = false := by
  induction done using List.reverseRecOn with
  | nil =>
      refine ⟨heeds_nil, ?_⟩
      rintro a rest ⟨before, hlog, -⟩
      simp at hlog
  | append_singleton done ch ih =>
      obtain ⟨hdone, hlast⟩ := ih fun x hx => h x (List.mem_append_left _ hx)
      have hch := h ch (List.mem_append_right _ List.mem_cons_self)
      refine ⟨heeds_concat hdone hlast (.complete hch), ?_⟩
      intro a rest ht
      rw [List.flatMap_append, List.flatMap_singleton] at ht
      rcases trails_append ht with ht | ⟨rest', ht⟩
      · exact hch.trails ht
      · exact hlast ht

end Chapter

/-! ## Both kinds of surveys -/

theorem Crawl.Account.heeds {root : Slug} {moves : List Move} {c : Crawl} {log : List Exchange}
    (h : Account root moves c log) : Heeds log := by
  obtain ⟨chapters, told, -⟩ := h
  rw [told.log_eq]
  cases told.history with
  | resting _ _ hdone => exact (Chapter.complete_heeds hdone).1
  | listing _ hopen _ hdone =>
      obtain ⟨hdone, hlast⟩ := Chapter.complete_heeds hdone
      exact Chapter.heeds_concat hdone hlast (.opened hopen)
  | broken _ _ _ hbroken hdone =>
      obtain ⟨hdone, hlast⟩ := Chapter.complete_heeds hdone
      exact Chapter.heeds_concat hdone hlast (.broken hbroken)

namespace Survey

theorem Course.heeds {root : Slug} {recursive : Bool} {moves : List Move} {v : Survey}
    {log : List Exchange} (h : Course (.start root recursive) moves v log) : Heeds log := by
  cases recursive with
  | false =>
      obtain ⟨ch, -, rfl, -, hch, -⟩ := h.chapter
      exact hch.heeds
  | true =>
      obtain ⟨c, -, haccount⟩ := h.account
      exact haccount.heeds

/-- **When a spent quota is heeded.**  Whatever the service answers, after any number of pulls of a
survey of either kind: if an answer said that the quota is spent, the quota is asked for again
before the next request exactly unless that answer was the record of a repository with forks.  After
such a record, the first page of its forks is asked for at once. -/
theorem quota_heeded_iff {σ : Type} (F : Forge σ) (root : Slug) (recursive : Bool)
    (budgets : List Nat) (s : σ) {a b : Exchange} {mid : List Exchange}
    (hfollows : Follows ((start root recursive).pulls F.watched budgets ([], s)).state.1 a mid b)
    (hspent : a.saysSpent = true) :
    ((∃ x ∈ mid, x.call = .quota) ↔ a.findsForks = false) ∧
      ∀ k, a.call = .repository k → a.findsForks = true → mid = [] ∧ b.call = .forkPage k 1 := by
  obtain ⟨moves, hcourse, -⟩ :=
    pulls_course (F := F) budgets s (@Course.start (start root recursive))
  exact hcourse.heeds a mid b hfollows hspent

end Survey

/-! ## A record that comes with the last request -/

/-- A server whose quota ends with the record of `a/r`. -/
def Http.Script.scarce : Http.Script where
  address := Url.ofText? "http://localhost"
  routes :=
    [("/repos/a/r",
        [.of 200 [.ofText Http.remainingHeader "0"]
          (Text.utf8 (Http.recordText "a" "r" "0" "1")) false]),
      ("/repos/a/r/forks?per_page=100&page=1", [.of 200 [] (Text.utf8 "[]") false])]
  log := []

namespace Survey

/-- What a client of that server asks for in a direct survey of `a/r`, with the replies. -/
def logOfScarce : List Exchange :=
  ((start ⟨"a", "r"⟩ false).pulls
    ((Client.ofBase none "http://localhost").forge (Http.Script.exchange.web 0)).watched [1, 1]
    ([], .scarce)).state.1

/-- The record has forks and says that the quota is spent, and the next request follows at once. -/
theorem follows_scarce : ∃ a b, Follows logOfScarce a [] b ∧ a.saysSpent = true ∧
    a.findsForks = true := by
  have hfacts : (logOfScarce[1]?.any fun a => a.isRequest && a.saysSpent && a.findsForks) = true ∧
      logOfScarce[2]?.any isRequest = true := by
    decide +kernel
  obtain ⟨a, ha, hrecord⟩ := (Option.any_eq_true _ _).mp hfacts.1
  obtain ⟨b, hb, hpage⟩ := (Option.any_eq_true _ _).mp hfacts.2
  rw [Bool.and_eq_true, Bool.and_eq_true] at hrecord
  exact ⟨a, b, follows_succ ha hb hrecord.1.1 hpage, hrecord.1.2, hrecord.2⟩

/-- So there are answers that say that the quota is spent, and no look at it before the next
request. -/
theorem scarce_unheeded : ∃ a mid b, Follows logOfScarce a mid b ∧ a.saysSpent = true ∧
    ¬∃ x ∈ mid, x.call = .quota := by
  obtain ⟨a, b, hfollows, hspent, -⟩ := follows_scarce
  exact ⟨a, [], b, hfollows, hspent, by simp⟩

theorem quota_heeded_iff_scarce : ∃ a mid b, Follows logOfScarce a mid b ∧ a.saysSpent = true ∧
    ((∃ x ∈ mid, x.call = .quota) ↔ a.findsForks = false) ∧
    ∀ k, a.call = .repository k → a.findsForks = true → mid = [] ∧ b.call = .forkPage k 1 := by
  obtain ⟨a, b, hfollows, hspent, -⟩ := follows_scarce
  exact ⟨a, [], b, hfollows, hspent,
    quota_heeded_iff ((Client.ofBase none "http://localhost").forge (Http.Script.exchange.web 0))
      ⟨"a", "r"⟩ false [1, 1] .scarce hfollows hspent⟩

end Survey

end ForkCensus
