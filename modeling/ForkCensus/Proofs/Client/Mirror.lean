import ForkCensus.Proofs.Catalog.Found
import ForkCensus.Proofs.Client.Answers
import ForkCensus.Proofs.Text.Case
import ForkCensus.Proofs.Text.Cutting

/-
# A server and a catalog

A server mirrors a catalog (`Client.Mirror`) when it answers, at the
addresses of repositories, pages and the quota, with JSON that says what
the catalog holds.  A survey cannot tell the two apart: over HTTP it hands
out the same records and ends in the same way (`Client.drain_mirror`).
One question over HTTP gets the catalog's answer, or a failure with the
catalog's status (`Mirror.toMatch`); the rest is `Forge.Match.drain`.

There is such a server for every catalog whose slugs are without slashes
(`Client.server_mirrors`): it takes an address apart, looks up in the
catalog, and writes the tokens of the answer.
-/

namespace ForkCensus

/-- Neither the owner nor the name has a slash in it, as no name has that the service allows. -/
def Slug.HasNoSlash (k : Slug) : Prop :=
  '/' ∉ k.owner.toList ∧ '/' ∉ k.name.toList

instance (k : Slug) : Decidable k.HasNoSlash :=
  inferInstanceAs (Decidable (_ ∧ _))

theorem Text.Ascii.slash_of_same {s t : String} (h : same s t = true) (ht : '/' ∈ t.toList) :
    '/' ∈ s.toList := by
  refine mem_of_mem_map_toLower (by decide) (by decide) ?_
  rw [same_iff.mp h]
  exact List.mem_map.mpr ⟨'/', ht, by decide⟩

/-- Whatever its spelling, a slug of which a table has one without slashes is without slashes. -/
theorem SlugMap.hasNoSlash {α : Type} {m : SlugMap α} (h : ∀ e ∈ m.entries, e.1.HasNoSlash)
    {k : Slug} (hk : m.contains k = true) : k.HasNoSlash := by
  obtain ⟨a, ha⟩ := contains_iff.mp hk
  obtain ⟨e, he, -⟩ := Option.map_eq_some_iff.mp ha
  have hsame := List.find?_some he
  obtain ⟨howner, hname⟩ := h e (List.mem_of_find?_eq_some he)
  rw [Slug.same, Bool.and_eq_true] at hsame
  exact ⟨fun hslash => howner (Text.Ascii.slash_of_same hsame.1 hslash),
    fun hslash => hname (Text.Ascii.slash_of_same hsame.2 hslash)⟩

namespace Client

open Catalog (built)

/-! ## Servers that mirror a catalog -/

variable {τ : Type}

/-- The address answers with what `P` allows, and the server is in a state with `I` again. -/
def Serves (c : Client) (W : Http.Web τ) (I : τ → Prop) (url : String)
    (P : Http.Response → Prop) : Prop :=
  ∀ t, I t → ∃ r t', W.get ⟨url, c.headers⟩ t = (.ok r, t') ∧ P r ∧ I t'

/-- A server that answers from a catalog, as long as its state has `I`.  It takes the slugs in `K`
for those of repositories, and does not know those that the catalog has not. -/
structure Mirror (c : Client) (W : Http.Web τ) (C : Catalog) (K : Slug → Prop) (I : τ → Prop) :
    Prop where
  known : ∀ {k}, C.repos.contains k = true → K k
  quota : c.Serves W I (c.base ++ "/rate_limit") (Says (WritesQuota C.quota))
  repository : ∀ {k r}, C.record? k = some r →
    c.Serves W I (c.base ++ "/repos/" ++ k.owner ++ "/" ++ k.name) fun reply =>
      Says (Writes r) reply ∧ Http.saysQuotaSpent reply.headers = false
  forkPage : ∀ {k} (page : UInt32), C.repos.contains k = true →
    c.Serves W I (c.base ++ "/repos/" ++ k.owner ++ "/" ++ k.name ++
        "/forks?per_page=100&page=" ++ toString page) fun reply =>
      Says (WritesAll ((C.pageOf k page).filterMap C.record?)) reply ∧
        Http.saysQuotaSpent reply.headers =
          C.spentPages.any fun p => p.1.same k && p.2 == page
  unknown : ∀ {k}, K k → C.repos.contains k = false →
    c.Serves W I (c.base ++ "/repos/" ++ k.owner ++ "/" ++ k.name) (·.status = 404)
  unknownPage : ∀ {k} (page : UInt32), K k → C.repos.contains k = false →
    c.Serves W I (c.base ++ "/repos/" ++ k.owner ++ "/" ++ k.name ++
      "/forks?per_page=100&page=" ++ toString page) (·.status = 404)
  note : ∀ e {t}, I t → I (W.note e t)
  pause : ∀ seconds {t}, I t → I (W.pause seconds t)

/-- Two failures with the same status, whatever the addresses. -/
inductive SameStatus : ApiError → ApiError → Prop
  | status (code : UInt16) (url url' : String) : SameStatus (.status code url) (.status code url')

/-- An ending that is the same as another is the end of the records, or a failure with a status. -/
theorem SameStatus.ending {a b : Option Ending} (h : Ending.Same SameStatus a b) (hb : b ≠ none) :
    a = some .complete ∨ ∃ code url, a = some (.broken (.status code url)) := by
  cases h with
  | unfinished => exact absurd rfl hb
  | complete => exact Or.inl rfl
  | broken he =>
      obtain ⟨code, url, _⟩ := he
      exact Or.inr ⟨code, url, rfl⟩

namespace Mirror

variable {c : Client} {W : Http.Web τ} {C : Catalog} {K : Slug → Prop} {I : τ → Prop}

/-- A question gets what its address serves, where that is no refusal. -/
theorem ask (h : c.Mirror W C K I) {url : String} {P : Http.Response → Prop}
    (hserves : c.Serves W I url P) (hP : ∀ r, P r → r.status ≠ 403) {α : Type}
    (take? : Json → Option α) {t : τ} (ht : I t) :
    ∃ r t', c.ask W take? url t = (answered take? url (.ok r), t') ∧ P r ∧ I t' := by
  obtain ⟨r, t', hget, hr, ht'⟩ := hserves _ (h.note (.requesting url) ht)
  have hreply : Http.isLimited (.ok r) = false := by
    rw [Http.isLimited, decide_eq_false (hP r hr), Bool.false_and]
  exact ⟨r, t', ask_of_get hget hreply, hr, ht'⟩

theorem ask_served (h : c.Mirror W C K I) {url : String} {P : Json → Prop} {spent : Bool} {α : Type}
    {take? : Json → Option α} {a : α}
    (hserves : c.Serves W I url fun r => Says P r ∧ Http.saysQuotaSpent r.headers = spent)
    (htake : ∀ v, P v → take? v = some a) {t : τ} (ht : I t) :
    ∃ t', c.ask W take? url t = (.ok ⟨a, spent⟩, t') ∧ I t' := by
  obtain ⟨r, t', hask, ⟨hbrings, rfl⟩, ht'⟩ :=
    h.ask hserves (fun r hr => by rw [hr.1.1]; decide) take? ht
  exact ⟨t', by rw [hask, hbrings.answered htake], ht'⟩

theorem ask_unknown (h : c.Mirror W C K I) {url : String}
    (hserves : c.Serves W I url (·.status = 404)) {α : Type} (take? : Json → Option α) {t : τ}
    (ht : I t) : ∃ t', c.ask W take? url t = (.error (.status 404 url), t') ∧ I t' := by
  obtain ⟨r, t', hask, hstatus, ht'⟩ :=
    h.ask hserves (fun r hr => by rw [hr]; decide) take? ht
  exact ⟨t', by rw [hask, answered_missing hstatus], ht'⟩

theorem awaitQuota (h : c.Mirror W C K I) {t : τ} (ht : I t) :
    ∃ t', (c.gate W).awaitQuota t = (.ok (), t') ∧ I t' := by
  have htells : c.TellsQuota W I := by
    intro t ht
    obtain ⟨r, t', hget, hr, ht'⟩ := h.quota t ht
    exact ⟨r, t', C.quota, hget, hr.1, hr.decode (fun v => quotaOf?_of_writesQuota) _, ht'⟩
  exact htells.awaitQuota (fun e t => h.note e) (fun seconds t => h.pause seconds) ht

/-- **A server and the catalog that it mirrors match**, wherever a survey can come. -/
theorem toMatch (h : c.Mirror W C K I) (hC : C.WellKept) (clock : Nat → Int64) :
    Forge.Match K SameStatus (fun t _ => I t) (c.forge W) (C.still clock) where
  note e ht := h.note e ht
  awaitQuota {t calls} ht := by
    -- Both gates open, even where the clocks do not agree on how long to wait.
    obtain ⟨t', hours, ht'⟩ := h.awaitQuota ht
    obtain ⟨calls', htheirs⟩ := hC.awaitQuota clock calls
    rw [show (c.forge W).awaitQuota t = _ from hours, htheirs]
    exact ⟨.ok trivial, ht'⟩
  repository {t calls k} hk ht := by
    show Both _ _ (c.ask W recordOf? (c.repositoryUrl k) t)
      (C.answerRepository k, calls ++ [.repository k])
    cases hcontains : C.repos.contains k with
    | true =>
        obtain ⟨r, hr⟩ := Catalog.exists_record hcontains
        obtain ⟨t', hask, ht'⟩ := h.ask_served (h.repository hr) (fun _ => recordOf?_of_writes) ht
        rw [repositoryUrl_eq, hask, hC.answerRepository hr]
        exact ⟨.ok (h.known (Catalog.contains_of_record (hC.record_slug hr))), ht'⟩
    | false =>
        obtain ⟨t', hask, ht'⟩ := h.ask_unknown (h.unknown hk hcontains) recordOf? ht
        rw [repositoryUrl_eq, hask, hC.answerRepository_unknown hcontains]
        exact ⟨.error (.status _ _ _), ht'⟩
  forkPage {t calls k} page hk ht := by
    show Both _ _ (c.ask W recordsOf? (c.pageUrl k page) t)
      (C.answerPage k page, calls ++ [.forkPage k page])
    cases hcontains : C.repos.contains k with
    | true =>
        obtain ⟨t', hask, ht'⟩ :=
          h.ask_served (h.forkPage page hcontains) (fun _ => recordsOf?_of_writesAll) ht
        rw [pageUrl_eq, hask, hC.answerPage hcontains]
        refine ⟨.ok fun r hr => ?_, ht'⟩
        obtain ⟨j, -, hjr⟩ := List.mem_filterMap.mp hr
        exact h.known (Catalog.contains_of_record (hC.record_slug hjr))
    | false =>
        obtain ⟨t', hask, ht'⟩ := h.ask_unknown (h.unknownPage page hk hcontains) recordsOf? ht
        rw [pageUrl_eq, hask, hC.answerPage_unknown hcontains]
        exact ⟨.error (.status _ _ _), ht'⟩

end Mirror

/-! ## A server for every catalog -/

/-- What a server answers about a repository. -/
def recordReply (C : Catalog) (k : Slug) : Http.Response :=
  match C.record? k with
  | some r => reply 200 [] (recordTokens r)
  | none => reply 404 [] []

/-- What it answers when asked for a page of forks. -/
def pageReply (C : Catalog) (k : Slug) (page : UInt32) : Http.Response :=
  if C.repos.contains k then
    let spent := C.spentPages.any fun p => p.1.same k && p.2 == page
    reply 200 (if spent then [.ofText Http.remainingHeader "0"] else [])
      (pageTokens ((C.pageOf k page).filterMap C.record?))
  else reply 404 [] []

/-- What stands before the number of a page. -/
def pageQuery : String := "forks?per_page=100&page="

/-- What it answers at an address, given the part behind the client's base address.  What does not
have the form of a record's or a page's address is the quota's. -/
def serve (C : Catalog) (path : List Char) : Http.Response :=
  match Text.pieces (· == '/') path with
  | [_, _, owner, name] => recordReply C ⟨.ofList owner, .ofList name⟩
  | [_, _, owner, name, query] =>
    let page := Nat.ofDigitChars 10 (query.drop pageQuery.toList.length) 0
    pageReply C ⟨.ofList owner, .ofList name⟩ (.ofNat page)
  | _ => reply 200 [] (quotaTokens C.quota)

/-- A server that answers from a catalog. -/
def server (c : Client) (C : Catalog) : Http.Web Unit where
  get r s := (.ok (serve C (r.url.toList.drop c.base.toList.length)), s)
  pause _ s := s
  now _ := 0
  note _ s := s

theorem not_slash {s : List Char} (h : '/' ∉ s) : ∀ c ∈ s, (c == '/') = false := by
  intro c hc
  refine beq_eq_false_iff_ne.mpr ?_
  rintro rfl
  exact h hc

theorem server_get (c : Client) (C : Catalog) (rest : String) (headers : List Http.Header)
    (s : Unit) : (c.server C).get ⟨c.base ++ rest, headers⟩ s = (.ok (serve C rest.toList), s) := by
  have hdrop : (c.base ++ rest).toList.drop c.base.toList.length = rest.toList := by
    rw [String.toList_append, List.drop_left]
  show (Except.ok (serve C ((c.base ++ rest).toList.drop c.base.toList.length)), s) = _
  rw [hdrop]

/-- The pieces of the part of an address that is the same for all questions about a repository. -/
theorem pieces_repository {k : Slug} (hk : k.HasNoSlash) (rest : List Char) :
    Text.pieces (· == '/') ("/repos/".toList ++ (k.owner.toList ++ '/' :: rest)) =
      [] :: "repos".toList :: k.owner.toList :: Text.pieces (· == '/') rest := by
  have hrepos : ∀ c ∈ "repos".toList, (c == '/') = false := not_slash (by decide)
  show Text.pieces (· == '/') ([] ++ '/' :: ("repos".toList ++ '/' ::
    (k.owner.toList ++ '/' :: rest))) = _
  rw [Text.pieces_append (a := []) nofun rfl, Text.pieces_append hrepos rfl,
    Text.pieces_append (not_slash hk.1) rfl]

theorem server_record {k : Slug} (hk : k.HasNoSlash) (c : Client) (C : Catalog)
    (headers : List Http.Header) (s : Unit) :
    (c.server C).get ⟨c.base ++ "/repos/" ++ k.owner ++ "/" ++ k.name, headers⟩ s =
      (.ok (recordReply C k), s) := by
  have hpath : ("/repos/" ++ (k.owner ++ ("/" ++ k.name))).toList =
      "/repos/".toList ++ (k.owner.toList ++ '/' :: k.name.toList) := by
    simp [String.toList_append]
  simp only [String.append_assoc]
  rw [server_get, serve, hpath, pieces_repository hk, Text.pieces_single (not_slash hk.2)]
  simp only [String.ofList_toList]

theorem server_page {k : Slug} (hk : k.HasNoSlash) (c : Client) (C : Catalog) (page : UInt32)
    (headers : List Http.Header) (s : Unit) :
    (c.server C).get ⟨c.base ++ "/repos/" ++ k.owner ++ "/" ++ k.name ++
      "/forks?per_page=100&page=" ++ toString page, headers⟩ s = (.ok (pageReply C k page), s) := by
  have hdigits : (toString page).toList = Nat.toDigits 10 page.toNat := by
    rw [show toString page = toString page.toNat from rfl, Nat.toString_eq_ofList_toDigits,
      String.toList_ofList]
  have hpath : ("/repos/" ++ (k.owner ++ ("/" ++ (k.name ++ ("/forks?per_page=100&page=" ++
      toString page))))).toList = "/repos/".toList ++ (k.owner.toList ++ '/' ::
        (k.name.toList ++ '/' :: (pageQuery.toList ++ (toString page).toList))) := by
    simp [String.toList_append, pageQuery]
  have hquery : ∀ c ∈ pageQuery.toList ++ (toString page).toList, (c == '/') = false := by
    refine not_slash fun h => ?_
    rcases List.mem_append.mp h with h | h
    · exact absurd h (by decide)
    · rw [hdigits] at h
      exact absurd (Json.Token.all_isDigit_toDigits _ _ h) (by decide)
  simp only [String.append_assoc]
  rw [server_get, serve, hpath, pieces_repository hk, Text.pieces_append (not_slash hk.2) rfl,
    Text.pieces_single hquery]
  simp only [List.drop_left, String.ofList_toList, hdigits, Nat.ofDigitChars_ten_toDigits,
    UInt32.ofNat_toNat]

/-- **There is a mirror for every catalog** whose slugs are without slashes. -/
theorem server_mirrors (c : Client) {C : Catalog}
    (hC : ∀ e ∈ C.repos.entries, e.1.HasNoSlash) :
    c.Mirror (c.server C) C Slug.HasNoSlash fun _ => True where
  known hk := SlugMap.hasNoSlash hC hk
  quota s _ := by
    rw [server_get]
    exact ⟨_, s, rfl, says_quota [] C.quota, trivial⟩
  repository {k r} hr s _ := by
    have hk := SlugMap.hasNoSlash hC (Catalog.contains_of_record hr)
    refine ⟨_, s, server_record hk c C _ s, ?_, trivial⟩
    rw [recordReply, hr]
    exact ⟨says_record [] r, rfl⟩
  forkPage {k} page hk s _ := by
    refine ⟨_, s, server_page (SlugMap.hasNoSlash hC hk) c C page _ s, ?_, trivial⟩
    rw [pageReply, if_pos hk]
    refine ⟨says_page _ _, ?_⟩
    show Http.saysQuotaSpent (if _ then _ else _) = _
    split
    · rename_i hspent
      rw [Http.saysQuotaSpent_zero, hspent]
    · rename_i hspent
      rw [Bool.not_eq_true] at hspent
      rw [hspent]
      rfl
  unknown {k} hk hunknown s _ := by
    refine ⟨_, s, server_record hk c C _ s, ?_, trivial⟩
    rw [recordReply, Catalog.record?_eq_none hunknown]
    rfl
  unknownPage {k} page hk hunknown s _ := by
    refine ⟨_, s, server_page hk c C page _ s, ?_, trivial⟩
    rw [pageReply, if_neg (Bool.eq_false_iff.mp hunknown)]
    rfl
  note _ _ _ := trivial
  pause _ _ _ := trivial

/-! ## Surveys -/

/-- **Over HTTP a survey is the same as of the catalog.**  However a catalog was built, and whatever
server mirrors it: from every repository that the server takes for one, known or not, the survey
hands out the same records and ends in the same way, be it with the last record or with a failure of
the same status.  And it does end, within the budget of the catalog. -/
theorem drain_mirror {c : Client} {W : Http.Web τ} {edits : List Catalog.Edit} {K : Slug → Prop}
    {I : τ → Prop} (h : c.Mirror W (built edits) K I) (clock : Nat → Int64) (calls : List Call)
    {t : τ} (ht : I t) {root : Slug} (hroot : K root) (recursive : Bool) (budget : Nat) :
    let ours := (Survey.start root recursive).drain (c.forge W) budget t
    let theirs :=
      (Survey.start root recursive).drain (Catalog.forge clock) budget (calls, built edits)
    ours.1 = theirs.1 ∧ Ending.Same SameStatus ours.2.1 theirs.2.1 ∧
      ((∀ k, (built edits).pageCount k < 2 ^ 32 - 1) →
        (built edits).budget (.start root recursive) ≤ budget →
          ours.2.1 = some .complete ∨
            ∃ code url, ours.2.1 = some (.broken (.status code url))) := by
  intro ours theirs
  have hC := Catalog.built_wellKept edits
  obtain ⟨hrecords, hending, -⟩ := (h.toMatch hC clock).drain budget (.start hroot recursive)
    (s := t) (t := calls) ht
  obtain ⟨hrecords', hending', -⟩ := ((built edits).forge_alike_still clock).drain budget
    (.start root recursive) (s := (calls, built edits)) (t := calls) rfl
  refine ⟨hrecords.trans hrecords'.symm, ?_, ?_⟩
  · show Ending.Same SameStatus ours.2.1 theirs.2.1
    rw [show theirs.2.1 = _ from hending']
    exact hending
  · intro hpages hbudget
    exact SameStatus.ending hending (Catalog.drain_ends hC hpages root hbudget clock calls)

/-- A catalog of a repository and a fork of it, without quota from the first page on. -/
def pair : List Catalog.Edit :=
  [.fork ⟨"a", "r"⟩ ⟨"b", "r"⟩, .spentPage ⟨"a", "r"⟩ 1, .quota ⟨0, 60⟩]

theorem drain_mirror_pair :
    ((Survey.start ⟨"a", "r"⟩ true).drain (guest.forge (guest.server (built pair))) 40 ()).1.map
        Repository.slug = [⟨"a", "r"⟩, ⟨"b", "r"⟩] ∧
      ((Survey.start ⟨"a", "r"⟩ true).drain (guest.forge (guest.server (built pair))) 40 ()).2.1 =
        some .complete := by
  have hslashes : ∀ e ∈ (built pair).repos.entries, e.1.HasNoSlash := by decide +kernel
  have hroot : (⟨"a", "r"⟩ : Slug).HasNoSlash := by decide +kernel
  have hrecords : ((Survey.start ⟨"a", "r"⟩ true).drain (Catalog.forge fun _ => 0) 40
      ([], built pair)).1.map Repository.slug = [⟨"a", "r"⟩, ⟨"b", "r"⟩] := by decide +kernel
  have hending : ((Survey.start ⟨"a", "r"⟩ true).drain (Catalog.forge fun _ => 0) 40
      ([], built pair)).2.1 = some .complete := by decide +kernel
  obtain ⟨hsame, hends, -⟩ :=
    drain_mirror (server_mirrors guest hslashes) (fun _ => 0) [] trivial hroot true 40
  exact ⟨(congrArg (List.map Repository.slug) hsame).trans hrecords, hends.complete_of hending⟩

end Client

end ForkCensus
