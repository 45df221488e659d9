import Mathlib.Data.List.Induction
import ForkCensus.Proofs.Client.Requests
import ForkCensus.Proofs.Url.Server
import ForkCensus.Settings.Basic

/-
# Where requests are sent

A base address can be used if it begins with the mark of a scheme of the
web, whatever stands behind it, and a client keeps it without the slashes
at its end.  Where nothing but slashes stands behind the mark, the mark
loses its own, and what is kept is no base any more.

Requests go to the server of the base as long as something in it is there
to be a host.  Where nothing is, the segment that the client puts behind
the base is the first thing that can be one, and it is
(`Client.destination_exact`).  The two conditions are not the same: where
backslashes, tabs and line breaks stand behind the mark, a base is kept,
and is without a host all the same.
-/

namespace ForkCensus

namespace Settings

/-- **A base is a scheme of the web and its mark**, and anything behind them. -/
theorem isBase_iff {base : String} : isBase base = true ↔
    ∃ scheme rest, (scheme = "http" ∨ scheme = "https") ∧ base = scheme ++ "://" ++ rest := by
  have hbegins (start : String) : Text.begins start base = true ↔ ∃ rest, base = start ++ rest := by
    rw [Text.begins, List.isPrefixOf_iff_prefix]
    constructor
    · rintro ⟨rest, hrest⟩
      refine ⟨String.ofList rest, String.toList_inj.mp ?_⟩
      rw [String.toList_append, String.toList_ofList, hrest]
    · rintro ⟨rest, rfl⟩
      exact ⟨rest.toList, String.toList_append.symm⟩
  rw [isBase, Bool.or_eq_true, hbegins, hbegins]
  constructor
  · rintro (⟨rest, rfl⟩ | ⟨rest, rfl⟩)
    · exact ⟨"https", rest, Or.inr rfl, rfl⟩
    · exact ⟨"http", rest, Or.inl rfl, rfl⟩
  · rintro ⟨_, rest, rfl | rfl, rfl⟩
    · exact Or.inr ⟨rest, rfl⟩
    · exact Or.inl ⟨rest, rfl⟩

end Settings

namespace Client

/-! ## Slashes at the end -/

theorem exists_slashes (rest : List Char) : ∃ front slashes : List Char, rest = front ++ slashes ∧
    (∀ c ∈ slashes, c = '/') ∧ ∀ c ∈ front.getLast?, c ≠ '/' := by
  induction rest using List.reverseRecOn with
  | nil => exact ⟨[], [], rfl, nofun, nofun⟩
  | append_singleton rest c ih =>
      by_cases hc : c = '/'
      · obtain ⟨front, slashes, rfl, hslashes, hlast⟩ := ih
        refine ⟨front, slashes ++ [c], List.append_assoc .., ?_, hlast⟩
        exact List.forall_mem_append.mpr ⟨hslashes, fun d hd => List.mem_singleton.mp hd ▸ hc⟩
      · refine ⟨rest ++ [c], [], (List.append_nil _).symm, nofun, ?_⟩
        rw [List.getLast?_concat]
        rintro _ ⟨⟩
        exact hc

theorem trim_slashes {front slashes : List Char} (hslashes : ∀ c ∈ slashes, c = '/')
    (hlast : ∀ c ∈ front.getLast?, c ≠ '/') :
    ((front ++ slashes).reverse.dropWhile (· == '/')).reverse = front := by
  have hpos : ∀ c ∈ slashes.reverse, (c == '/') = true := fun c hc =>
    beq_iff_eq.mpr (hslashes c (List.mem_reverse.mp hc))
  have hfront : front.reverse.dropWhile (· == '/') = front.reverse :=
    Text.dropWhile_head fun c hc => beq_false_of_ne (hlast c (by rwa [List.head?_reverse] at hc))
  rw [List.reverse_append, List.dropWhile_append_of_pos hpos, hfront, List.reverse_reverse]

/-- A base, cut before the slashes at its end. -/
structure Trimmed (base scheme : String) (front slashes : List Char) : Prop where
  base_eq : base.toList = scheme.toList ++ ':' :: '/' :: '/' :: (front ++ slashes)
  slashes_eq : ∀ c ∈ slashes, c = '/'
  last : ∀ c ∈ front.getLast?, c ≠ '/'

/-- What stands behind the colon in the base that is kept: where nothing but slashes stands behind the
mark, the mark loses its own. -/
def keptBehind (front : List Char) : List Char :=
  if front = [] then [] else '/' :: '/' :: front

theorem toList_base_ofBase (who : Option Credentials) {base scheme : String}
    {front slashes : List Char} (h : Trimmed base scheme front slashes) :
    (ofBase who base).base.toList = scheme.toList ++ ':' :: keptBehind front := by
  obtain ⟨hbase, hslashes, hlast⟩ := h
  rw [ofBase, String.toList_ofList, keptBehind]
  split
  · rename_i hfront
    have hshape : base.toList = scheme.toList ++ [':'] ++ '/' :: '/' :: slashes := by
      rw [hbase, hfront, List.append_assoc]
      rfl
    have hmore : ∀ c ∈ '/' :: '/' :: slashes, c = '/' := by simpa using hslashes
    have hcolon : ∀ c ∈ (scheme.toList ++ [':']).getLast?, c ≠ '/' := by
      rw [List.getLast?_concat]
      rintro _ ⟨⟩
      decide
    rw [hshape, trim_slashes hmore hcolon]
  · rename_i hfront
    have hshape : base.toList = scheme.toList ++ ':' :: '/' :: '/' :: front ++ slashes := by
      rw [hbase, List.append_assoc]
      rfl
    have hend : ∀ c ∈ (scheme.toList ++ ':' :: '/' :: '/' :: front).getLast?, c ≠ '/' := by
      rw [List.getLast?_eq_some_getLast hfront] at hlast
      rw [List.getLast?_append, List.getLast?_cons, List.getLast?_cons, List.getLast?_cons,
        List.getLast?_eq_some_getLast hfront]
      exact hlast
    rw [hshape, trim_slashes hslashes hend]

/-! ## Addresses -/

/-- The addresses that a client builds, each with the segment that stands behind the base. -/
inductive Builds (c : Client) : String → String → Prop
  | quota : Builds c "rate_limit" c.quotaUrl
  | repository (k : Slug) : Builds c "repos" (c.repositoryUrl k)
  | forkPage (k : Slug) (page : UInt32) : Builds c "repos" (c.pageUrl k page)

theorem Builds.shape {c : Client} {segment url : String} (h : c.Builds segment url) :
    ∃ tail : List Char, (∀ x ∈ tail.head?, x = '/') ∧
      url.toList = c.base.toList ++ '/' :: (segment.toList ++ tail) := by
  cases h with
  | quota =>
      refine ⟨[], nofun, ?_⟩
      rw [quotaUrl_eq, String.toList_append, List.append_nil]
      rfl
  | repository k =>
      refine ⟨'/' :: (k.owner ++ "/" ++ k.name).toList, fun x hx => (Option.some.inj hx).symm, ?_⟩
      rw [repositoryUrl_eq]
      simp only [String.toList_append, List.append_assoc]
      rfl
  | forkPage k page =>
      refine ⟨'/' :: (k.owner ++ "/" ++ k.name ++ "/forks?per_page=100&page=" ++
        toString page).toList, fun x hx => (Option.some.inj hx).symm, ?_⟩
      rw [pageUrl_eq]
      simp only [String.toList_append, List.append_assoc]
      rfl

/-- The segment is one that can be the name of a host. -/
theorem Builds.host {c : Client} {segment url : String} (h : c.Builds segment url) :
    segment.toList ≠ [] ∧ Url.Host.ofText? segment.toList = some (.name segment) := by
  cases h <;> exact ⟨by decide, by decide +kernel⟩

theorem Builds.plain {c : Client} {segment url : String} (h : c.Builds segment url) :
    ∀ x ∈ segment.toList, 0x20 < x.toNat ∧ (x ≠ '/' ∧ x ≠ '\\' ∧ x ≠ '?' ∧ x ≠ '#') ∧
      x ≠ '@' ∧ x ≠ ':' ∧ x ≠ '[' ∧ x ≠ ']' := by
  cases h <;> exact Text.forall_mem_of_all (by decide)

/-! ## The server that is asked -/

/-- Where a client for a base sends its requests, by what stands behind the mark of the scheme. -/
structure Directed (c : Client) (base scheme rest : String) : Prop where
  /-- What is kept of the base is a base where there is more than slashes. -/
  kept : Settings.isBase c.base = true ↔ ∃ x ∈ rest.toList, x ≠ '/'
  /-- Then every address begins with a scheme and its mark, and not otherwise. -/
  begun : ∀ segment url, c.Builds segment url →
    (Settings.isBase url = true ↔ ∃ x ∈ rest.toList, x ≠ '/')
  /-- Where there is a host, or something in its place, every request goes to the server of the
  base. -/
  given : (∃ x ∈ rest.toList, Url.isPassed x = false) →
    ∀ segment url, c.Builds segment url → Url.server? url = Url.server? (base ++ "/")
  /-- Where there is none, the base is no address; every request goes to the server that has the name
  of the first segment behind the base. -/
  astray : (∀ x ∈ rest.toList, Url.isPassed x = true) →
    Url.server? (base ++ "/") = none ∧ ∀ segment url, c.Builds segment url →
      Url.server? url = some ⟨scheme, none, some (.name segment), none⟩
  /-- A slash at the end of the base is of no importance, but where blanks stand before it. -/
  slash : (∀ x ∈ base.toList.getLast?, 0x20 < x.toNat) →
    Url.server? (base ++ "/") = Url.server? base

section

variable {scheme base : String} {port : UInt16} {front slashes : List Char}

theorem Builds.server?_given (who : Option Credentials) (hs : Url.WebScheme scheme port)
    (htrimmed : Trimmed base scheme front slashes)
    (hhost : ∃ x ∈ front, Url.isPassed x = false) {segment url : String} (h : (ofBase who base).Builds segment url) : Url.server? url = Url.server? (base ++ "/") := by
  have hbehind : ∃ x ∈ '/' :: '/' :: front, Url.isPassed x = false := by
    obtain ⟨x, hx, hpassed⟩ := hhost
    exact ⟨x, List.mem_cons_of_mem _ (List.mem_cons_of_mem _ hx), hpassed⟩
  have hfront : front ≠ [] := List.ne_nil_of_mem hhost.choose_spec.1
  obtain ⟨tail, -, hurl⟩ := h.shape
  rw [toList_base_ofBase who htrimmed, keptBehind, if_neg hfront] at hurl
  -- The slashes at the end of the base are followed by the one that is put behind it.
  obtain ⟨rest, hrest⟩ : ∃ rest, slashes ++ ['/'] = '/' :: rest := by
    cases slashes with
    | nil => exact ⟨[], rfl⟩
    | cons x slashes =>
        rw [htrimmed.slashes_eq x List.mem_cons_self]
        exact ⟨slashes ++ ['/'], rfl⟩
  have hslash : (base ++ "/").toList =
      scheme.toList ++ ':' :: ('/' :: '/' :: front ++ '/' :: rest) := by
    rw [String.toList_append, htrimmed.base_eq, ← hrest]
    simp
  have hbuilt := Url.server?_behind hs hbehind (segment.toList ++ tail)
  have hgiven := Url.server?_behind hs hbehind rest
  have hshape : url.toList =
      scheme.toList ++ ':' :: ('/' :: '/' :: front ++ '/' :: (segment.toList ++ tail)) := by
    rw [hurl, List.append_assoc]
    rfl
  rw [← hshape, String.ofList_toList] at hbuilt
  rw [← hslash, String.ofList_toList] at hgiven
  rw [hbuilt, hgiven]

theorem Builds.server?_astray (who : Option Credentials) (hs : Url.WebScheme scheme port)
    (htrimmed : Trimmed base scheme front slashes)
    (hpassed : ∀ x ∈ front, Url.isPassed x = true) {segment url : String}
    (h : (ofBase who base).Builds segment url) :
    Url.server? url = some ⟨scheme, none, some (.name segment), none⟩ := by
  have hbehind : ∀ x ∈ keptBehind front, Url.isPassed x = true := by
    rw [keptBehind]
    split
    · nofun
    · simpa [Url.isPassed] using hpassed
  have hends {x : Char} (hx : x ∈ segment.toList) : (Url.Kind.web port).endsHost x = false := by
    obtain ⟨-, ⟨hslash, hback, hquery, hfragment⟩, -⟩ := h.plain x hx
    rw [Url.Kind.endsHost, Url.Kind.isSlash_eq_false hslash hback, beq_false_of_ne hquery,
      beq_false_of_ne hfragment]
    rfl
  obtain ⟨hne, hname⟩ := h.host
  obtain ⟨tail, htail, hurl⟩ := h.shape
  rw [toList_base_ofBase who htrimmed, List.append_assoc, List.cons_append] at hurl
  have hserver := Url.server?_segment hs hbehind
    (fun x hx => ⟨(h.plain x hx).1, hends hx⟩) hne htail
  rw [← hurl, String.ofList_toList] at hserver
  rw [hserver, Url.serverOf?_host hne (fun x hx => (h.plain x hx).2.2) hname]

/-- The mark is kept exactly if there is more than slashes behind it; what is put behind the base
does not make up for it. -/
theorem isBase_ofBase_iff (who : Option Credentials) (hscheme : scheme = "http" ∨ scheme = "https")
    (htrimmed : Trimmed base scheme front slashes) :
    (Settings.isBase (ofBase who base).base = true ↔ ∃ x ∈ front ++ slashes, x ≠ '/') ∧
      ∀ segment url, (ofBase who base).Builds segment url →
        (Settings.isBase url = true ↔ ∃ x ∈ front ++ slashes, x ≠ '/') := by
  have hkept := toList_base_ofBase who htrimmed
  by_cases hfront : front = []
  · have hno : ¬∃ x ∈ front ++ slashes, x ≠ '/' := by
      rw [hfront]
      exact fun ⟨x, hx, hne⟩ => hne (htrimmed.slashes_eq x hx)
    rw [keptBehind, if_pos hfront] at hkept
    refine ⟨iff_of_false ?_ hno, fun segment url hurl => iff_of_false ?_ hno⟩
    · rw [Settings.isBase, Text.begins, Text.begins, hkept]
      rcases hscheme with rfl | rfl <;> decide
    · obtain ⟨tail, -, hshape⟩ := hurl.shape
      rw [Settings.isBase, Text.begins, Text.begins, hshape, hkept]
      rcases hscheme with rfl | rfl <;> cases hurl <;> exact Bool.false_ne_true
  · have hmem : front.getLast hfront ∈ front ++ slashes :=
      List.mem_append_left _ (List.getLast_mem hfront)
    have hyes : ∃ x ∈ front ++ slashes, x ≠ '/' :=
      ⟨_, hmem, htrimmed.last _ (List.getLast?_eq_some_getLast hfront)⟩
    have hmark : (ofBase who base).base = scheme ++ "://" ++ String.ofList front := by
      rw [← String.toList_inj, hkept, keptBehind, if_neg hfront]
      simp
    refine ⟨iff_of_true (Settings.isBase_iff.mpr ⟨scheme, _, hscheme, hmark⟩) hyes,
      fun segment url hurl => iff_of_true (Settings.isBase_iff.mpr ?_) hyes⟩
    obtain ⟨tail, -, hshape⟩ := hurl.shape
    refine ⟨scheme, String.ofList front ++ "/" ++ segment ++ String.ofList tail, hscheme, ?_⟩
    rw [← String.toList_inj, hshape, hmark]
    simp

end

/-- **Where the requests of a client go.**  A base that can be used is a scheme of the web, its mark,
and anything.  The client keeps it a base exactly if there is more than slashes behind the mark; its
requests go to the server of the base exactly if there is more than what is passed over before a host.
Otherwise they go where the base never led: to the server with the name of their own first segment. -/
theorem destination_exact (who : Option Credentials) {base : String}
    (h : Settings.isBase base = true) :
    ∃ scheme rest, (scheme = "http" ∨ scheme = "https") ∧ base = scheme ++ "://" ++ rest ∧
      Directed (ofBase who base) base scheme rest := by
  obtain ⟨scheme, rest, hscheme, rfl⟩ := Settings.isBase_iff.mp h
  refine ⟨scheme, rest, hscheme, rfl, ?_⟩
  obtain ⟨port, hs⟩ : ∃ port, Url.WebScheme scheme port := by
    rcases hscheme with rfl | rfl
    · exact ⟨_, .http⟩
    · exact ⟨_, .https⟩
  obtain ⟨front, slashes, hrest, hslashes, hlast⟩ := exists_slashes rest.toList
  have hbehind : (scheme ++ "://" ++ rest).toList =
      scheme.toList ++ ':' :: ('/' :: '/' :: rest.toList) := by
    rw [String.toList_append, String.toList_append, List.append_assoc]
    rfl
  have htrimmed : Trimmed (scheme ++ "://" ++ rest) scheme front slashes :=
    ⟨by rw [hbehind, hrest], hslashes, hlast⟩
  have hslash : (scheme ++ "://" ++ rest ++ "/").toList =
      scheme.toList ++ ':' :: ('/' :: '/' :: rest.toList ++ ['/']) := by
    rw [String.toList_append, hbehind, List.append_assoc]
    rfl
  have hpassed {x : Char} (hx : x ∈ slashes) : Url.isPassed x = true := by
    rw [hslashes x hx]
    rfl
  obtain ⟨hkept, hbegun⟩ := isBase_ofBase_iff who hscheme htrimmed
  rw [← hrest] at hkept hbegun
  refine ⟨hkept, hbegun, ?_, ?_, ?_⟩
  · rintro ⟨x, hx, hhost⟩ segment url hurl
    refine hurl.server?_given who hs htrimmed ⟨x, ?_, hhost⟩
    rw [hrest] at hx
    refine (List.mem_append.mp hx).resolve_right fun hx => ?_
    rw [hpassed hx] at hhost
    cases hhost
  · intro hall
    refine ⟨?_, fun segment url hurl => ?_⟩
    · have hall' : ∀ x ∈ '/' :: '/' :: rest.toList, Url.isPassed x = true := by
        simpa [Url.isPassed] using hall
      have hnone := Url.server?_passed hs hall'
      rwa [← hslash, String.ofList_toList] at hnone
    · refine hurl.server?_astray who hs htrimmed fun x hx => hall x ?_
      rw [hrest]
      exact List.mem_append_left _ hx
  · intro hend
    rw [hbehind, List.getLast?_append, List.getLast?_cons_cons,
      List.getLast?_eq_some_getLast (List.cons_ne_nil '/' _), Option.some_or,
      ← List.getLast?_eq_some_getLast] at hend
    have hsame := Url.server?_slash hs hend
    rwa [← hslash, ← hbehind, String.ofList_toList, String.ofList_toList] at hsame

/-- A base with a path and slashes at its end leads where it says. -/
theorem destination_exact_path :
    let base := "https://forge.example/api/v3//"
    let server : Url.Server := ⟨"https", none, some (.name "forge.example"), none⟩
    Settings.isBase base = true ∧ (ofBase none base).base = "https://forge.example/api/v3" ∧
      Url.server? base = some server ∧
      Url.server? ((ofBase none base).repositoryUrl ⟨"a", "r"⟩) = some server := by
  intro base server
  have hisBase : Settings.isBase base = true := by decide +kernel
  have hserver : Url.server? base = some server := by decide +kernel
  have hlast : ∀ x ∈ base.toList.getLast?, 0x20 < x.toNat := by
    have hend : base.toList.getLast? = some '/' := by decide +kernel
    rw [hend]
    rintro _ ⟨⟩
    decide
  obtain ⟨scheme, rest, -, -, hdirected⟩ := destination_exact none hisBase
  have hslash := hdirected.slash hlast
  have hhost : ∃ x ∈ rest.toList, Url.isPassed x = false := by
    by_contra hno
    have hnone := (hdirected.astray (by simpa using hno)).1
    rw [hslash, hserver] at hnone
    cases hnone
  refine ⟨hisBase, by decide +kernel, hserver, ?_⟩
  rw [hdirected.given hhost _ _ (.repository ⟨"a", "r"⟩), hslash, hserver]

/-- A mark with nothing behind it can be used as a base, and requests with credentials go to hosts
that nobody named. -/
theorem bare_mark_astray :
    let c := ofBase (some ⟨"me", some "secret"⟩) "http://"
    Settings.isBase "http://" = true ∧ c.base = "http:" ∧ Settings.isBase c.base = false ∧
      Url.server? c.quotaUrl = some ⟨"http", none, some (.name "rate_limit"), none⟩ ∧
      Url.server? (c.repositoryUrl ⟨"a", "r"⟩) = some ⟨"http", none, some (.name "repos"), none⟩ ∧
      Url.server? (c.pageUrl ⟨"a", "r"⟩ 1) = some ⟨"http", none, some (.name "repos"), none⟩ ∧
      Http.basicAuth "me" (some "secret") ∈ c.headers := by
  decide +kernel

end Client

end ForkCensus
