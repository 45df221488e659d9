import ForkCensus.Forge.Client
import ForkCensus.Proofs.Source.Reading
import ForkCensus.Proofs.Url.Hosted
import ForkCensus.Settings.Basic

/-
# Repositories that can be asked for

The owner and the name of a repository are put into an address as they
are.  That is right as long as the address is then read as it was meant
(`Usable`).  An accepted source gives an owner and a name out of the
segments of an address, and those are `Url.Kept`; two things come in
between.  Taking the suffix of clones off may leave dots, which were none
with the suffix, and in an address of a scheme that nothing is known of a
backslash is no separator, while it is one in the address that is asked.
There is nothing else (`usable_iff`).
-/

namespace ForkCensus.Source

/-! ## Usable repositories -/

/-- A repository whose owner and name are segments of a path, and remain so in the address of its
record. -/
structure Usable (k : Slug) : Prop where
  owner_ne : k.owner ≠ ""
  name_ne : k.name ≠ ""
  owner_still : Url.dots? k.owner.toList = none
  name_still : Url.dots? k.name.toList = none
  plain : ∀ c ∈ k.owner.toList ++ k.name.toList, c ≠ '/' ∧ c ≠ '\\' ∧ c ≠ '?' ∧ c ≠ '#'
  address : ∀ who, ∃ u,
    Url.ofText? ((Client.ofBase who Settings.publicBase).repositoryUrl k) = some u ∧
      u.segments = ["repos", k.owner, k.name]

theorem public_isName : Url.Host.IsName "api.github.com".toList :=
  ⟨by decide +kernel, Text.forall_mem_of_all (by decide +kernel), by decide, by decide +kernel⟩

theorem leads_public : Url.Leads "https://api.github.com".toList (.web 443)
    (.name "api.github.com") := by
  have hhttps (rest : List Char) :
      Url.cutScheme? ("https".toList ++ ':' :: rest) = some ("https", rest) := rfl
  have htext : "https".toList ++ "://".toList ++ ("api.github.com".toList ++ Url.portText none) =
      "https://api.github.com".toList := by decide
  have hkind : Url.Kind.of "https" = .web 443 := rfl
  have hlower : "api.github.com".toList.map Char.toLower = "api.github.com".toList := by decide
  have hleads := Url.leads_web hhttps hkind (Text.forall_mem_of_all (by decide)) public_isName
    hlower none
  rwa [htext] at hleads

/-- The address of a repository's record, taken apart. -/
theorem repositoryUrl_eq_slashed (who : Option Credentials) (k : Slug) :
    (Client.ofBase who Settings.publicBase).repositoryUrl k =
      String.ofList ("https://api.github.com".toList ++
        (Url.slashed ["repos".toList, k.owner.toList, k.name.toList] ++ [])) := by
  have hbase : (Client.ofBase who Settings.publicBase).base = "https://api.github.com" := by
    show String.ofList _ = _
    decide
  have hurl : (Client.ofBase who Settings.publicBase).repositoryUrl k =
      "https://api.github.com" ++ "/repos/" ++ k.owner ++ "/" ++ k.name := by
    rw [← hbase]
    rfl
  rw [hurl, ← String.toList_inj, String.toList_ofList, List.append_nil, Url.slashed_cons,
    Url.slashed_cons, Url.slashed_cons]
  simp [Url.slashed]

/-- Segments that are kept elsewhere are kept in an address of the web, but for backslashes. -/
theorem kept_web {k : Url.Kind} {segment : List Char} (h : Url.Kept k segment)
    (hback : '\\' ∉ segment) : Url.Kept (.web 443) segment where
  plain c hc := by
    obtain ⟨hplain, hascii, hslash⟩ := h.plain c hc
    refine ⟨hplain, hascii, Url.Kind.isSlash_eq_false ?_ ?_⟩
    · rintro rfl
      cases hslash
    · rintro rfl
      exact hback hc
  still := h.still

/-- Kept segments that are not empty make a usable repository, unless there is a backslash. -/
theorem usable_of_kept {k : Slug} (howner : Url.Kept (.web 443) k.owner.toList)
    (hname : Url.Kept (.web 443) k.name.toList) (howner_ne : k.owner ≠ "")
    (hname_ne : k.name ≠ "") : Usable k where
  owner_ne := howner_ne
  name_ne := hname_ne
  owner_still := howner.still
  name_still := hname.still
  plain c hc := by
    have hkept := (List.mem_append.mp hc).elim (howner.plain c) (hname.plain c)
    obtain ⟨hplain, -, hslash⟩ := hkept
    obtain ⟨-, hquery, hfragment⟩ := Url.solid_of_plain hplain
    refine ⟨?_, ?_, hquery, hfragment⟩ <;>
    · rintro rfl
      cases hslash
  address who := by
    have hrepos : Url.Kept (.web 443) "repos".toList :=
      ⟨Text.forall_mem_of_all (by decide), Url.dots?_eq_none (by decide)⟩
    have hkept : ∀ s ∈ ["repos".toList, k.owner.toList, k.name.toList], Url.Kept (.web 443) s :=
      List.forall_mem_cons.mpr ⟨hrepos, List.forall_mem_cons.mpr ⟨howner,
        List.forall_mem_singleton.mpr hname⟩⟩
    obtain ⟨u, hu, -, hsegments⟩ := leads_public hkept Url.EndsPath.nil
    refine ⟨u, ?_, ?_⟩
    · rw [repositoryUrl_eq_slashed]
      exact hu
    · rw [hsegments]
      simp

/-! ## Accepted sources -/

theorem other_of_back {k : Url.Kind} {segment : List Char} (h : Url.Kept k segment)
    (hback : '\\' ∈ segment) : k = .other := by
  obtain ⟨-, -, hslash⟩ := h.plain _ hback
  cases k with
  | other => rfl
  | web port => cases hslash
  | file => cases hslash

/-- Owner and name come out of two segments of the address, the name perhaps without the suffix. -/
theorem accepted_segments {source : String} {k : Slug} (h : slug? source = .ok k) :
    ∃ u segment, Url.ofText? (address source) = some u ∧
      k.owner ∈ u.segments ∧ segment ∈ u.segments ∧ k.owner ≠ "" ∧ k.name ≠ "" ∧
      (k.name = segment ∨ segment.toList = k.name.toList ++ cloneSuffix) := by
  obtain ⟨u, host, hu, -, -, hslug⟩ := slug?_eq_ok_iff.mp h
  obtain ⟨segment, rest, hfilter, hname, hname_ne⟩ := slugOfSegments?_eq_some_iff.mp hslug
  have howner : k.owner ∈ u.segments.filter fun segment => !segment.isEmpty := by
    rw [hfilter]
    exact List.mem_cons_self
  have hsegment : segment ∈ u.segments.filter fun segment => !segment.isEmpty := by
    rw [hfilter]
    exact List.mem_cons_of_mem _ List.mem_cons_self
  obtain ⟨howner_mem, howner_ne⟩ := List.mem_filter.mp howner
  refine ⟨u, segment, hu, howner_mem, (List.mem_filter.mp hsegment).1, ?_, hname_ne,
    hname ▸ nameOf_cases segment⟩
  intro hempty
  rw [hempty] at howner_ne
  cases howner_ne

/-- **What an accepted source gives.**  Owner and name are not empty, and have no slash, no question
mark and no number sign in them; the owner is not dots.  The name is dots only if the segment in the
address has the suffix of clones behind it, and there is a backslash only if nothing is known of the
scheme of the address.  But for these two, the repository is usable. -/
theorem usable_iff {source : String} {k : Slug} (h : slug? source = .ok k) :
    ∃ u, Url.ofText? (address source) = some u ∧
      k.owner ≠ "" ∧ k.name ≠ "" ∧ Url.dots? k.owner.toList = none ∧
      (∀ c ∈ k.owner.toList ++ k.name.toList, c ≠ '/' ∧ c ≠ '?' ∧ c ≠ '#') ∧
      (Url.dots? k.name.toList ≠ none →
        String.ofList (k.name.toList ++ cloneSuffix) ∈ u.segments) ∧
      ('\\' ∈ k.owner.toList ++ k.name.toList → Url.Kind.of u.scheme = .other) ∧
      (Usable k ↔
        Url.dots? k.name.toList = none ∧ '\\' ∉ k.owner.toList ++ k.name.toList) := by
  obtain ⟨u, segment, hu, howner_mem, hsegment_mem, howner_ne, hname_ne, hname⟩ :=
    accepted_segments h
  have howner := Url.ofText?_kept hu _ howner_mem
  have hsegment := Url.ofText?_kept hu _ hsegment_mem
  have hsub : k.name.toList ⊆ segment.toList := by
    rcases hname with rfl | hname
    · exact List.Subset.refl _
    · rw [hname]
      exact List.subset_append_left _ _
  have hplain : ∀ c ∈ k.owner.toList ++ k.name.toList, Url.Percent.inPath c = false ∧
      Text.isAscii c = true ∧ (Url.Kind.of u.scheme).isSlash c = false := fun c hc =>
    (List.mem_append.mp hc).elim (howner.plain c) fun hc => hsegment.plain c (hsub hc)
  refine ⟨u, hu, howner_ne, hname_ne, howner.still, fun c hc => ?_, fun hdots => ?_,
    fun hback => ?_, fun husable => ?_, ?_⟩
  · obtain ⟨hpath, -, hslash⟩ := hplain c hc
    obtain ⟨-, hquery, hfragment⟩ := Url.solid_of_plain hpath
    refine ⟨?_, hquery, hfragment⟩
    rintro rfl
    rw [Url.Kind.isSlash_slash] at hslash
    cases hslash
  · rcases hname with rfl | hname
    · exact absurd hsegment.still hdots
    · rwa [← hname, String.ofList_toList]
  · exact (List.mem_append.mp hback).elim (other_of_back howner) fun hback =>
      other_of_back hsegment (hsub hback)
  · exact ⟨husable.name_still, fun hback => (husable.plain _ hback).2.1 rfl⟩
  · rintro ⟨hstill, hback⟩
    rw [List.mem_append, not_or] at hback
    exact usable_of_kept (kept_web howner hback.1)
      (kept_web ⟨fun c hc => hsegment.plain c (hsub hc), hstill⟩ hback.2) howner_ne hname_ne

theorem slug?_of_toOption {source : String} {k : Slug}
    (h : (slug? source).toOption = some k) : slug? source = .ok k := by
  cases hslug : slug? source with
  | error e =>
      rw [hslug] at h
      cases h
  | ok k' =>
      rw [hslug] at h
      cases h
      rfl

theorem usable_iff_short : Usable ⟨"octocat", "Hello-World"⟩ := by
  have hread : slug? "octocat/Hello-World" = .ok ⟨"octocat", "Hello-World"⟩ :=
    slug?_of_toOption (by decide +kernel)
  obtain ⟨u, -, -, -, -, -, -, -, husable⟩ := usable_iff hread
  exact husable.mpr ⟨Url.dots?_eq_none (by decide), by decide⟩

/-- A name that is a dot with the suffix of clones behind it is accepted, and the address of its
record has no name in it; so is an owner with a backslash in an address for cloning. -/
theorem accepted_unusable :
    slug? "https://github.com/a/..git" = .ok ⟨"a", "."⟩ ∧ ¬Usable ⟨"a", "."⟩ ∧
      (Url.ofText? ((Client.ofBase none Settings.publicBase).repositoryUrl ⟨"a", "."⟩)).map
        Url.segments = some ["repos", "a", ""] ∧
      slug? "git@github.com:a\\b/c" = .ok ⟨"a\\b", "c"⟩ ∧ ¬Usable ⟨"a\\b", "c"⟩ := by
  refine ⟨slug?_of_toOption (by decide +kernel), fun h => ?_, by decide +kernel,
    slug?_of_toOption (by decide +kernel), fun h => ?_⟩
  · have hstill := h.name_still
    revert hstill
    decide +kernel
  · exact (h.plain '\\' (by decide)).2.1 rfl

end ForkCensus.Source
