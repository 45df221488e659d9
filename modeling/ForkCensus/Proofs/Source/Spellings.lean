import ForkCensus.Proofs.Source.Reading
import ForkCensus.Proofs.Url.Hosted

/-
# The ways to write a repository

`Written` lists the ways in which a repository is written, one constructor
for each form.  They are all read as the repository, in the spelling that
was used, with blanks around them or without (`written_read`).

Each form is written out to the same shape: a text that `Leads` to the
served host, and behind it the segments, of which the first two are the
owner and the name.
-/

namespace ForkCensus.Source

/-! ## What is written -/

/-- A character of an owner. -/
def isOwnerChar (c : Char) : Bool :=
  c.isAlphanum || c == '-'

/-- A character of the name of a repository. -/
def isNameChar (c : Char) : Bool :=
  isOwnerChar c || c == '.' || c == '_'

/-- Characters of a name that are not dots by themselves; there may be none. -/
structure IsSegment (cs : List Char) : Prop where
  plain : ∀ c ∈ cs, isNameChar c = true
  notDots : cs ≠ ['.'] ∧ cs ≠ ['.', '.']

/-- A repository with an owner and a name as the service gives them. -/
structure IsRepository (k : Slug) : Prop where
  owner : ∀ c ∈ k.owner.toList, isOwnerChar c = true
  owner_ne : k.owner ≠ ""
  name : ∀ c ∈ k.name.toList, isNameChar c = true
  name_ne : k.name ≠ ""
  notDots : k.name ≠ "." ∧ k.name ≠ ".."
  bare : ¬cloneSuffix <:+ k.name.toList

/-- The last segment of an address, with the suffix of clones or without. -/
def nameText (k : Slug) (cloned : Bool) : List Char :=
  k.name.toList ++ if cloned then cloneSuffix else []

/-- Owner and name, and segments behind them; empty segments are slashes at the end. -/
def pathText (k : Slug) (cloned : Bool) (more : List (List Char)) : List Char :=
  k.owner.toList ++ Url.slashed (nameText k cloned :: more)

/-- The ways to write a repository. -/
inductive Written (k : Slug) : List Char → Prop
  /-- As `owner/name`. -/
  | short (cloned : Bool) (slashes : Nat) :
      Written k (pathText k cloned (List.replicate slashes []))
  /-- With the host before it. -/
  | hosted (cloned : Bool) (slashes : Nat) :
      Written k ("github.com/".toList ++ pathText k cloned (List.replicate slashes []))
  /-- As a browser shows it: the letters of the host in any case, a port or none, more segments
  behind the name, and a query, a fragment, both or neither. -/
  | web (secure : Bool) {host : List Char} (port : Option UInt16) (cloned : Bool)
      {more : List (List Char)} {tail : List Char} :
      host.map Char.toLower = "github.com".toList → (∀ s ∈ more, IsSegment s) →
      Url.EndsPath tail →
      Written k ((if secure then "https://" else "http://").toList ++ (host ++ Url.portText port) ++
        '/' :: pathText k cloned more ++ tail)
  /-- As it is cloned. -/
  | clone (cloned : Bool) (slashes : Nat) :
      Written k ("git@github.com:".toList ++ pathText k cloned (List.replicate slashes []))

/-! ## Characters -/

theorem isNameChar_of_isOwnerChar {c : Char} (h : isOwnerChar c = true) : isNameChar c = true := by
  rw [isNameChar, h, Bool.true_or, Bool.true_or]

theorem isAscii_of_isNameChar {c : Char} (h : isNameChar c = true) : Text.isAscii c = true := by
  simp only [isNameChar, isOwnerChar, Bool.or_eq_true, beq_iff_eq] at h
  rcases h with ((h | rfl) | rfl) | rfl
  · exact Text.isAscii_of_isAlphanum h
  all_goals decide

/-- What no name holds. -/
theorem plain_of_isNameChar {c : Char} (h : isNameChar c = true) :
    Url.Percent.inPath c = false ∧ c ≠ '/' ∧ c ≠ '\\' ∧ c ≠ ':' ∧ c ≠ '%' :=
  Text.forall_ascii (isAscii_of_isNameChar h) (P := fun c => isNameChar c = true →
    Url.Percent.inPath c = false ∧ c ≠ '/' ∧ c ≠ '\\' ∧ c ≠ ':' ∧ c ≠ '%') (by decide) h

theorem IsSegment.nil : IsSegment [] := ⟨nofun, by decide⟩

theorem IsSegment.kept {cs : List Char} (h : IsSegment cs) (k : Url.Kind) : Url.Kept k cs where
  plain c hc := by
    obtain ⟨hplain, hslash, hback, -⟩ := plain_of_isNameChar (h.plain c hc)
    exact ⟨hplain, isAscii_of_isNameChar (h.plain c hc), Url.Kind.isSlash_eq_false hslash hback⟩
  still := Decidable.byContradiction fun hdots =>
    (Url.eq_dots hdots fun hc => (plain_of_isNameChar (h.plain '%' hc)).2.2.2.2 rfl).elim
      h.notDots.1 h.notDots.2

namespace IsRepository

variable {k : Slug} (hk : IsRepository k)

include hk

theorem owner_isSegment : IsSegment k.owner.toList := by
  have hdot : '.' ∉ k.owner.toList := fun hc => absurd (hk.owner '.' hc) (by decide)
  refine ⟨fun c hc => isNameChar_of_isOwnerChar (hk.owner c hc), fun h => ?_, fun h => ?_⟩
  · exact hdot (h ▸ List.mem_cons_self)
  · exact hdot (h ▸ List.mem_cons_self)

theorem nameText_isSegment (cloned : Bool) : IsSegment (nameText k cloned) := by
  cases cloned with
  | false =>
      rw [nameText, if_neg (by decide), List.append_nil]
      exact ⟨hk.name, fun h => hk.notDots.1 (String.toList_inj.mp h),
        fun h => hk.notDots.2 (String.toList_inj.mp h)⟩
  | true =>
      rw [nameText, if_pos rfl]
      have hsuffix : ∀ c ∈ cloneSuffix, isNameChar c = true := Text.forall_mem_of_all (by decide)
      have hlong : 4 ≤ (k.name.toList ++ cloneSuffix).length := by
        rw [List.length_append]
        exact Nat.le_add_left _ _
      refine ⟨List.forall_mem_append.mpr ⟨hk.name, hsuffix⟩, fun h => ?_, fun h => ?_⟩
      · exact absurd (h ▸ hlong) (by decide)
      · exact absurd (h ▸ hlong) (by decide)

theorem nameOf_nameText (cloned : Bool) : nameOf (String.ofList (nameText k cloned)) = k.name := by
  cases cloned with
  | false =>
      rw [nameText, if_neg (by decide), List.append_nil, nameOf_bare hk.bare, String.ofList_toList]
  | true => rw [nameText, if_pos rfl, nameOf_suffixed, String.ofList_toList]

/-- Owner and name are what the segments of an address give. -/
theorem slugOfSegments?_segments (cloned : Bool) (more : List (List Char)) :
    slugOfSegments? ((k.owner.toList :: nameText k cloned :: more).map String.ofList) = some k := by
  have howner : (!k.owner.isEmpty) = true := by
    rw [Bool.not_eq_true', ← Bool.not_eq_true, String.isEmpty_iff]
    exact hk.owner_ne
  have hname : (!(String.ofList (nameText k cloned)).isEmpty) = true := by
    rw [Bool.not_eq_true', ← Bool.not_eq_true, String.isEmpty_iff]
    intro h
    have hnil := congrArg String.toList h
    rw [String.toList_ofList, nameText, String.toList_empty, List.append_eq_nil_iff] at hnil
    exact hk.name_ne (String.toList_inj.mp hnil.1)
  rw [slugOfSegments?_eq_some_iff, List.map_cons, List.map_cons, String.ofList_toList,
    List.filter_cons, if_pos howner, List.filter_cons, if_pos hname]
  exact ⟨_, _, rfl, hk.nameOf_nameText cloned, hk.name_ne⟩

end IsRepository

/-! ## Written out -/

/-- What leads to the served host, with owner and name behind it, is read as the repository. -/
theorem read_of_leads {k : Slug} (hk : IsRepository k) (source : String) (cloned : Bool)
    {front : List Char} {kind : Url.Kind} {more : List (List Char)} {tail : List Char}
    (hfront : Url.Leads front kind (.name servedHost)) (hmore : ∀ s ∈ more, IsSegment s)
    (htail : Url.EndsPath tail)
    (haddress : address source = String.ofList
      (front ++ (Url.slashed (k.owner.toList :: nameText k cloned :: more) ++ tail))) :
    slug? source = .ok k := by
  have hkept : ∀ s ∈ k.owner.toList :: nameText k cloned :: more, Url.Kept kind s := by
    intro s hs
    refine IsSegment.kept ?_ kind
    rcases List.mem_cons.mp hs with rfl | hs
    · exact hk.owner_isSegment
    · rcases List.mem_cons.mp hs with rfl | hs
      · exact hk.nameText_isSegment cloned
      · exact hmore s hs
  obtain ⟨u, hu, hhost, hsegments⟩ := hfront hkept htail
  refine slug?_eq_ok_iff.mpr ⟨u, servedHost, ?_, ?_, ?_, ?_⟩
  · rw [haddress, hu]
  · rw [Url.hostText?, hhost]
    rfl
  · rw [Text.Ascii.same, beq_self_eq_true]
  · rw [hsegments]
    exact hk.slugOfSegments?_segments cloned more

/-- Blanks around a source do not matter, nor does the end of it. -/
theorem address_of_solid {before front after : List Char}
    (hbefore : ∀ c ∈ before, Unicode.isBlank c = true)
    (hafter : ∀ c ∈ after, Unicode.isBlank c = true)
    (hfront : ∀ c ∈ front, Unicode.isBlank c = false) (hne : front ≠ []) (tail : List Char) :
    ∃ kept, address (String.ofList (before ++ (front ++ tail) ++ after)) =
      String.ofList (expand (front ++ kept)) ∧ kept <+: tail := by
  obtain ⟨kept, hstrip, hkept⟩ := Text.strip_solid hbefore hfront hne hafter tail
  refine ⟨kept, ?_, hkept⟩
  rw [address, String.toList_ofList, Text.strip, hstrip]

theorem isBlank_eq_false {c : Char} (hascii : Text.isAscii c = true) (h : 0x20 < c.toNat) :
    Unicode.isBlank c = false :=
  Text.forall_ascii hascii (P := fun c => 0x20 < c.toNat → Unicode.isBlank c = false) (by decide) h

/-- A path has no blanks and no colons in it. -/
theorem plain_of_mem_pathText {k : Slug} (hk : IsRepository k) {cloned : Bool}
    {more : List (List Char)} (hmore : ∀ s ∈ more, IsSegment s) {c : Char}
    (hc : c ∈ pathText k cloned more) : Unicode.isBlank c = false ∧ c ≠ ':' := by
  have hsegment {s : List Char} (h : IsSegment s) (hc : c ∈ s) :
      Unicode.isBlank c = false ∧ c ≠ ':' := by
    have hname := h.plain c hc
    obtain ⟨hplain, -, -, hcolon, -⟩ := plain_of_isNameChar hname
    exact ⟨isBlank_eq_false (isAscii_of_isNameChar hname) (Url.solid_of_plain hplain).1, hcolon⟩
  rcases List.mem_append.mp hc with hc | hc
  · exact hsegment hk.owner_isSegment hc
  · obtain ⟨s, hs, hc⟩ := List.mem_flatMap.mp hc
    rcases List.mem_cons.mp hc with rfl | hc
    · decide
    · rcases List.mem_cons.mp hs with rfl | hs
      · exact hsegment (hk.nameText_isSegment cloned) hc
      · exact hsegment (hmore s hs) hc

theorem isAbsolute_eq_false {cs : List Char} (h : ':' ∉ cs) : isAbsolute cs = false := by
  induction cs with
  | nil => rfl
  | cons c cs ih =>
      obtain ⟨hc, h⟩ := not_or.mp (List.mem_cons.not.mp h)
      rw [isAbsolute, ih h, Bool.or_false]
      exact Bool.and_eq_false_iff.mpr (.inl (beq_false_of_ne hc))

/-! ## The forms -/

/-- Segments that are empty, which is what slashes at the end come to. -/
theorem isSegment_of_mem_replicate (slashes : Nat) :
    ∀ s ∈ List.replicate slashes [], IsSegment s := by
  intro s hs
  rw [List.eq_of_mem_replicate hs]
  exact IsSegment.nil

section

variable {k : Slug} (hk : IsRepository k) (cloned : Bool) {more : List (List Char)}
  (hmore : ∀ s ∈ more, IsSegment s)

include hk

/-- A path begins with the owner, not with a slash. -/
theorem pathText_eq_cons : ∃ c path, pathText k cloned more = c :: path ∧ c ≠ '/' := by
  cases howner : k.owner.toList with
  | nil => exact absurd (String.toList_eq_nil_iff.mp howner) hk.owner_ne
  | cons c owner =>
      have hname := isNameChar_of_isOwnerChar (hk.owner c (howner ▸ List.mem_cons_self))
      refine ⟨c, owner ++ Url.slashed (nameText k cloned :: more), ?_,
        (plain_of_isNameChar hname).2.1⟩
      rw [pathText, howner, List.cons_append]

theorem dropSlashes_pathText : dropSlashes (pathText k cloned more) = pathText k cloned more := by
  obtain ⟨c, path, hpath, hc⟩ := pathText_eq_cons hk cloned
  rw [hpath, dropSlashes, List.dropWhile_cons_of_neg (by simpa using hc)]

theorem takeWhile_pathText :
    (pathText k cloned more).takeWhile (· != '/') = k.owner.toList := by
  have hslash : ∀ c ∈ k.owner.toList, (c != '/') = true := fun c hc => by
    simpa using (plain_of_isNameChar (isNameChar_of_isOwnerChar (hk.owner c hc))).2.1
  rw [pathText, List.takeWhile_append_of_pos hslash, Url.slashed_cons,
    List.takeWhile_cons_of_neg (by decide), List.append_nil]

include hmore

theorem colon_not_mem_pathText : ':' ∉ pathText k cloned more :=
  fun hc => (plain_of_mem_pathText hk hmore hc).2 rfl

/-- Without a host, the served one is put before the path. -/
theorem expand_short : expand (pathText k cloned more) = "https://github.com".toList ++
    Url.slashed (k.owner.toList :: nameText k cloned :: more) := by
  have hcolon := colon_not_mem_pathText hk cloned hmore
  have hdotted : k.owner.toList.contains '.' = false := by
    rw [← Bool.not_eq_true, List.contains_iff_mem]
    exact fun hc => absurd (hk.owner '.' hc) (by decide)
  rw [expand, isAbsolute_eq_false hcolon, expandShort]
  simp only [takeWhile_pathText hk, hdotted, Text.cut_eq_none hcolon, dropSlashes_pathText hk,
    Bool.false_eq_true, if_false]
  rfl

/-- A host is known by the dot in it. -/
theorem expand_hosted : expand ("github.com/".toList ++ pathText k cloned more) =
    "https://github.com".toList ++
      Url.slashed (k.owner.toList :: nameText k cloned :: more) := by
  have hcolon : ':' ∉ "github.com/".toList ++ pathText k cloned more := by
    rw [List.mem_append, not_or]
    exact ⟨by decide, colon_not_mem_pathText hk cloned hmore⟩
  rw [expand, isAbsolute_eq_false hcolon, expandShort, Text.cut_eq_none hcolon]
  rfl

/-- What stands before a colon is a user and a host. -/
theorem expand_clone : expand ("git@github.com:".toList ++ pathText k cloned more) =
    "ssh://git@github.com".toList ++
      Url.slashed (k.owner.toList :: nameText k cloned :: more) := by
  have hcut : Text.cut ':' ("git@github.com:".toList ++ pathText k cloned more) =
      some ("git@github.com".toList, pathText k cloned more) :=
    Text.cut_append (a := "git@github.com".toList) (by decide) _
  -- The colon is no part of the mark of an absolute address: an owner follows.
  have habsolute : isAbsolute ("git@github.com:".toList ++ pathText k cloned more) = false := by
    have hmark : "://".toList.isPrefixOf (':' :: pathText k cloned more) = false := by
      obtain ⟨c, path, hpath, hc⟩ := pathText_eq_cons hk cloned
      have hslash : ('/' == c) = false := beq_false_of_ne (Ne.symm hc)
      rw [hpath]
      exact Bool.and_eq_false_iff.mpr (.inr (Bool.and_eq_false_iff.mpr (.inl hslash)))
    have hcolon : isAbsolute (':' :: pathText k cloned more) = false := by
      rw [isAbsolute, hmark, isAbsolute_eq_false (colon_not_mem_pathText hk cloned hmore)]
      rfl
    exact hcolon
  rw [expand, habsolute, expandShort, hcut]
  simp only [dropSlashes_pathText hk, Bool.false_eq_true, if_false]
  rfl

end

/-! ## Every spelling -/

theorem served_isName : Url.Host.IsName "github.com".toList :=
  ⟨by decide +kernel, Text.forall_mem_of_all (by decide +kernel), by decide, by decide +kernel⟩

/-- A scheme of the web, the served host in any spelling and a port lead to the served host. -/
theorem leads_served (secure : Bool) {host : List Char}
    (hhost : host.map Char.toLower = "github.com".toList) (port : Option UInt16) :
    ∃ kind, Url.Leads ((if secure then "https://" else "http://").toList ++
      (host ++ Url.portText port)) kind (.name servedHost) := by
  have hhttp (rest : List Char) :
      Url.cutScheme? ("http".toList ++ ':' :: rest) = some ("http", rest) := rfl
  have hhttps (rest : List Char) :
      Url.cutScheme? ("https".toList ++ ':' :: rest) = some ("https", rest) := rfl
  cases secure with
  | true => exact ⟨.web 443, Url.leads_web hhttps rfl (Text.forall_mem_of_all (by decide))
      served_isName hhost port⟩
  | false => exact ⟨.web 80, Url.leads_web hhttp rfl (Text.forall_mem_of_all (by decide))
      served_isName hhost port⟩

theorem leads_served_plain :
    ∃ kind, Url.Leads "https://github.com".toList kind (.name servedHost) := by
  have hlower : "github.com".toList.map Char.toLower = "github.com".toList := by decide
  obtain ⟨kind, hleads⟩ := leads_served true hlower none
  have htext : (if true then "https://" else "http://").toList ++
      ("github.com".toList ++ Url.portText none) = "https://github.com".toList := by decide
  rw [htext] at hleads
  exact ⟨kind, hleads⟩

section

variable {k : Slug} (hk : IsRepository k) {before after : List Char}
  (hbefore : ∀ c ∈ before, Unicode.isBlank c = true)
  (hafter : ∀ c ∈ after, Unicode.isBlank c = true)

include hk hbefore hafter

/-- A form without a query or a fragment is read by what it is written out to. -/
theorem plain_read {text front : List Char} {kind : Url.Kind} {cloned : Bool}
    {more : List (List Char)} (hsolid : ∀ c ∈ text, Unicode.isBlank c = false) (hne : text ≠ [])
    (hmore : ∀ s ∈ more, IsSegment s)
    (hexpand : expand text = front ++ Url.slashed (k.owner.toList :: nameText k cloned :: more))
    (hleads : Url.Leads front kind (.name servedHost)) :
    slug? (String.ofList (before ++ text ++ after)) = .ok k := by
  obtain ⟨kept, haddress, hkept⟩ := address_of_solid hbefore hafter hsolid hne []
  rw [List.append_nil, List.prefix_nil.mp hkept, List.append_nil, hexpand] at haddress
  have hread := read_of_leads hk (String.ofList (before ++ text ++ after)) cloned hleads hmore
    Url.EndsPath.nil
  rw [List.append_nil] at hread
  exact hread haddress

/-- What a browser shows is an address already, and is read as it stands. -/
theorem web_read (secure : Bool) {host : List Char} (port : Option UInt16) (cloned : Bool)
    {more : List (List Char)} {tail : List Char}
    (hhost : host.map Char.toLower = "github.com".toList) (hmore : ∀ s ∈ more, IsSegment s)
    (htail : Url.EndsPath tail) :
    slug? (String.ofList (before ++ ((if secure then "https://" else "http://").toList ++
      (host ++ Url.portText port) ++ '/' :: pathText k cloned more ++ tail) ++ after)) =
        .ok k := by
  obtain ⟨kind, hleads⟩ := leads_served secure hhost port
  have hsolid : ∀ c ∈ (if secure then "https://" else "http://").toList ++
      (host ++ Url.portText port) ++ '/' :: pathText k cloned more,
      Unicode.isBlank c = false := by
    refine List.forall_mem_append.mpr ⟨List.forall_mem_append.mpr ⟨?_, fun c hc => ?_⟩,
      List.forall_mem_cons.mpr ⟨by decide, fun c hc => (plain_of_mem_pathText hk hmore hc).1⟩⟩
    · cases secure <;> exact Text.forall_mem_of_all (by decide)
    · obtain ⟨hascii, hbig, -⟩ := Url.plain_of_mem_authority served_isName hhost hc
      exact isBlank_eq_false hascii hbig
  obtain ⟨kept, haddress, hkept⟩ := address_of_solid hbefore hafter hsolid (by simp) tail
  have habsolute (rest : List Char) :
      isAbsolute ((if secure then "https://" else "http://").toList ++ rest) = true := by
    cases secure <;> rfl
  refine read_of_leads hk _ cloned hleads hmore (htail.of_prefix hkept) ?_
  have hexpand := habsolute (host ++ Url.portText port ++ ('/' :: pathText k cloned more ++ kept))
  rw [← List.append_assoc, ← List.append_assoc] at hexpand
  rw [haddress, expand, if_pos hexpand, List.append_assoc]
  rfl

end

/-- **Every spelling of a repository is read as the repository.** -/
theorem written_read {k : Slug} (hk : IsRepository k) {before text after : List Char}
    (h : Written k text) (hbefore : ∀ c ∈ before, Unicode.isBlank c = true)
    (hafter : ∀ c ∈ after, Unicode.isBlank c = true) :
    slug? (String.ofList (before ++ text ++ after)) = .ok k := by
  have hmore := isSegment_of_mem_replicate
  have hpath (cloned : Bool) (slashes : Nat) :
      ∀ c ∈ pathText k cloned (List.replicate slashes []), Unicode.isBlank c = false :=
    fun c hc => (plain_of_mem_pathText hk (hmore slashes) hc).1
  obtain ⟨kind, hserved⟩ := leads_served_plain
  cases h with
  | short cloned slashes =>
      have hne : pathText k cloned (List.replicate slashes []) ≠ [] := by
        obtain ⟨c, path, hcons, -⟩ := pathText_eq_cons hk cloned
        rw [hcons]
        nofun
      exact plain_read hk hbefore hafter (hpath cloned slashes) hne (hmore slashes)
        (expand_short hk cloned (hmore slashes)) hserved
  | hosted cloned slashes =>
      have hsolid : ∀ c ∈ "github.com/".toList, Unicode.isBlank c = false :=
        Text.forall_mem_of_all (by decide)
      exact plain_read hk hbefore hafter (List.forall_mem_append.mpr ⟨hsolid, hpath cloned slashes⟩)
        nofun (hmore slashes) (expand_hosted hk cloned (hmore slashes)) hserved
  | web secure port cloned hhost hmore htail =>
      exact web_read hk hbefore hafter secure port cloned hhost hmore htail
  | clone cloned slashes =>
      have hsolid : ∀ c ∈ "git@github.com:".toList, Unicode.isBlank c = false :=
        Text.forall_mem_of_all (by decide)
      exact plain_read hk hbefore hafter (List.forall_mem_append.mpr ⟨hsolid, hpath cloned slashes⟩)
        nofun (hmore slashes) (expand_clone hk cloned (hmore slashes)) Url.leads_ssh

theorem written_read_browser :
    slug? "\u2003https://GitHub.com:443/octocat/Hello-World.git/tree/v1.0/?tab=readme#top \n" =
      .ok ⟨"octocat", "Hello-World"⟩ := by
  have hk : IsRepository ⟨"octocat", "Hello-World"⟩ :=
    ⟨Text.forall_mem_of_all (by decide), by decide, Text.forall_mem_of_all (by decide), by decide,
      by decide, by decide⟩
  have hmore : ∀ s ∈ ["tree".toList, "v1.0".toList, []], IsSegment s :=
    List.forall_mem_cons.mpr ⟨⟨Text.forall_mem_of_all (by decide), by decide⟩,
      List.forall_mem_cons.mpr ⟨⟨Text.forall_mem_of_all (by decide), by decide⟩,
        List.forall_mem_singleton.mpr IsSegment.nil⟩⟩
  have htail : Url.EndsPath "?tab=readme#top".toList := fun c hc => by
    cases hc
    exact .inl rfl
  have hhost : "GitHub.com".toList.map Char.toLower = "github.com".toList := by decide
  have hbefore : ∀ c ∈ ['\u2003'], Unicode.isBlank c = true := Text.forall_mem_of_all (by decide)
  have hafter : ∀ c ∈ [' ', '\n'], Unicode.isBlank c = true := Text.forall_mem_of_all (by decide)
  have hread := written_read hk (.web true (some 443) true hhost hmore htail) hbefore hafter
  have htext : String.ofList (['\u2003'] ++ ((if true then "https://" else "http://").toList ++
      ("GitHub.com".toList ++ Url.portText (some 443)) ++
        '/' :: pathText ⟨"octocat", "Hello-World"⟩ true ["tree".toList, "v1.0".toList, []] ++
          "?tab=readme#top".toList) ++ [' ', '\n']) =
      "\u2003https://GitHub.com:443/octocat/Hello-World.git/tree/v1.0/?tab=readme#top \n" := by
    decide +kernel
  rwa [htext] at hread

end ForkCensus.Source
