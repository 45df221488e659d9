import ForkCensus.Proofs.Url.Hosted

/-
# The server of an address

Whatever an address asks for, it is asked of one server: its scheme, its
host and port, and the user before them (`Url.Server`).  For the schemes
of the web the server is read from what stands behind the slashes, up to
the next one, and the number of slashes does not matter; backslashes are
slashes, and line breaks and tabs are not there at all.  All these are
passed over (`Url.isPassed`) before a host begins.

So there are two cases.  Where something else stands behind the scheme, it
holds the server, and nothing that follows a slash behind it changes that
(`server?_behind`).  Where nothing else does, the next segment is taken for
the host (`server?_segment`).
-/

namespace ForkCensus.Url

/-- Where a request for an address goes. -/
structure Server where
  scheme : String
  user : Option (String × Option String)
  host : Option Host
  port : Option UInt16
deriving Repr, DecidableEq

/-- The server of an address. -/
def server (u : Url) : Server :=
  ⟨u.scheme, u.user, u.host, u.port⟩

/-- The server of an address that is written down, if it is one. -/
def server? (text : String) : Option Server :=
  (ofText? text).map server

/-- A scheme of the web, as it is written before its colon. -/
structure WebScheme (scheme : String) (port : UInt16) : Prop where
  cut : ∀ rest, cutScheme? (scheme.toList ++ ':' :: rest) = some (scheme, rest)
  kind : Kind.of scheme = .web port
  solid : ∀ c ∈ scheme.toList, 0x20 < c.toNat

theorem WebScheme.http : WebScheme "http" 80 where
  cut _ := rfl
  kind := rfl
  solid := Text.forall_mem_of_all (by decide)

theorem WebScheme.https : WebScheme "https" 443 where
  cut _ := rfl
  kind := rfl
  solid := Text.forall_mem_of_all (by decide)

/-- What may stand before the host of an address of the web without being part of it. -/
def isPassed (c : Char) : Bool :=
  c == '/' || c == '\\' || c == '\t' || c == '\n' || c == '\r'

/-- What is left of a text when tabs and line breaks are dropped. -/
def unbroken (cs : List Char) : List Char :=
  cs.filter fun c => c != '\t' && c != '\n' && c != '\r'

theorem unbroken_append (cs ds : List Char) : unbroken (cs ++ ds) = unbroken cs ++ unbroken ds :=
  List.filter_append ..

theorem unbroken_slash (cs : List Char) : unbroken ('/' :: cs) = '/' :: unbroken cs := rfl

theorem unbroken_of_solid {cs : List Char} (h : ∀ c ∈ cs, 0x20 < c.toNat) : unbroken cs = cs := by
  rw [unbroken, List.filter_eq_self]
  intro c hc
  have hbig := h c hc
  simp only [Bool.and_eq_true, bne_iff_ne]
  refine ⟨⟨?_, ?_⟩, ?_⟩ <;> rintro rfl <;> exact absurd hbig (by decide)

/-- The part with the user, the host and the port, behind the scheme. -/
def authorityOf (k : Kind) (cs : List Char) : List Char :=
  (cs.dropWhile k.isSlash).takeWhile fun c => !k.endsHost c

/-- The server with this user, host and port. -/
def serverOf? (scheme : String) (k : Kind) (authority : List Char) : Option Server :=
  (readAuthority? k authority false).map fun a => ⟨scheme, a.user, a.host, a.port⟩

/-! ## Reading the server -/

/-- A scheme of the web needs a host whether something follows it or not. -/
theorem readAuthority?_web_atEnd (port : UInt16) (cs : List Char) (atEnd : Bool) :
    readAuthority? (.web port) cs atEnd = readAuthority? (.web port) cs false := by
  have hother : (Kind.web port == Kind.other) = false := rfl
  simp only [readAuthority?, hother, Bool.and_false]

variable {scheme : String} {port : UInt16}

/-- A host by itself is a server. -/
theorem serverOf?_host {cs : List Char} {host : Host} (hne : cs ≠ [])
    (hplain : ∀ c ∈ cs, c ≠ '@' ∧ c ≠ ':' ∧ c ≠ '[' ∧ c ≠ ']')
    (hhost : Host.ofText? cs = some host) :
    serverOf? scheme (.web port) cs = some ⟨scheme, none, some host, none⟩ := by
  have hmem : '@' ∉ cs.reverse := fun hc => (hplain '@' (List.mem_reverse.mp hc)).1 rfl
  have huser : cutUser cs = (none, cs) := by rw [cutUser, Text.cut_eq_none hmem]
  have hcut : cutHost false cs = (cs, []) := by
    have hparts := cutHost_append (fun c hc => (hplain c hc).2) none
    rwa [portText, List.append_nil] at hparts
  have hspecial : (Kind.web port).isSpecial = true := rfl
  simp only [serverOf?, readAuthority?, huser, hcut, List.isEmpty_eq_false_iff.mpr hne, hspecial,
    hhost, readPort?, Option.bind_eq_bind, Option.bind_some, Option.bind_none, Option.pure_def,
    Option.map_some, Option.map_none, if_true, Bool.false_eq_true, if_false]
  rfl

/-- The server is read from what stands behind the scheme. -/
theorem server?_of_clean (hs : WebScheme scheme port) {text : String} {cs : List Char}
    (h : clean text.toList = scheme.toList ++ ':' :: cs) :
    server? text = serverOf? scheme (.web port) (authorityOf (.web port) cs) := by
  have hread (atEnd : Bool) := readAuthority?_web_atEnd port (authorityOf (.web port) cs) atEnd
  rw [authorityOf] at hread
  simp only [server?, ofText?, h, hs.cut, Option.bind_eq_bind, Option.bind_some, hs.kind,
    readHosted?, hread, serverOf?, authorityOf]
  cases readAuthority? (.web port) ((cs.dropWhile (Kind.web port).isSlash).takeWhile
    fun c => !(Kind.web port).endsHost c) false <;> rfl

/-- Behind a scheme of the web, up to something that is no blank, cleaning drops only tabs and line
breaks. -/
theorem clean_behind (hs : WebScheme scheme port) {front : List Char}
    (hlast : ∀ c ∈ front.getLast?, 0x20 < c.toNat) (tail : List Char) :
    ∃ kept, clean (scheme.toList ++ ':' :: (front ++ tail)) =
      scheme.toList ++ ':' :: (unbroken front ++ unbroken kept) ∧ kept <+: tail := by
  have hsolid {c : Char} (hc : 0x20 < c.toNat) : decide (c.toNat ≤ 0x20) = false :=
    decide_eq_false (Nat.not_le.mpr hc)
  have hends : ∀ c ∈ (scheme.toList ++ ':' :: front).getLast?, 0x20 < c.toNat := by
    rw [List.getLast?_append, List.getLast?_cons]
    cases hfront : front.getLast? with
    | none =>
        rintro _ ⟨⟩
        decide
    | some d =>
        rintro _ ⟨⟩
        exact hlast d hfront
  have hbegins : ∀ c ∈ (scheme.toList ++ ':' :: front).head?, 0x20 < c.toNat := by
    cases hscheme : scheme.toList with
    | nil =>
        rintro _ ⟨⟩
        decide
    | cons d ds =>
        rintro _ ⟨⟩
        exact hs.solid d (hscheme ▸ List.mem_cons_self)
  obtain ⟨kept, hstrip, hkept⟩ := Text.strip_front (p := fun c : Char => decide (c.toNat ≤ 0x20))
    (List.append_ne_nil_of_right_ne_nil _ (List.cons_ne_nil _ _))
    (fun c hc => hsolid (hbegins c hc)) (fun c hc => hsolid (hends c hc)) tail
  refine ⟨kept, ?_, hkept⟩
  have hshape : scheme.toList ++ ':' :: (front ++ tail) = scheme.toList ++ ':' :: front ++ tail := by
    rw [List.append_assoc, List.cons_append]
  rw [clean, Text.strip, hshape, hstrip]
  show unbroken (scheme.toList ++ ':' :: front ++ kept) = _
  rw [unbroken_append, unbroken_append, unbroken_of_solid hs.solid, List.append_assoc]
  rfl

/-! ## What is passed over, and what is not -/

theorem mem_unbroken {c : Char} {cs : List Char} :
    c ∈ unbroken cs ↔ c ∈ cs ∧ c ≠ '\t' ∧ c ≠ '\n' ∧ c ≠ '\r' := by
  rw [unbroken, List.mem_filter]
  simp [and_assoc]

theorem isSlash_web {port : UInt16} {c : Char} :
    (Kind.web port).isSlash c = true ↔ c = '/' ∨ c = '\\' := by
  have hspecial : (Kind.web port).isSpecial = true := rfl
  simp [Kind.isSlash, hspecial]

theorem isPassed_iff (port : UInt16) {c : Char} :
    isPassed c = true ↔ (Kind.web port).isSlash c = true ∨ c = '\t' ∨ c = '\n' ∨ c = '\r' := by
  rw [isSlash_web]
  simp [isPassed, or_assoc]

/-- Where something is not passed over, it is still there before the host. -/
theorem exists_host_iff {cs : List Char} :
    (∃ c ∈ unbroken cs, (Kind.web port).isSlash c = false) ↔ ∃ c ∈ cs, isPassed c = false := by
  simp only [mem_unbroken, ← Bool.not_eq_true, isPassed_iff port, not_or]
  constructor
  · rintro ⟨c, ⟨hc, hbreak⟩, hslash⟩
    exact ⟨c, hc, hslash, hbreak⟩
  · rintro ⟨c, hc, hslash, hbreak⟩
    exact ⟨c, ⟨hc, hbreak⟩, hslash⟩

theorem authorityOf_slashes {k : Kind} {slashes : List Char}
    (h : ∀ c ∈ slashes, k.isSlash c = true) (cs : List Char) :
    authorityOf k (slashes ++ cs) = authorityOf k cs := by
  rw [authorityOf, authorityOf, List.dropWhile_append_of_pos h]

/-- A slash behind a host is where its part of the address ends. -/
theorem authorityOf_append {k : Kind} {cs : List Char} (h : ∃ c ∈ cs, k.isSlash c = false)
    (rest : List Char) : authorityOf k (cs ++ '/' :: rest) = authorityOf k cs := by
  have hends : (!k.endsHost '/') = false := by
    rw [Kind.endsHost, Kind.isSlash]
    rfl
  have hsome : (cs.dropWhile k.isSlash).isEmpty = false := by
    rw [List.isEmpty_eq_false_iff, ne_eq, List.dropWhile_eq_nil_iff]
    obtain ⟨c, hc, hslash⟩ := h
    intro hall
    rw [hall c hc] at hslash
    cases hslash
  rw [authorityOf, authorityOf, List.dropWhile_append, hsome]
  simp only [Bool.false_eq_true, if_false, List.takeWhile_append]
  split
  · rename_i hall
    rw [List.takeWhile_cons_of_neg (by rw [hends]; decide), List.append_nil]
    exact ((List.takeWhile_prefix _).eq_of_length hall).symm
  · rfl

/-- Slashes alone hold no server. -/
theorem authorityOf_eq_nil {k : Kind} {cs : List Char} (h : ∀ c ∈ cs, k.isSlash c = true) :
    authorityOf k cs = [] := by
  rw [authorityOf, List.dropWhile_eq_nil_iff.mpr h, List.takeWhile_nil]

/-- A segment behind slashes is taken for what holds the server. -/
theorem authorityOf_segment {k : Kind} {slashes segment tail : List Char}
    (h : ∀ c ∈ slashes, k.isSlash c = true) (hsegment : ∀ c ∈ segment, k.endsHost c = false)
    (hne : segment ≠ []) (htail : ∀ c ∈ tail.head?, c = '/') :
    authorityOf k (slashes ++ (segment ++ tail)) = segment := by
  have hfirst : ∀ c ∈ (segment ++ tail).head?, k.isSlash c = false := by
    obtain ⟨d, ds, rfl⟩ := List.exists_cons_of_ne_nil hne
    rintro _ ⟨⟩
    have hd := hsegment d List.mem_cons_self
    rw [Kind.endsHost, Bool.or_eq_false_iff, Bool.or_eq_false_iff] at hd
    exact hd.1.1
  rw [authorityOf_slashes h, authorityOf, Text.dropWhile_head hfirst,
    List.takeWhile_append_of_pos fun c hc => by rw [hsegment c hc]; rfl]
  cases tail with
  | nil => rw [List.takeWhile_nil, List.append_nil]
  | cons c tail =>
      rw [htail c rfl, List.takeWhile_cons_of_neg, List.append_nil]
      rw [Kind.endsHost, Kind.isSlash]
      simp

/-! ## What stands behind the scheme -/

/-- What is passed over is slashes, once tabs and line breaks are gone. -/
theorem isSlash_of_mem_unbroken {cs : List Char} (h : ∀ c ∈ cs, isPassed c = true) :
    ∀ c ∈ unbroken cs, (Kind.web port).isSlash c = true := by
  intro c hc
  obtain ⟨hmem, htab, hline, hreturn⟩ := mem_unbroken.mp hc
  rcases (isPassed_iff port).mp (h c hmem) with hslash | hbreak | hbreak | hbreak
  · exact hslash
  · exact absurd hbreak htab
  · exact absurd hbreak hline
  · exact absurd hbreak hreturn

theorem last_slash (behind : List Char) : ∀ c ∈ (behind ++ ['/']).getLast?, 0x20 < c.toNat := by
  rw [List.getLast?_concat]
  rintro _ ⟨⟩
  decide

/-- **Where there is a host, nothing changes it** that follows a slash. -/
theorem server?_behind (hs : WebScheme scheme port) {behind : List Char}
    (h : ∃ c ∈ behind, isPassed c = false) (tail : List Char) :
    server? (String.ofList (scheme.toList ++ ':' :: (behind ++ '/' :: tail))) =
      serverOf? scheme (.web port) (authorityOf (.web port) (unbroken behind)) := by
  obtain ⟨kept, hclean, -⟩ := clean_behind hs (last_slash behind) tail
  rw [List.append_assoc, List.singleton_append, unbroken_append, unbroken_slash,
    List.append_assoc, List.cons_append] at hclean
  rw [server?_of_clean hs (by rw [String.toList_ofList, hclean]),
    authorityOf_append (exists_host_iff.mpr h)]

/-- **Where there is none, the next segment is taken for it.** -/
theorem server?_segment (hs : WebScheme scheme port) {behind segment tail : List Char}
    (h : ∀ c ∈ behind, isPassed c = true)
    (hsegment : ∀ c ∈ segment, 0x20 < c.toNat ∧ (Kind.web port).endsHost c = false)
    (hne : segment ≠ []) (htail : ∀ c ∈ tail.head?, c = '/') :
    server? (String.ofList (scheme.toList ++ ':' :: (behind ++ '/' :: (segment ++ tail)))) =
      serverOf? scheme (.web port) segment := by
  have hlast : ∀ c ∈ (behind ++ ['/'] ++ segment).getLast?, 0x20 < c.toNat := by
    rw [List.getLast?_append, List.getLast?_eq_some_getLast hne]
    rintro _ ⟨⟩
    exact (hsegment _ (List.getLast_mem hne)).1
  obtain ⟨kept, hclean, hkept⟩ := clean_behind hs hlast tail
  have hslashes : ∀ c ∈ unbroken (behind ++ ['/']), (Kind.web port).isSlash c = true := by
    refine isSlash_of_mem_unbroken (List.forall_mem_append.mpr ⟨h, fun c hc => ?_⟩)
    rw [List.mem_singleton.mp hc]
    rfl
  have hrest : ∀ c ∈ (unbroken kept).head?, c = '/' := by
    obtain ⟨lost, rfl⟩ := hkept
    cases kept with
    | nil => nofun
    | cons d kept =>
        rw [htail d rfl, unbroken_slash]
        rintro _ ⟨⟩
        rfl
  have hshape : behind ++ ['/'] ++ segment ++ tail = behind ++ '/' :: (segment ++ tail) := by
    rw [List.append_assoc, List.append_assoc, List.singleton_append]
  rw [hshape, unbroken_append, unbroken_of_solid fun c hc => (hsegment c hc).1,
    List.append_assoc] at hclean
  rw [server?_of_clean hs (by rw [String.toList_ofList, hclean]),
    authorityOf_segment hslashes (fun c hc => (hsegment c hc).2) hne hrest]

/-- Without blanks at the end, all that stands behind the scheme is looked at. -/
theorem server?_whole (hs : WebScheme scheme port) {behind : List Char}
    (hlast : ∀ c ∈ behind.getLast?, 0x20 < c.toNat) :
    server? (String.ofList (scheme.toList ++ ':' :: behind)) =
      serverOf? scheme (.web port) (authorityOf (.web port) (unbroken behind)) := by
  obtain ⟨kept, hclean, hkept⟩ := clean_behind hs hlast []
  rw [List.prefix_nil.mp hkept, List.append_nil] at hclean
  rw [server?_of_clean hs (by rw [String.toList_ofList, hclean]), unbroken, unbroken,
    List.filter_nil, List.append_nil]

/-- What is passed over is no address by itself. -/
theorem server?_passed (hs : WebScheme scheme port) {behind : List Char}
    (h : ∀ c ∈ behind, isPassed c = true) :
    server? (String.ofList (scheme.toList ++ ':' :: (behind ++ ['/']))) = none := by
  have hslashes : ∀ c ∈ unbroken (behind ++ ['/']), (Kind.web port).isSlash c = true := by
    refine isSlash_of_mem_unbroken (List.forall_mem_append.mpr ⟨h, fun c hc => ?_⟩)
    rw [List.mem_singleton.mp hc]
    rfl
  rw [server?_whole hs (last_slash behind), authorityOf_eq_nil hslashes]
  rfl

/-- A slash at the end changes nothing, but where blanks stand before it. -/
theorem server?_slash (hs : WebScheme scheme port) {behind : List Char}
    (hlast : ∀ c ∈ behind.getLast?, 0x20 < c.toNat) :
    server? (String.ofList (scheme.toList ++ ':' :: (behind ++ ['/']))) =
      server? (String.ofList (scheme.toList ++ ':' :: behind)) := by
  rw [server?_whole hs (last_slash behind), server?_whole hs hlast, unbroken_append, unbroken_slash]
  by_cases h : ∃ c ∈ unbroken behind, (Kind.web port).isSlash c = false
  · rw [show unbroken [] = [] from rfl, authorityOf_append h]
  · have hslashes : ∀ c ∈ unbroken behind, (Kind.web port).isSlash c = true := by
      simpa using h
    rw [authorityOf_slashes hslashes, authorityOf_eq_nil hslashes]
    rfl

end ForkCensus.Url
