import ForkCensus.Proofs.Json.Spelling
import ForkCensus.Proofs.Url.Segments

/-
# Addresses written down

An address that is put together from its parts is read as these.  A text
`Leads` to a host when every path whose segments are kept may stand behind
it, and any query or fragment behind that, and the host and the segments
are what is read.  `https://` and the name of a host do, whatever the case
of its letters, with a port or without one (`leads_web`), and so does
`ssh://` with the user of clones (`leads_ssh`).

Nothing is known of a query or a fragment but how it begins, and its end
may be lost with the blanks at the end of the address.  So the lemmas here
follow the front of the text, and say of the rest no more than that it
still `EndsPath`.
-/

namespace ForkCensus.Url

/-! ## Query and fragment -/

/-- Nothing, or a query, or a fragment. -/
def EndsPath (tail : List Char) : Prop :=
  ∀ c ∈ tail.head?, c = '?' ∨ c = '#'

theorem EndsPath.nil : EndsPath [] := nofun

theorem EndsPath.of_prefix {kept tail : List Char} (h : EndsPath tail) (hkept : kept <+: tail) :
    EndsPath kept := by
  obtain ⟨rest, rfl⟩ := hkept
  cases kept with
  | nil => exact EndsPath.nil
  | cons c kept => exact h

theorem EndsPath.filter {p : Char → Bool} {tail : List Char} (h : EndsPath tail)
    (hp : p '?' = true ∧ p '#' = true) : EndsPath (tail.filter p) := by
  cases tail with
  | nil => exact EndsPath.nil
  | cons c tail =>
      have hc : p c = true := by
        rcases h c rfl with rfl | rfl
        · exact hp.1
        · exact hp.2
      rw [List.filter_cons_of_pos hc]
      exact h

/-- The path goes up to the first question mark or number sign. -/
theorem cutTail_fst (k : Kind) (cs : List Char) :
    (cutTail k cs).1 = cs.takeWhile fun c => c != '?' && c != '#' := by
  have hboth : (cs.takeWhile fun c => c != '?' && c != '#') =
      (cs.takeWhile (· != '#')).takeWhile (· != '?') := by
    rw [List.takeWhile_takeWhile]
    simp only [Bool.decide_and, Bool.decide_eq_true]
  rw [hboth, ← Text.takeWhile_of_cut '#' cs]
  unfold cutTail
  cases Text.cut '#' cs with
  | none =>
      dsimp only [Option.map_none, Option.getD_none]
      rw [← Text.takeWhile_of_cut]
      cases Text.cut '?' cs <;> rfl
  | some parts =>
      obtain ⟨front, fragment⟩ := parts
      dsimp only [Option.map_some, Option.getD_some]
      rw [← Text.takeWhile_of_cut]
      cases Text.cut '?' front <;> rfl

theorem cutTail_append (k : Kind) {path tail : List Char} (hpath : ∀ c ∈ path, c ≠ '?' ∧ c ≠ '#')
    (htail : EndsPath tail) : (cutTail k (path ++ tail)).1 = path := by
  have hplain : ∀ c ∈ path, (c != '?' && c != '#') = true := fun c hc => by
    simpa using hpath c hc
  rw [cutTail_fst, List.takeWhile_append_of_pos hplain]
  cases tail with
  | nil => rw [List.takeWhile_nil, List.append_nil]
  | cons c tail =>
      rw [List.takeWhile_cons_of_neg, List.append_nil]
      rcases htail c rfl with rfl | rfl <;> decide

/-! ## Cleaning -/

/-- Text without blanks and controls is still there when an address is cleaned. -/
theorem clean_append {front tail : List Char} (hfront : ∀ c ∈ front, 0x20 < c.toNat)
    (hne : front ≠ []) (htail : EndsPath tail) :
    ∃ kept, clean (front ++ tail) = front ++ kept ∧ EndsPath kept := by
  have hsolid : ∀ c ∈ front, decide (c.toNat ≤ 0x20) = false := fun c hc =>
    decide_eq_false (Nat.not_le.mpr (hfront c hc))
  obtain ⟨kept, hstrip, hkept⟩ :=
    Text.strip_solid (a := []) (b := []) nofun hsolid hne nofun tail
  rw [List.nil_append, List.append_nil] at hstrip
  have hfilter : front.filter (fun c => c != '\t' && c != '\n' && c != '\r') = front := by
    rw [List.filter_eq_self]
    intro c hc
    have hbig := hfront c hc
    simp only [Bool.and_eq_true, bne_iff_ne]
    refine ⟨⟨?_, ?_⟩, ?_⟩ <;> rintro rfl <;> exact absurd hbig (by decide)
  refine ⟨kept.filter fun c => c != '\t' && c != '\n' && c != '\r', ?_,
    (htail.of_prefix hkept).filter ⟨by decide, by decide⟩⟩
  rw [clean, Text.strip, hstrip, List.filter_append, hfilter]

/-! ## Hosts -/

/-- A text without percent signs stands for its own bytes. -/
theorem Percent.decode_of_not_mem {cs : List Char} (h : '%' ∉ cs) :
    decode cs = cs.flatMap String.utf8EncodeChar := by
  induction cs with
  | nil => rw [decode, List.flatMap_nil]
  | cons c cs ih =>
      obtain ⟨hc, h⟩ := not_or.mp (List.mem_cons.not.mp h)
      rw [decode, ih h, List.flatMap_cons]
      intro a b rest hcs _
      exact hc hcs.symm

/-- Text that was written as bytes is read back. -/
theorem fromUTF8?_flatMap (cs : List Char) :
    String.fromUTF8? (cs.flatMap String.utf8EncodeChar).toByteArray = some (String.ofList cs) :=
  dif_pos ByteArray.isValidUTF8_utf8Encode

theorem isPlain_map_toLower (cs : List Char) :
    Idna.Domain.isPlain (cs.map Char.toLower) = Idna.Domain.isPlain cs := by
  have hdot : ∀ c : Char, (c.toLower == '.') = (c == '.') := fun c => by
    rw [Bool.eq_iff_iff, beq_iff_eq, beq_iff_eq]
    exact Text.toLower_eq_iff (by decide) (by decide)
  have hencoded : ∀ label : List Char,
      Idna.Label.isEncoded (label.map Char.toLower) = Idna.Label.isEncoded label := fun label => by
    rw [Idna.Label.isEncoded, Idna.Label.isEncoded, List.map_map]
    simp only [Function.comp_def, Text.toLower_toLower]
  rw [Idna.Domain.isPlain, Idna.Domain.isPlain, Idna.Domain.labels, Idna.Domain.labels,
    Text.pieces_map, List.all_map, List.any_map]
  simp only [Function.comp_def, hdot, hencoded, Text.isAscii_toLower]

/-- A name of a host as an address shows it. -/
structure Host.IsName (name : List Char) : Prop where
  plain : Idna.Domain.isPlain name = true
  allowed : ∀ c ∈ name, Idna.isForbidden c = false
  nonempty : name.isEmpty = false
  notNumber : Ipv4.endsInNumber name = false

/-- What no host holds is no letter, so no spelling of a name holds it either. -/
theorem Host.IsName.allowed_of_lower {cs name : List Char} (hname : IsName name)
    (h : cs.map Char.toLower = name) : ∀ c ∈ cs, Idna.isForbidden c = false := by
  intro c hc
  rcases Text.toLower_cases c with hself | ⟨hascii, hlower, -⟩
  · exact hname.allowed c (h ▸ List.mem_map.mpr ⟨c, hc, hself⟩)
  · exact Text.forall_ascii hascii (P := fun c => c.toLower.isLower = true →
      Idna.isForbidden c = false) (by decide) hlower

/-- **A host is read whatever the case of its letters.** -/
theorem Host.ofText?_of_lower {cs name : List Char} (hname : IsName name)
    (h : cs.map Char.toLower = name) : Host.ofText? cs = some (.name (String.ofList name)) := by
  have hallowed := hname.allowed_of_lower h
  have hbracket : bracketed? cs = none := by
    unfold bracketed?
    split
    · exact absurd rfl (Text.ne_of_apply (hallowed '[' List.mem_cons_self) (by decide))
    · rfl
  have hpercent : '%' ∉ cs := fun hc =>
    absurd rfl (Text.ne_of_apply (hallowed '%' hc) (by decide))
  have hany : name.any Idna.isForbidden = false :=
    List.any_eq_false.mpr fun c hc => by rw [hname.allowed c hc]; decide
  have hdomain : Idna.Domain.ofText? cs = some name := by
    rw [Idna.Domain.ofText?, if_pos (by rw [← isPlain_map_toLower, h, hname.plain]), h]
    exact if_neg (by rw [hany]; decide)
  rw [Host.ofText?, hbracket]
  simp only [Percent.decode_of_not_mem hpercent, fromUTF8?_flatMap, Option.bind_eq_bind,
    Option.bind_some, String.toList_ofList, hdomain, hname.nonempty, hname.notNumber]
  rfl

/-! ## Ports -/

/-- The digits of a number are read as the number. -/
theorem Ipv4.digits?_toDigits (n : Nat) : digits? 10 (Nat.toDigits 10 n) = some n := by
  have hdigit : ∀ m < 10, Text.hexValue? m.digitChar = some m := by decide
  induction n using Nat.strongRecOn with
  | ind n ih =>
      rw [Nat.toDigits_eq_if (by decide)]
      split
      · rename_i hlt
        rw [digits?, List.foldlM_cons, hdigit n hlt]
        simp [hlt]
      · rename_i hge
        have hlt : n % 10 < 10 := Nat.mod_lt n (by decide)
        have hfront := ih (n / 10) (by omega)
        rw [digits?] at hfront
        rw [digits?, List.foldlM_append, hfront, Option.bind_eq_bind, Option.bind_some,
          List.foldlM_cons, hdigit _ hlt]
        simp only [hlt, if_true, List.foldlM_nil, Option.bind_eq_bind, Option.bind_some,
          Option.pure_def, Nat.div_add_mod]

/-- A port as it is written, behind a colon; nothing if there is none. -/
def portText : Option UInt16 → List Char
  | none => []
  | some port => ':' :: (toString port).toList

theorem toList_toString_port (port : UInt16) :
    (toString port).toList = Nat.toDigits 10 port.toNat := by
  show (Nat.repr port.toNat).toList = _
  rw [Nat.repr, String.toList_ofList]

theorem readPort?_portText (port : Option UInt16) :
    readPort? (portText port) = some (port, []) := by
  cases port with
  | none => rfl
  | some port =>
      have hdigits := Json.Token.all_isDigit_toDigits port.toNat
      have hall : (Nat.toDigits 10 port.toNat).takeWhile Char.isDigit =
          Nat.toDigits 10 port.toNat := List.takeWhile_eq_self_iff.mpr hdigits
      have hnumber : portNumber? (Nat.toDigits 10 port.toNat) = some (some port) := by
        have hne : (Nat.toDigits 10 port.toNat).isEmpty = false :=
          List.isEmpty_eq_false_iff.mpr Nat.toDigits_ne_nil
        simp only [portNumber?, hne, Bool.false_eq_true, if_false, Ipv4.digits?_toDigits,
          if_pos port.toNat_lt, UInt16.ofNat_toNat]
      rw [portText, toList_toString_port, readPort?]
      simp only [hall, List.drop_length, hnumber, Option.map_some]

/-! ## What stands before the path -/

theorem cutHost_append {host : List Char} (hhost : ∀ c ∈ host, c ≠ ':' ∧ c ≠ '[' ∧ c ≠ ']')
    (port : Option UInt16) : cutHost false (host ++ portText port) = (host, portText port) := by
  induction host with
  | nil => cases port <;> rfl
  | cons c host ih =>
      obtain ⟨⟨hcolon, hleft, hright⟩, hhost⟩ := List.forall_mem_cons.mp hhost
      rw [List.cons_append, cutHost, if_neg (by simp [hcolon])]
      simp only [beq_false_of_ne hleft, beq_false_of_ne hright, Bool.false_eq_true, if_false,
        ih hhost]

/-- A port is written with a colon and digits. -/
theorem plain_of_mem_portText {port : Option UInt16} {c : Char} (h : c ∈ portText port) :
    Text.isAscii c = true ∧ 0x20 < c.toNat ∧ c ≠ '@' ∧ c ≠ '/' ∧ c ≠ '\\' ∧ c ≠ '?' ∧ c ≠ '#' := by
  cases port with
  | none => cases h
  | some port =>
      rw [portText, toList_toString_port, List.mem_cons] at h
      rcases h with rfl | h
      · decide
      · have hdigit := Json.Token.all_isDigit_toDigits port.toNat c h
        have hascii : Text.isAscii c = true := Text.isAscii_of_isAlphanum (by
          rw [Char.isAlphanum, hdigit, Bool.or_true])
        exact ⟨hascii, Text.forall_ascii hascii (P := fun c => c.isDigit = true →
          0x20 < c.toNat ∧ c ≠ '@' ∧ c ≠ '/' ∧ c ≠ '\\' ∧ c ≠ '?' ∧ c ≠ '#') (by decide) hdigit⟩

section

variable {text name : List Char} (hname : Host.IsName name) (h : text.map Char.toLower = name)

include hname h

/-- Neither the name of a host nor a port ends the part of an address with the host. -/
theorem plain_of_mem_authority {port : Option UInt16} {c : Char} (hc : c ∈ text ++ portText port) :
    Text.isAscii c = true ∧ 0x20 < c.toNat ∧ c ≠ '@' ∧ c ≠ '/' ∧ c ≠ '\\' ∧ c ≠ '?' ∧ c ≠ '#' := by
  rcases List.mem_append.mp hc with hc | hc
  · have hallowed := hname.allowed_of_lower h c hc
    have hne {d : Char} (hd : Idna.isForbidden d = true) : c ≠ d := Text.ne_of_apply hallowed hd
    refine ⟨?_, ?_, hne (by decide), hne (by decide), hne (by decide), hne (by decide),
      hne (by decide)⟩
    · have hplain := hname.plain
      rw [Idna.Domain.isPlain, Bool.and_eq_true, List.all_eq_true] at hplain
      rw [← Text.isAscii_toLower]
      exact hplain.1 _ (h ▸ List.mem_map_of_mem hc)
    · rw [Idna.isForbidden, Bool.or_eq_false_iff, Bool.or_eq_false_iff] at hallowed
      exact Nat.not_le.mp (of_decide_eq_false hallowed.1.1)
  · exact plain_of_mem_portText hc

theorem endsHost_eq_false_of_mem_authority {k : Kind} {port : Option UInt16} {c : Char}
    (hc : c ∈ text ++ portText port) : k.endsHost c = false := by
  obtain ⟨-, -, -, hslash, hback, hquery, hfragment⟩ := plain_of_mem_authority hname h hc
  rw [Kind.endsHost, Kind.isSlash_eq_false hslash hback, beq_false_of_ne hquery,
    beq_false_of_ne hfragment]
  rfl

/-- No more slashes are dropped before a host than there are. -/
theorem dropWhile_authority (k : Kind) (port : Option UInt16) (rest : List Char) :
    (text ++ portText port ++ rest).dropWhile k.isSlash = text ++ portText port ++ rest := by
  refine Text.dropWhile_head fun c hc => ?_
  cases text with
  | nil =>
      have hnonempty := hname.nonempty
      rw [← h] at hnonempty
      cases hnonempty
  | cons d text =>
      cases hc
      have hmem : c ∈ c :: text ++ portText port := List.mem_cons_self
      obtain ⟨-, -, -, hslash, hback, -⟩ := plain_of_mem_authority hname h hmem
      exact Kind.isSlash_eq_false hslash hback

/-- The name of a host and a port are read as these. -/
theorem readAuthority?_web {k : Kind} (hk : k.isSpecial = true) (port : Option UInt16)
    (atEnd : Bool) :
    ∃ a, readAuthority? k (text ++ portText port) atEnd = some a ∧
      a.host = some (.name (String.ofList name)) ∧ a.rest = [] := by
  have hne {c d : Char} (hc : c ∈ text) (hd : Idna.isForbidden d = true) : c ≠ d :=
    Text.ne_of_apply (hname.allowed_of_lower h c hc) hd
  have hmem : '@' ∉ (text ++ portText port).reverse := fun hc =>
    (plain_of_mem_authority hname h (List.mem_reverse.mp hc)).2.2.1 rfl
  have huser : cutUser (text ++ portText port) = (none, text ++ portText port) := by
    rw [cutUser, Text.cut_eq_none hmem]
  have hcut := cutHost_append
    (fun c hc => ⟨hne hc (by decide), hne hc (by decide), hne hc (by decide)⟩) port
  have hnonempty : text.isEmpty = false := by
    rw [← hname.nonempty, ← h, List.isEmpty_map]
  simp only [readAuthority?, huser, hcut, hnonempty, hk, Host.ofText?_of_lower hname h,
    readPort?_portText, if_true, Bool.false_eq_true, if_false, Option.bind_eq_bind,
    Option.bind_some, Option.pure_def]
  exact ⟨_, rfl, rfl, rfl⟩

end

/-! ## Reading what was put together -/

/-- What is not encoded in a path is no blank, and does not end the path. -/
theorem solid_of_plain {c : Char} (h : Percent.inPath c = false) :
    0x20 < c.toNat ∧ c ≠ '?' ∧ c ≠ '#' := by
  have hne {d : Char} (hd : Percent.inPath d = true) : c ≠ d := Text.ne_of_apply h hd
  refine ⟨?_, hne (by decide), hne (by decide)⟩
  have hlow : ¬c.toNat < 0x20 := by
    intro hlow
    rw [Percent.inPath, Percent.inFragment, Percent.inHost, decide_eq_true hlow] at h
    cases h
  have hspace : c.toNat ≠ 0x20 := fun heq => hne (d := ' ') (by decide) (Char.toNat_inj.mp heq)
  omega

theorem solid_of_mem_slashed {k : Kind} {segments : List (List Char)}
    (h : ∀ s ∈ segments, Kept k s) {c : Char} (hc : c ∈ slashed segments) :
    0x20 < c.toNat ∧ c ≠ '?' ∧ c ≠ '#' := by
  obtain ⟨segment, hsegment, hc⟩ := List.mem_flatMap.mp hc
  rcases List.mem_cons.mp hc with rfl | hc
  · decide
  · exact solid_of_plain ((h segment hsegment).plain c hc).1

/-- What stands between two slashes and a path is read, and then the path. -/
theorem readHosted?_slashed {k : Kind} (scheme : String) {authority tail segment : List Char}
    {more : List (List Char)} {host : Host} (hplain : ∀ c ∈ authority, k.endsHost c = false)
    (hread : ∃ a, readAuthority? k authority false = some a ∧ a.host = some host ∧ a.rest = [])
    (hsegments : ∀ s ∈ segment :: more, Kept k s) (htail : EndsPath tail) :
    ∃ u, readHosted? k scheme (authority ++ (slashed (segment :: more) ++ tail)) = some u ∧
      u.host = some host ∧ u.segments = (segment :: more).map String.ofList := by
  obtain ⟨a, ha, hhost, hrest⟩ := hread
  have htake : (authority ++ (slashed (segment :: more) ++ tail)).takeWhile
      (fun c => !k.endsHost c) = authority := by
    rw [List.takeWhile_append_of_pos fun c hc => by rw [hplain c hc]; rfl, slashed_cons,
      List.cons_append, List.takeWhile_cons_of_neg, List.append_nil]
    rw [Kind.endsHost, k.isSlash_slash]
    decide
  have hafter : (slashed (segment :: more) ++ tail).isEmpty = false := rfl
  have hcut := cutTail_append k (fun c hc => (solid_of_mem_slashed hsegments hc).2) htail
  simp only [readHosted?, htake, List.drop_left, hafter, ha, hrest, Option.bind_eq_bind,
    Option.bind_some, List.nil_append, hcut, readPath_slashed hsegments, Option.pure_def]
  exact ⟨_, rfl, hhost, rfl⟩

/-- Behind the text there may stand any path whose segments are kept, and a query or a fragment
behind that: the host and the segments are what is read. -/
def Leads (text : List Char) (k : Kind) (host : Host) : Prop :=
  ∀ ⦃segment tail : List Char⦄ ⦃more : List (List Char)⦄,
    (∀ s ∈ segment :: more, Kept k s) → EndsPath tail →
    ∃ u, ofText? (String.ofList (text ++ (slashed (segment :: more) ++ tail))) = some u ∧
      u.host = some host ∧ u.segments = (segment :: more).map String.ofList

/-- Cleaning leaves the front of an address as it is. -/
theorem clean_slashed {k : Kind} {text segment tail : List Char} {more : List (List Char)}
    (htext : ∀ c ∈ text, 0x20 < c.toNat) (hsegments : ∀ s ∈ segment :: more, Kept k s)
    (htail : EndsPath tail) :
    ∃ kept, clean (text ++ (slashed (segment :: more) ++ tail)) =
      text ++ (slashed (segment :: more) ++ kept) ∧ EndsPath kept := by
  have hfront : ∀ c ∈ text ++ slashed (segment :: more), 0x20 < c.toNat := by
    intro c hc
    rcases List.mem_append.mp hc with hc | hc
    · exact htext c hc
    · exact (solid_of_mem_slashed hsegments hc).1
  obtain ⟨kept, hclean, hkept⟩ := clean_append hfront (by simp [slashed_cons]) htail
  refine ⟨kept, ?_, hkept⟩
  rw [← List.append_assoc, hclean, List.append_assoc]

/-- **A scheme of the web, the name of a host and a port lead to the host.** -/
theorem leads_web {word text name : List Char} {scheme : String} {usual : UInt16}
    (hcut : ∀ rest, cutScheme? (word ++ ':' :: rest) = some (scheme, rest))
    (hkind : Kind.of scheme = .web usual) (hword : ∀ c ∈ word, 0x20 < c.toNat)
    (hname : Host.IsName name) (h : text.map Char.toLower = name) (port : Option UInt16) :
    Leads (word ++ "://".toList ++ (text ++ portText port)) (.web usual)
      (.name (String.ofList name)) := by
  intro segment tail more hsegments htail
  have hends : ∀ c ∈ text ++ portText port, (Kind.web usual).endsHost c = false :=
    fun c hc => endsHost_eq_false_of_mem_authority hname h hc
  have hsolid : ∀ c ∈ word ++ "://".toList ++ (text ++ portText port), 0x20 < c.toNat := by
    have hmark : ∀ c ∈ "://".toList, 0x20 < c.toNat := Text.forall_mem_of_all (by decide)
    refine List.forall_mem_append.mpr ⟨List.forall_mem_append.mpr ⟨hword, hmark⟩, fun c hc => ?_⟩
    exact (plain_of_mem_authority hname h hc).2.1
  obtain ⟨kept, hclean, hkept⟩ := clean_slashed hsolid hsegments htail
  obtain ⟨u, hu, hresult⟩ := readHosted?_slashed scheme hends
    (readAuthority?_web hname h (k := .web usual) rfl port false) hsegments hkept
  refine ⟨u, ?_, hresult⟩
  have hshape : word ++ "://".toList ++ (text ++ portText port) ++
      (slashed (segment :: more) ++ kept) = word ++ ':' :: ('/' :: '/' ::
        (text ++ portText port ++ (slashed (segment :: more) ++ kept))) := by
    simp only [List.append_assoc]
    rfl
  have hdrop : ('/' :: '/' :: (text ++ portText port ++
      (slashed (segment :: more) ++ kept))).dropWhile (Kind.web usual).isSlash =
        text ++ portText port ++ (slashed (segment :: more) ++ kept) := by
    rw [List.dropWhile_cons_of_pos rfl, List.dropWhile_cons_of_pos rfl,
      dropWhile_authority hname h]
  rw [ofText?, String.toList_ofList, hclean, hshape, hcut]
  simp only [Option.bind_eq_bind, Option.bind_some, hkind, hdrop]
  exact hu

/-- A clone address leads to its host, with the user before it. -/
theorem leads_ssh : Leads "ssh://git@github.com".toList .other (.name "github.com") := by
  intro segment tail more hsegments htail
  have hsolid : ∀ c ∈ "ssh://git@github.com".toList, 0x20 < c.toNat :=
    Text.forall_mem_of_all (by decide)
  have hends : ∀ c ∈ "git@github.com".toList, Kind.other.endsHost c = false :=
    Text.forall_mem_of_all (by decide)
  have hread : ∃ a, readAuthority? .other "git@github.com".toList false = some a ∧
      a.host = some (.name "github.com") ∧ a.rest = [] := ⟨_, rfl, rfl, rfl⟩
  obtain ⟨kept, hclean, hkept⟩ := clean_slashed hsolid hsegments htail
  obtain ⟨u, hu, hresult⟩ := readHosted?_slashed "ssh" hends hread hsegments hkept
  refine ⟨u, ?_, hresult⟩
  rw [ofText?, String.toList_ofList, hclean]
  exact hu

end ForkCensus.Url
