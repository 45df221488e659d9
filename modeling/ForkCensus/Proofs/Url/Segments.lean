import ForkCensus.Url.Basic
import ForkCensus.Proofs.Text.Case
import ForkCensus.Proofs.Text.Cutting
import ForkCensus.Proofs.Text.Utf8

/-
# What the segments of a path are like

Whatever address they were read from, the segments of a path are `Kept`:
they are plain ASCII without anything that is encoded in a path, without
a separator, and they are not dots (`ofText?_kept`).  Segments that are
kept and written one after the other are read as themselves
(`readPath_slashed`), so reading a path a second time changes nothing.

What makes a segment of dots special is that the dots may be encoded.
Encoding makes no new ones: of what is encoded, nothing is a dot
(`dots?_encode`).
-/

namespace ForkCensus

namespace Url

/-! ## Encoded text -/

namespace Percent

/-- The characters that a byte is encoded with. -/
def marks : List Char := "%0123456789ABCDEF".toList

theorem mem_marks_of_mem_byte {b : UInt8} {c : Char} (h : c ∈ byte b) : c ∈ marks := by
  have hdigit : ∀ n < 16, digit n ∈ marks := by decide
  have hb : b.toNat < 256 := b.toNat_lt
  simp only [byte, List.mem_cons, List.not_mem_nil, or_false] at h
  rcases h with rfl | rfl | rfl
  · decide
  · exact hdigit _ (by omega)
  · exact hdigit _ (by omega)

/-- Encoded text has what was not encoded, and what bytes are encoded with. -/
theorem mem_encode {p : Char → Bool} {cs : List Char} {c : Char} (h : c ∈ encode p cs) :
    (c ∈ cs ∧ p c = false ∧ Text.isAscii c = true) ∨ c ∈ marks := by
  obtain ⟨d, hd, hc⟩ := List.mem_flatMap.mp h
  split at hc
  · obtain ⟨b, -, hb⟩ := List.mem_flatMap.mp hc
    exact .inr (mem_marks_of_mem_byte hb)
  · rename_i hplain
    rw [List.mem_singleton] at hc
    subst hc
    simp only [Bool.or_eq_true, Bool.not_eq_true', not_or, Bool.not_eq_true,
      Bool.not_eq_false] at hplain
    exact .inl ⟨hd, hplain⟩

/-- Text in which there is nothing to encode. -/
theorem encode_of_plain {p : Char → Bool} {cs : List Char}
    (h : ∀ c ∈ cs, p c = false ∧ Text.isAscii c = true) : encode p cs = cs := by
  induction cs with
  | nil => rfl
  | cons c cs ih =>
      obtain ⟨⟨hp, hascii⟩, h⟩ := List.forall_mem_cons.mp h
      have hrest : encode p cs = cs := ih h
      rw [encode] at hrest ⊢
      rw [List.flatMap_cons, hrest, hp, hascii]
      rfl

/-- Where anything is encoded, one of its bytes is seen. -/
theorem encode_cases (p : Char → Bool) (cs : List Char) :
    encode p cs = cs ∨ ∃ c b, (p c = true ∨ Text.isAscii c = false) ∧
      b ∈ String.utf8EncodeChar c ∧ byte b <:+: encode p cs := by
  by_cases h : ∃ c ∈ cs, (p c || !Text.isAscii c) = true
  · right
    obtain ⟨c, hc, hcond⟩ := h
    obtain ⟨b, hb⟩ := List.exists_mem_of_ne_nil _ (String.utf8EncodeChar_ne_nil (c := c))
    refine ⟨c, b, by simpa using hcond, hb, ?_⟩
    have hchar : byte b <:+: (String.utf8EncodeChar c).flatMap byte :=
      List.infix_of_mem_flatten (List.mem_map_of_mem hb)
    refine hchar.trans (List.infix_of_mem_flatten (List.mem_map.mpr ⟨c, hc, ?_⟩))
    rw [if_pos hcond]
  · left
    refine encode_of_plain fun c hc => ?_
    have hplain : ¬(p c || !Text.isAscii c) = true := fun hcond => h ⟨c, hc, hcond⟩
    simpa using hplain

end Percent

/-! ## Dots -/

/-- The segments that are dots, in small letters. -/
def dotForms : List (List Char) :=
  [".", "%2e", "..", ".%2e", "%2e.", "%2e%2e"].map String.toList

theorem mem_dotForms {segment : List Char} (h : dots? segment ≠ none) :
    segment.map Char.toLower ∈ dotForms := by
  have hfold (form : String) (heq : (String.ofList segment).map Char.toLower = form) :
      segment.map Char.toLower = form.toList := by
    rw [← heq, String.toList_map, String.toList_ofList]
  unfold dots? at h
  split at h
  all_goals first
    | exact absurd rfl h
    | rename_i heq
      rw [hfold _ heq]
      decide

theorem dots?_eq_none {segment : List Char} (h : segment.map Char.toLower ∉ dotForms) :
    dots? segment = none :=
  Decidable.byContradiction fun hdots => h (mem_dotForms hdots)

/-- Dots that are not encoded. -/
theorem eq_dots {segment : List Char} (h : dots? segment ≠ none) (hpercent : '%' ∉ segment) :
    segment = ['.'] ∨ segment = ['.', '.'] := by
  have hforms : ∀ form ∈ dotForms, '%' ∉ form →
      form.all (· == '.') = true ∧ (form.length = 1 ∨ form.length = 2) := by decide
  obtain ⟨hdots, hlength⟩ := hforms _ (mem_dotForms h) fun hmem =>
    hpercent (Text.mem_of_mem_map_toLower (by decide) (by decide) hmem)
  have hall : ∀ c ∈ segment, c = '.' := fun c hc =>
    (Text.toLower_eq_iff (by decide) (by decide)).mp
      (beq_iff_eq.mp (List.all_eq_true.mp hdots _ (List.mem_map_of_mem hc)))
  rw [List.length_map] at hlength
  rw [List.eq_replicate_of_mem hall]
  rcases hlength with hlength | hlength
  · exact .inl (by rw [hlength]; rfl)
  · exact .inr (by rw [hlength]; rfl)

/-- The only dot among the bytes that may be encoded is the dot itself. -/
theorem eq_dot_of_mem_utf8EncodeChar {c : Char} (h : 0x2E ∈ String.utf8EncodeChar c) : c = '.' :=
  Char.toNat_inj.mp (Text.toNat_of_mem_utf8EncodeChar h (by decide))

/-- An encoded byte that is seen in a segment of dots is a dot. -/
theorem eq_dot_of_byte {b : UInt8} {segment : List Char} (hsegment : dots? segment ≠ none)
    (hb : Percent.byte b <:+: segment) : b = 0x2E := by
  have hall : ∀ n < 256, ∀ form ∈ dotForms,
      (Percent.byte (.ofNat n)).map Char.toLower <:+: form → n = 0x2E := by
    decide +kernel
  have hn := hall b.toNat b.toNat_lt _ (mem_dotForms hsegment)
  rw [UInt8.ofNat_toNat] at hn
  exact UInt8.toNat_inj.mp (hn (hb.map _))

/-- A segment that is not dots is none when it is encoded. -/
theorem dots?_encode {segment : List Char} (h : dots? segment = none) :
    dots? (Percent.encode Percent.inPath segment) = none := by
  rcases Percent.encode_cases Percent.inPath segment with hsame | ⟨c, b, hc, hb, hseen⟩
  · rw [hsame]
    exact h
  · by_contra hdots
    have hdot : c = '.' := eq_dot_of_mem_utf8EncodeChar (eq_dot_of_byte hdots hseen ▸ hb)
    subst hdot
    revert hc
    decide

/-! ## Segments that are kept -/

theorem Kind.isSlash_eq_false {k : Kind} {c : Char} (h : c ≠ '/') (h' : c ≠ '\\') :
    k.isSlash c = false := by
  rw [isSlash, beq_false_of_ne h, beq_false_of_ne h']
  rfl

theorem Kind.isSlash_slash (k : Kind) : k.isSlash '/' = true := rfl

theorem Kind.isSlash_other : Kind.other.isSlash = (· == '/') := by
  funext c
  rw [isSlash, isSpecial]
  simp

/-- A segment that is read as itself: it has nothing to encode and no separator, and is not dots. -/
structure Kept (k : Kind) (segment : List Char) : Prop where
  plain : ∀ c ∈ segment,
    Percent.inPath c = false ∧ Text.isAscii c = true ∧ k.isSlash c = false
  still : dots? segment = none

variable {k : Kind}

theorem Kept.nil : Kept k [] := ⟨nofun, dots?_eq_none (by decide)⟩

theorem Kept.encode {segment : List Char} (h : Kept k segment) :
    Percent.encode Percent.inPath segment = segment :=
  Percent.encode_of_plain fun c hc => ⟨(h.plain c hc).1, (h.plain c hc).2.1⟩

/-- A piece between separators is kept, once it is encoded. -/
theorem kept_encode {piece : List Char} (hpiece : ∀ c ∈ piece, k.isSlash c = false)
    (hdots : dots? piece = none) : Kept k (Percent.encode Percent.inPath piece) := by
  refine ⟨fun c hc => ?_, dots?_encode hdots⟩
  rcases Percent.mem_encode hc with ⟨hmem, hplain, hascii⟩ | hmark
  · exact ⟨hplain, hascii, hpiece c hmem⟩
  · have hmarks : ∀ c ∈ Percent.marks, Percent.inPath c = false ∧ Text.isAscii c = true ∧
        c ≠ '/' ∧ c ≠ '\\' := Text.forall_mem_of_all (by decide)
    obtain ⟨hplain, hascii, hslash, hback⟩ := hmarks c hmark
    exact ⟨hplain, hascii, Kind.isSlash_eq_false hslash hback⟩

/-! ## One segment after the other -/

theorem addSegment_kept {done : List (List Char)} {segment : List Char} (isLast : Bool)
    (hdone : ∀ s ∈ done, Kept k s) (hsegment : ∀ c ∈ segment, k.isSlash c = false) :
    ∀ s ∈ addSegment done segment isLast, Kept k s := by
  have hended {path : List (List Char)} (h : ∀ s ∈ path, Kept k s) :
      ∀ s ∈ if isLast then [] :: path else path, Kept k s := by
    split
    · exact List.forall_mem_cons.mpr ⟨Kept.nil, h⟩
    · exact h
  unfold addSegment
  cases hdots : dots? segment with
  | none => exact List.forall_mem_cons.mpr ⟨kept_encode hsegment hdots, hdone⟩
  | some dots =>
      cases dots with
      | one => exact hended hdone
      | two =>
          refine hended fun s hs => hdone s ?_
          cases done with
          | nil => exact hs
          | cons last above =>
              rw [dropSegment] at hs
              split at hs
              · exact hs
              · exact List.mem_cons_of_mem _ hs

theorem addSegments_kept {pieces done : List (List Char)} (hdone : ∀ s ∈ done, Kept k s)
    (hpieces : ∀ piece ∈ pieces, ∀ c ∈ piece, k.isSlash c = false) :
    ∀ s ∈ addSegments done pieces, Kept k s := by
  induction pieces generalizing done with
  | nil => exact hdone
  | cons piece pieces ih =>
      obtain ⟨hpiece, hpieces⟩ := List.forall_mem_cons.mp hpieces
      exact ih (addSegment_kept pieces.isEmpty hdone hpiece) hpieces

theorem segmentsOf_kept (k : Kind) (cs : List Char) :
    ∀ s ∈ segmentsOf k.isSlash cs, Kept k s.toList := by
  intro s hs
  rw [segmentsOf, segmentsBelow, List.mem_map] at hs
  obtain ⟨segment, hsegment, rfl⟩ := hs
  rw [String.toList_ofList]
  exact addSegments_kept (by nofun) (fun piece hpiece => Text.not_sep_of_mem_pieces hpiece)
    segment (List.mem_reverse.mp hsegment)

/-! ## Files -/

namespace Drive

/-- A letter and a colon are kept. -/
theorem kept_drive {letter : Char} (h : letter.isAlpha = true) : Kept k [letter, ':'] := by
  have hascii : Text.isAscii letter = true := Text.isAscii_of_isAlphanum (by
    rw [Char.isAlphanum, h, Bool.true_or])
  obtain ⟨hplain, hslash, hback⟩ := Text.forall_ascii hascii
    (P := fun c => c.isAlpha = true → Percent.inPath c = false ∧ c ≠ '/' ∧ c ≠ '\\') (by decide) h
  refine ⟨fun c hc => ?_, dots?_eq_none fun hdots => ?_⟩
  · simp only [List.mem_cons, List.not_mem_nil, or_false] at hc
    rcases hc with rfl | rfl
    · exact ⟨hplain, hascii, Kind.isSlash_eq_false hslash hback⟩
    · exact ⟨by decide, by decide, Kind.isSlash_eq_false (by decide) (by decide)⟩
  · have hcolon : ∀ form ∈ dotForms, ':' ∉ form := by decide
    exact hcolon _ hdots (List.mem_cons_of_mem _ List.mem_cons_self)

theorem split_cases (segment : List Char) : split segment = [segment] ∨
    ∃ letter rest, letter.isAlpha = true ∧ split segment = [[letter, ':'], rest] ∧
      rest ⊆ segment := by
  unfold split
  split
  · split
    · rename_i letter c rest hletter
      exact .inr ⟨letter, c :: rest, hletter, rfl, fun d hd =>
        List.mem_cons_of_mem _ (List.mem_cons_of_mem _ hd)⟩
    · exact .inl rfl
  · exact .inl rfl

theorem Walk.add_kept {w : Walk} {segment : List Char} (isLast : Bool)
    (hdone : ∀ s ∈ w.done, Kept .file s) (hsegment : ∀ c ∈ segment, Kind.file.isSlash c = false) :
    ∀ s ∈ (w.add segment isLast).done, Kept .file s := by
  unfold Walk.add
  split
  · split
    · rename_i hdrive
      match segment, hdrive with
      | [letter, sign], hdrive =>
          rw [isDrive, Bool.and_eq_true] at hdrive
          exact List.forall_mem_singleton.mpr (kept_drive hdrive.1)
    · rcases split_cases segment with hsplit | ⟨letter, rest, hletter, hsplit, hrest⟩
      · rw [hsplit]
        exact addSegment_kept isLast nofun hsegment
      · rw [hsplit]
        exact addSegment_kept isLast (List.forall_mem_singleton.mpr (kept_drive hletter))
          fun c hc => hsegment c (hrest hc)
  · exact addSegment_kept isLast hdone hsegment

theorem Walk.addAll_kept {pieces : List (List Char)} {w : Walk}
    (hdone : ∀ s ∈ w.done, Kept .file s)
    (hpieces : ∀ piece ∈ pieces, ∀ c ∈ piece, Kind.file.isSlash c = false) :
    ∀ s ∈ (w.addAll pieces).done, Kept .file s := by
  induction pieces generalizing w with
  | nil => exact hdone
  | cons piece pieces ih =>
      obtain ⟨hpiece, hpieces⟩ := List.forall_mem_cons.mp hpieces
      exact ih (w.add_kept pieces.isEmpty hdone hpiece) hpieces

theorem segmentsOf_kept (cs : List Char) :
    ∀ s ∈ (Drive.segmentsOf cs).1, Kept .file s.toList := by
  have hslash : Kind.file.isSlash = fun c => c == '/' || c == '\\' := by
    funext c
    rw [Kind.isSlash, show Kind.file.isSpecial = true from rfl, Bool.and_true]
  have hwalk : ∀ s ∈ (Walk.addAll ⟨[], false⟩ (Text.pieces Kind.file.isSlash cs)).done,
      Kept .file s :=
    Walk.addAll_kept nofun fun piece hpiece => Text.not_sep_of_mem_pieces hpiece
  intro s hs
  rw [Drive.segmentsOf, ← hslash] at hs
  split at hs
  · rw [List.mem_singleton.mp hs]
    exact Kept.nil
  · obtain ⟨segment, hsegment, rfl⟩ := List.mem_map.mp hs
    rw [String.toList_ofList]
    exact hwalk segment (List.mem_reverse.mp ((List.dropWhile_sublist _).mem hsegment))

end Drive

/-! ## Addresses -/

theorem readPath_kept {cs : List Char} {list : List String} (h : readPath k cs = .segments list) :
    ∀ s ∈ list, Kept k s.toList := by
  unfold readPath at h
  split at h
  · cases h
    intro s hs
    split at hs
    · rw [List.mem_singleton.mp hs]
      exact Kept.nil
    · cases hs
  · cases h
    exact segmentsOf_kept k _

theorem readHosted?_kept {scheme : String} {cs : List Char} {u : Url}
    (h : readHosted? k scheme cs = some u) :
    u.scheme = scheme ∧ ∀ s ∈ u.segments, Kept k s.toList := by
  unfold readHosted? at h
  simp only [Option.bind_eq_bind, Option.bind_eq_some_iff] at h
  obtain ⟨authority, -, h⟩ := h
  cases h
  refine ⟨rfl, ?_⟩
  unfold segments
  dsimp only
  split
  · rename_i heq
    exact readPath_kept heq
  · nofun

theorem readFile?_kept {cs : List Char} {u : Url} (h : readFile? cs = some u) :
    u.scheme = "file" ∧ ∀ s ∈ u.segments, Kept .file s.toList := by
  unfold readFile? at h
  split at h
  · dsimp only at h
    split at h
    · obtain ⟨⟨host, rest⟩, -, h⟩ := Option.bind_eq_some_iff.mp h
      cases h
      exact ⟨rfl, Drive.segmentsOf_kept _⟩
    · cases h
      exact ⟨rfl, Drive.segmentsOf_kept _⟩
  · cases h
    exact ⟨rfl, Drive.segmentsOf_kept _⟩

theorem readOther?_kept {scheme : String} {cs : List Char} {u : Url}
    (h : readOther? scheme cs = some u) :
    u.scheme = scheme ∧ ∀ s ∈ u.segments, Kept .other s.toList := by
  unfold readOther? at h
  split at h
  · exact readHosted?_kept h
  · cases h
    refine ⟨rfl, ?_⟩
    unfold segments
    dsimp only
    split
    · rename_i heq
      split at heq
      · cases heq
        rw [← Kind.isSlash_other]
        exact segmentsOf_kept .other _
      · cases heq
    · nofun

/-- **The segments of an address are kept**, whatever text it was read from. -/
theorem ofText?_kept {text : String} {u : Url} (h : ofText? text = some u) :
    ∀ s ∈ u.segments, Kept (Kind.of u.scheme) s.toList := by
  unfold ofText? at h
  simp only [Option.bind_eq_bind, Option.bind_eq_some_iff] at h
  obtain ⟨⟨scheme, rest⟩, -, h⟩ := h
  dsimp only at h
  split at h
  · rename_i port hkind
    obtain ⟨hscheme, hkept⟩ := readHosted?_kept h
    rwa [hscheme, hkind]
  · obtain ⟨hscheme, hkept⟩ := readFile?_kept h
    rwa [hscheme]
  · rename_i hkind
    obtain ⟨hscheme, hkept⟩ := readOther?_kept h
    rwa [hscheme, hkind]

/-! ## Segments written down -/

/-- Segments as a path, a slash before each. -/
def slashed (segments : List (List Char)) : List Char :=
  segments.flatMap ('/' :: ·)

theorem slashed_cons (segment : List Char) (more : List (List Char)) :
    slashed (segment :: more) = '/' :: (segment ++ slashed more) := rfl

theorem pieces_slashed {segment : List Char} {more : List (List Char)}
    (h : ∀ s ∈ segment :: more, Kept k s) :
    Text.pieces k.isSlash (segment ++ slashed more) = segment :: more := by
  have hplain {s : List Char} (h : Kept k s) : ∀ c ∈ s, k.isSlash c = false :=
    fun c hc => (h.plain c hc).2.2
  induction more generalizing segment with
  | nil =>
      rw [slashed, List.flatMap_nil, List.append_nil]
      exact Text.pieces_single (hplain (h segment List.mem_cons_self))
  | cons next more ih =>
      obtain ⟨hsegment, hmore⟩ := List.forall_mem_cons.mp h
      rw [slashed_cons, Text.pieces_append (hplain hsegment) k.isSlash_slash, ih hmore]

theorem addSegments_of_kept {segments : List (List Char)} (h : ∀ s ∈ segments, Kept k s)
    (done : List (List Char)) : addSegments done segments = segments.reverse ++ done := by
  induction segments generalizing done with
  | nil => rfl
  | cons segment more ih =>
      obtain ⟨hsegment, hmore⟩ := List.forall_mem_cons.mp h
      have hadd : addSegment done segment more.isEmpty = segment :: done := by
        rw [addSegment, hsegment.still, hsegment.encode]
      rw [addSegments, hadd, ih hmore, List.reverse_cons, List.append_assoc, List.singleton_append]

/-- **Segments that are kept are read as themselves.** -/
theorem readPath_slashed {segment : List Char} {more : List (List Char)}
    (h : ∀ s ∈ segment :: more, Kept k s) :
    readPath k (slashed (segment :: more)) =
      .segments ((segment :: more).map String.ofList) := by
  rw [slashed_cons, readPath, if_pos k.isSlash_slash, segmentsOf, segmentsBelow, List.reverse_nil,
    List.map_nil, pieces_slashed h, addSegments_of_kept h, List.append_nil, List.reverse_reverse]

end Url

end ForkCensus
