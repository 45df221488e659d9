import Mathlib.Data.List.Forall2
import ForkCensus.Proofs.Text.Case
import ForkCensus.Proofs.Text.Utf8

/-
# Texts up to case, letter by letter and byte by byte

`Ascii.same` folds two texts and compares what comes of it.  Two other
ways of comparing come to the same.  Letter by letter, each character has
to be a `Variant` of the other: the same, or the large and the small form
of a letter of ASCII (`Ascii.same_iff_variants`).  Byte by byte, texts are
compared without being decoded (`Ascii.same_eq_sameBytes`).

The bytes of a character can be folded one by one
(`map_foldByte_utf8EncodeChar`), because no byte of a character beyond
ASCII looks like a letter.
-/

namespace ForkCensus.Text

/-! ## Letters -/

/-- The first is a letter from A to Z, and the second the same letter small. -/
def Ascii.Capital (c d : Char) : Prop :=
  'A' ≤ c ∧ c ≤ 'Z' ∧ d.toNat = c.toNat + 0x20

/-- The same character, or the two forms of a letter of ASCII. -/
def Ascii.Variant (c d : Char) : Prop :=
  c = d ∨ Capital c d ∨ Capital d c

theorem toNat_toLower (c : Char) :
    c.toLower.toNat = if 'A' ≤ c ∧ c ≤ 'Z' then c.toNat + 0x20 else c.toNat := by
  have hval : c.val.toNat = c.toNat := rfl
  unfold Char.toLower
  by_cases hupper : 'A' ≤ c ∧ c ≤ 'Z'
  · have hhigh : c.toNat ≤ 90 := UInt32.le_iff_toNat_le.mp hupper.2
    have hsmall : c.toNat + 0x20 < 2 ^ 32 :=
      Nat.lt_of_le_of_lt (Nat.add_le_add_right hhigh 0x20) (by decide)
    rw [if_pos hupper, dif_pos (show c.val ≥ 'A'.val ∧ c.val ≤ 'Z'.val from hupper)]
    calc (c.val + 0x20).toNat = (c.val.toNat + 0x20) % 2 ^ 32 := UInt32.toNat_add c.val 0x20
      _ = c.toNat + 0x20 := by rw [hval, Nat.mod_eq_of_lt hsmall]
  · rw [if_neg hupper, dif_neg (show ¬(c.val ≥ 'A'.val ∧ c.val ≤ 'Z'.val) from hupper)]

/-- Folding tells all characters apart but the two forms of a letter. -/
theorem toLower_eq_toLower_iff {c d : Char} : c.toLower = d.toLower ↔ Ascii.Variant c d := by
  have hle (a b : Char) : a ≤ b ↔ a.toNat ≤ b.toNat := UInt32.le_iff_toNat_le
  have hA : 'A'.toNat = 65 := rfl
  have hZ : 'Z'.toNat = 90 := rfl
  rw [Ascii.Variant, Ascii.Capital, Ascii.Capital, ← Char.toNat_inj, ← Char.toNat_inj,
    toNat_toLower, toNat_toLower]
  simp only [hle, hA, hZ]
  split <;> split <;> omega

/-- **Texts are the same up to case if their characters are, one by one.** -/
theorem Ascii.same_iff_variants {s t : String} :
    same s t = true ↔ List.Forall₂ Variant s.toList t.toList := by
  rw [same_iff, ← List.forall₂_eq_eq_eq, List.forall₂_map_left_iff, List.forall₂_map_right_iff]
  simp only [toLower_eq_toLower_iff]

/-! ## Bytes -/

theorem foldByte_of_high {b : UInt8} (h : ¬b < 0x80) : Ascii.foldByte b = b := by
  have hhigh : 128 ≤ b.toNat := Nat.le_of_not_lt (UInt8.lt_iff_toNat_lt.not.mp h)
  rw [Ascii.foldByte, if_neg]
  rw [Bool.and_eq_true, decide_eq_true_eq, decide_eq_true_eq]
  rintro ⟨-, hb⟩
  have hlow : b.toNat ≤ 90 := UInt8.le_iff_toNat_le.mp hb
  omega

theorem map_foldByte_utf8EncodeChar (c : Char) :
    (String.utf8EncodeChar c).map Ascii.foldByte = String.utf8EncodeChar c.toLower := by
  cases hc : isAscii c with
  | true =>
      exact forall_ascii hc (P := fun c => (String.utf8EncodeChar c).map Ascii.foldByte =
        String.utf8EncodeChar c.toLower) (by decide)
  | false =>
      have hsame : c.toLower = c := by
        rcases toLower_cases c with h | ⟨h, -⟩
        · exact h
        · rw [hc] at h
          cases h
      have hhigh : ∀ b ∈ String.utf8EncodeChar c, Ascii.foldByte b = b := by
        intro b hb
        refine foldByte_of_high fun hlow => of_decide_eq_false hc ?_
        rw [toNat_of_mem_utf8EncodeChar hb hlow]
        exact UInt8.lt_iff_toNat_lt.mp hlow
      rw [hsame, List.map_congr_left hhigh, List.map_id']

/-- Bytes that are folded are those of the folded text. -/
theorem map_foldByte_utf8 (s : String) : (utf8 s).map Ascii.foldByte = utf8 (Ascii.fold s) := by
  rw [utf8, utf8, Ascii.fold, String.toList_map, List.map_flatMap, List.flatMap_map]
  simp only [map_foldByte_utf8EncodeChar]

/-- Whether two runs of bytes are equally long and agree byte by byte, up to the case of ASCII
letters. -/
def Ascii.sameBytes (bs cs : List UInt8) : Bool :=
  bs.length == cs.length && (bs.zip cs).all fun p => foldByte p.1 == foldByte p.2

theorem Ascii.sameBytes_iff {bs cs : List UInt8} :
    sameBytes bs cs = true ↔ bs.map foldByte = cs.map foldByte := by
  rw [← List.forall₂_eq_eq_eq, List.forall₂_map_left_iff, List.forall₂_map_right_iff,
    List.forall₂_iff_zip]
  simp [sameBytes]

/-- **Texts are the same up to case if their bytes are, one by one.** -/
theorem Ascii.same_eq_sameBytes (s t : String) : same s t = sameBytes (utf8 s) (utf8 t) := by
  rw [Bool.eq_iff_iff, sameBytes_iff, map_foldByte_utf8, map_foldByte_utf8, utf8_inj, same,
    beq_iff_eq]

end ForkCensus.Text
