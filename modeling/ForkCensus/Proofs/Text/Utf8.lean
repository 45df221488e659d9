import ForkCensus.Text.Glyph

/-
# Text survives being written as bytes

`Text.utf8` writes a text and `Text.glyphs` reads bytes.  What was written
is read without a gap (`Text.glyphs_utf8`), so a file that was made from a
text has that text (`Text.ofUtf8?_utf8`).

A character takes one to four bytes, by its number; the proof follows
these four cases.  In each of them the first byte tells how many follow
(`lead?`), and those give back six bits each (`continuation?`).

What bytes say of ASCII they say one by one: a byte without the high bit
stands for the character of its number and for no part of another
(`Text.toNat_of_mem_utf8EncodeChar`).
-/

namespace ForkCensus.Text

/-! ## The bytes of one character -/

theorem continuation?_ofNat : ∀ n < 64, continuation? (.ofNat (n + 128)) = some n := by
  decide

theorem lead?_two : ∀ n < 32, lead? (.ofNat (n + 192)) = some (1, n, 0x80) := by
  decide

theorem lead?_three : ∀ n < 16, lead? (.ofNat (n + 224)) = some (2, n, 0x800) := by
  decide

theorem lead?_four : ∀ n < 8, lead? (.ofNat (n + 240)) = some (3, n, 0x10000) := by
  decide

/-- A byte with the high bit is not a character by itself. -/
theorem not_low {n : Nat} (h : 128 ≤ n) (hn : n < 256) : ¬UInt8.ofNat n < 0x80 := by
  rw [UInt8.lt_iff_toNat_lt, UInt8.toNat_ofNat', Nat.mod_eq_of_lt hn]
  exact Nat.not_lt.mpr h

/-- The bits that continuing bytes add to those before them. -/
theorem foldlM_continuation? {bits n : Nat} (hn : n < 64) (more : List UInt8) :
    (UInt8.ofNat (n + 128) :: more).foldlM
        (fun n c => (continuation? c).map (64 * n + ·)) bits =
      more.foldlM (fun n c => (continuation? c).map (64 * n + ·)) (64 * bits + n) := by
  rw [List.foldlM_cons, continuation?_ofNat n hn]
  rfl

/-- A character of more than one byte: its first byte tells how many follow, and these give its
number. -/
theorem glyphs_wide {b : UInt8} (more : List UInt8) {bits least : Nat} {c : Char}
    (hb : ¬b < 0x80) (hlead : lead? b = some (more.length, bits, least))
    (hmore : more.foldlM (fun n c => (continuation? c).map (64 * n + ·)) bits = some c.toNat)
    (hleast : least ≤ c.toNat) (rest : List UInt8) :
    glyphs (b :: (more ++ rest)) = some c :: glyphs rest := by
  have hchar : charFrom? least c.toNat = some c := by
    rw [charFrom?, if_pos ⟨hleast, c.valid⟩, Char.ofNat_toNat]
  have hwide : wideChar? b (more ++ rest) = some (c, more.length) := by
    simp [wideChar?, hlead, hmore, hchar]
  rw [glyphs, if_neg hb, hwide]
  simp

theorem glyphs_utf8EncodeChar (c : Char) (rest : List UInt8) :
    glyphs (String.utf8EncodeChar c ++ rest) = some c :: glyphs rest := by
  have hmax : c.toNat < 0x110000 := by
    rcases c.valid with h | ⟨-, h⟩
    · exact Nat.lt_trans h (by decide)
    · exact h
  have hval : c.val.toNat = c.toNat := rfl
  simp only [String.utf8EncodeChar, hval]
  split
  · rename_i h1
    have hb : (UInt8.ofNat c.toNat).toNat = c.toNat := by
      rw [UInt8.toNat_ofNat', Nat.mod_eq_of_lt (by omega)]
    have hlow : UInt8.ofNat c.toNat < 0x80 := by
      rw [UInt8.lt_iff_toNat_lt, hb]
      exact Nat.lt_succ_of_le h1
    rw [List.singleton_append, glyphs, if_pos hlow, hb, Char.ofNat_toNat]
  · split
    · rename_i h1 h2
      refine glyphs_wide [_] (not_low (by omega) (by omega))
        (lead?_two _ (by omega)) ?_ (by omega) rest
      rw [foldlM_continuation? (by omega)]
      exact congrArg some (by omega)
    · split
      · rename_i h1 h2 h3
        refine glyphs_wide [_, _] (not_low (by omega) (by omega))
          (lead?_three _ (by omega)) ?_ (by omega) rest
        rw [foldlM_continuation? (by omega), foldlM_continuation? (by omega)]
        exact congrArg some (by omega)
      · rename_i h1 h2 h3
        refine glyphs_wide [_, _, _] (not_low (by omega) (by omega))
          (lead?_four _ (by omega)) ?_ (by omega) rest
        rw [foldlM_continuation? (by omega), foldlM_continuation? (by omega),
          foldlM_continuation? (by omega)]
        exact congrArg some (by omega)

/-- A byte without the high bit is a character by itself. -/
theorem toNat_of_mem_utf8EncodeChar {c : Char} {b : UInt8} (hb : b ∈ String.utf8EncodeChar c)
    (hlow : b < 0x80) : c.toNat = b.toNat := by
  have hval : c.val.toNat = c.toNat := rfl
  have hsmall : b.toNat < 128 := UInt8.lt_iff_toNat_lt.mp hlow
  have hbyte {n : Nat} (h : b = UInt8.ofNat n) : b.toNat = n % 256 := by
    rw [h, UInt8.toNat_ofNat']
  simp only [String.utf8EncodeChar, hval] at hb
  split at hb
  · have := hbyte (List.mem_singleton.mp hb)
    omega
  · -- Bytes of longer forms all have the high bit.
    exfalso
    split at hb
    · simp only [List.mem_cons, List.not_mem_nil, or_false] at hb
      rcases hb with h | h <;> have := hbyte h <;> omega
    · split at hb
      · simp only [List.mem_cons, List.not_mem_nil, or_false] at hb
        rcases hb with h | h | h <;> have := hbyte h <;> omega
      · simp only [List.mem_cons, List.not_mem_nil, or_false] at hb
        rcases hb with h | h | h | h <;> have := hbyte h <;> omega

/-! ## Texts -/

theorem utf8_append (s t : String) : utf8 (s ++ t) = utf8 s ++ utf8 t := by
  rw [utf8, String.toList_append, List.flatMap_append, utf8, utf8]

/-- **Bytes that were made from characters are read as these.** -/
theorem glyphs_flatMap_utf8EncodeChar (cs : List Char) :
    glyphs (cs.flatMap String.utf8EncodeChar) = cs.map some := by
  induction cs with
  | nil => rw [List.flatMap_nil, glyphs, List.map_nil]
  | cons c cs ih => rw [List.flatMap_cons, glyphs_utf8EncodeChar, ih, List.map_cons]

theorem glyphs_utf8 (s : String) : glyphs (utf8 s) = s.toList.map some :=
  glyphs_flatMap_utf8EncodeChar s.toList

theorem ofUtf8?_utf8 (s : String) : ofUtf8? (utf8 s) = some s := by
  have hall : ∀ cs : List Char, (cs.map some).mapM id = some cs := by
    intro cs
    induction cs with
    | nil => rfl
    | cons c cs ih => rw [List.map_cons, List.mapM_cons, ih]; rfl
  rw [ofUtf8?, glyphs_utf8, hall, Option.map_some, String.ofList_toList]

theorem utf8_inj {s t : String} : utf8 s = utf8 t ↔ s = t := by
  constructor
  · intro h
    have hread := ofUtf8?_utf8 s
    rw [h, ofUtf8?_utf8, Option.some.injEq] at hread
    exact hread.symm
  · rintro rfl
    rfl

end ForkCensus.Text
