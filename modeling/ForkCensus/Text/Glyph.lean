import ForkCensus.Text.Ascii

/-
# Text that may be damaged

What comes over a network or out of a file is bytes, and need not be
UTF-8.  `glyphs` reads it as a sequence of characters in which a byte
that belongs to none leaves a gap, so that a reader can go on past damage
where that does not matter and refuse it where it does.
-/

namespace ForkCensus.Text

/-- A character, or `none` for a byte that belongs to no character. -/
abbrev Glyph := Option Char

/-- The six low bits of a byte that continues a character. -/
def continuation? (b : UInt8) : Option Nat :=
  if 0x80 ≤ b && b ≤ 0xBF then some (b.toNat - 0x80) else none

/-- The character with the given number, unless it could be written in fewer bytes. -/
def charFrom? (least n : Nat) : Option Char :=
  if least ≤ n ∧ n.isValidChar then some (Char.ofNat n) else none

/-- How many bytes continue a character that begins with the byte, the bits that it gives itself,
and the least number that needs so many bytes. -/
def lead? (b : UInt8) : Option (Nat × Nat × Nat) :=
  if 0xC0 ≤ b && b ≤ 0xDF then some (1, b.toNat - 0xC0, 0x80)
  else if 0xE0 ≤ b && b ≤ 0xEF then some (2, b.toNat - 0xE0, 0x800)
  else if 0xF0 ≤ b && b ≤ 0xF7 then some (3, b.toNat - 0xF0, 0x10000)
  else none

/-- Reads a character of more than one byte, given its first byte and what comes after it. -/
def wideChar? (b : UInt8) (rest : List UInt8) : Option (Char × Nat) := do
  let (count, bits, least) ← lead? b
  if rest.length < count then none
  else
    let n ← (rest.take count).foldlM (fun n c => (continuation? c).map (64 * n + ·)) bits
    return (← charFrom? least n, count)

/-- The characters that bytes stand for, with a gap for each byte that belongs to none. -/
def glyphs : List UInt8 → List Glyph
  | [] => []
  | b :: rest =>
    if b < 0x80 then some (Char.ofNat b.toNat) :: glyphs rest
    else
      match wideChar? b rest with
      | some (c, count) => some c :: glyphs (rest.drop count)
      | none => none :: glyphs rest
termination_by bytes => bytes.length
decreasing_by
  · simp
  · simp only [List.length_drop, List.length_cons]
    omega
  · simp

/-- The text that bytes stand for, if they are UTF-8 throughout. -/
def ofUtf8? (bytes : List UInt8) : Option String :=
  ((glyphs bytes).mapM id).map String.ofList

end ForkCensus.Text
