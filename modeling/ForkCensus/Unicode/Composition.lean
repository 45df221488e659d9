import ForkCensus.Unicode.CombiningTable
import ForkCensus.Unicode.Ranges

/-
# Composed form

A letter with an accent can be written as one character or as a letter
followed by a mark.  `compose` brings a text into the form in which every
pair that can be one character is one (normalization form C): it takes
everything apart, puts the marks after each letter in the order of their
classes, and puts pairs together from left to right.

The syllables of Hangul follow a rule instead of a table.
-/

namespace ForkCensus.Unicode

/-- The entries of `pairTable`. -/
def pairEntries : Array Entry := readTable pairTable

/-- The entries of `classTable`. -/
def classEntries : Array Entry := readTable classTable

/-- The entries of `markTable`. -/
def markEntries : Array Entry := readTable markTable

/-- The combining class of a character; zero for one that stands by itself. -/
def combiningClass (c : Char) : Nat :=
  if c.toNat < 0x300 then 0
  else
    match Entry.find? classEntries c with
    | some e => e.values.headD 0
    | none => 0

/-- Whether the character attaches to the one before it. -/
def isMark (c : Char) : Bool :=
  isListed markEntries c

/-! ## Hangul -/

namespace Hangul

/-- The first syllable. -/
def firstSyllable : Nat := 0xAC00

/-- How many syllables there are. -/
def syllables : Nat := 11172

/-- The jamo from which the parts of a syllable count: leading, vowel, and one before trailing. -/
def leading : Nat := 0x1100
def vowel : Nat := 0x1161
def trailing : Nat := 0x11A7

/-- A syllable taken apart into two or three jamo. -/
def decompose? (n : Nat) : Option (List Nat) :=
  if firstSyllable ≤ n ∧ n < firstSyllable + syllables then
    let i := n - firstSyllable
    let base := [leading + i / 588, vowel + i % 588 / 28]
    some (if i % 28 = 0 then base else base ++ [trailing + i % 28])
  else none

/-- A leading jamo and a vowel, or a syllable without a trailing jamo and that, put together. -/
def compose? (a b : Nat) : Option Nat :=
  if leading ≤ a ∧ a < leading + 19 ∧ vowel ≤ b ∧ b < vowel + 21 then
    some (firstSyllable + ((a - leading) * 21 + (b - vowel)) * 28)
  else if firstSyllable ≤ a ∧ a < firstSyllable + syllables ∧ (a - firstSyllable) % 28 = 0 ∧
      trailing < b ∧ b < trailing + 28 then
    some (a + (b - trailing))
  else none

end Hangul

/-! ## Taking apart, ordering, putting together -/

/-- The pair of which a character is composed. -/
def pair? (n : Nat) : Option (Nat × Nat) :=
  if n < 0xC0 then none
  else
    match Entry.search pairEntries n 0 pairEntries.size with
    | some ⟨_, _, _, [a, b]⟩ => some (a, b)
    | _ => none

/-- A character taken apart; `depth` bounds how often the first of a pair is a pair again. -/
def takeApart : Nat → Nat → List Nat
  | 0, n => [n]
  | depth + 1, n =>
    match Hangul.decompose? n with
    | some parts => parts
    | none =>
      match pair? n with
      | some (a, b) => takeApart depth a ++ [b]
      | none => [n]

/-- Puts a mark before the marks of a greater class at the end of a reversed text. -/
def placeMark (c : Char) : List Char → List Char
  | [] => [c]
  | d :: rest =>
    if combiningClass c < combiningClass d then d :: placeMark c rest else c :: d :: rest

/-- Orders the marks after each letter by their classes, keeping the order within a class. -/
def orderMarks (cs : List Char) : List Char :=
  (cs.foldl (fun done c => if combiningClass c = 0 then c :: done else placeMark c done) []).reverse

/-- The character that a pair makes. -/
def composite? (a b : Nat) : Option Nat :=
  match Hangul.compose? a b with
  | some n => some n
  | none =>
    (pairEntries.find? fun e => e.values == [a, b]).map fun e => e.low

/-- Composition under way: what is finished (reversed), a letter, and the marks after it that did
not join it (reversed). -/
structure Composing where
  finished : List Char
  letter : Option Char
  marks : List Char

namespace Composing

/-- Everything read so far, reversed. -/
def flush (s : Composing) : List Char :=
  s.marks ++ s.letter.toList ++ s.finished

/-- Takes in a character: it joins the letter unless a mark between them is in its way. -/
def add (s : Composing) (c : Char) : Composing :=
  let blocked := match s.marks with
    | [] => false
    | m :: _ => combiningClass c ≤ combiningClass m
  let joined := match s.letter with
    | some l => if blocked then none else composite? l.toNat c.toNat
    | none => none
  match joined with
  | some n => { s with letter := some (Char.ofNat n) }
  | none =>
    if combiningClass c = 0 then ⟨s.flush, some c, []⟩ else { s with marks := c :: s.marks }

end Composing

/-- The text in composed form. -/
def compose (cs : List Char) : List Char :=
  let apart := orderMarks (cs.flatMap fun c => (takeApart 8 c.toNat).map Char.ofNat)
  (apart.foldl Composing.add ⟨[], none, []⟩).flush.reverse

end ForkCensus.Unicode
