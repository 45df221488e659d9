import ForkCensus.Text.Ascii

/-
# Labels in ASCII letters

A label with characters beyond ASCII travels as its ASCII characters, a
hyphen, and a number in base 36 digits of varying weight for each of the
others, which says where it is inserted and which one it is.  The
constants and the choice of weights are those of the standard for
international host names.
-/

namespace ForkCensus.Idna.Punycode

/-- The base of the digits. -/
def base : Nat := 36

/-- The least and greatest weight that ends a number. -/
def leastThreshold : Nat := 1
def greatestThreshold : Nat := 26

/-- How fast the thresholds follow the numbers. -/
def skew : Nat := 38
def damp : Nat := 700

/-- Where the thresholds begin. -/
def firstBias : Nat := 72

/-- The first character that is not of ASCII. -/
def firstChar : Nat := 0x80

/-- Labels beyond these lengths are refused, to bound the work. -/
def longestEncoded : Nat := 2000
def longestDecoded : Nat := 1000

/-- Divides until the number is small, counting the base for each division. -/
def settle (delta : Nat) : Nat × Nat :=
  if _h : (base - leastThreshold) * greatestThreshold / 2 < delta then
    let (rest, k) := settle (delta / (base - leastThreshold))
    (rest, k + base)
  else (delta, 0)
termination_by delta
decreasing_by
  exact Nat.div_lt_self (Nat.lt_of_le_of_lt (Nat.zero_le _) _h) (by decide)

/-- The bias after a number: from its size and the count of characters so far. -/
def adapt (delta count : Nat) (first : Bool) : Nat :=
  let delta := if first then delta / damp else delta / 2
  let (rest, k) := settle (delta + delta / count)
  k + (base - leastThreshold + 1) * rest / (rest + skew)

/-- The threshold of the digit at weight position `k`. -/
def threshold (bias k : Nat) : Nat :=
  min greatestThreshold (max leastThreshold (k - bias))

/-- The letters `a` to `z`, then the digits. -/
def digit (n : Nat) : Char :=
  if n < 26 then Char.ofNat (n + 'a'.toNat) else Char.ofNat (n - 26 + '0'.toNat)

/-- The value of a digit, in either case. -/
def digitValue? (c : Char) : Option Nat :=
  if c.isLower then some (c.toNat - 'a'.toNat)
  else if c.isUpper then some (c.toNat - 'A'.toNat)
  else if c.isDigit then some (c.toNat - '0'.toNat + 26)
  else none

/-- The digits of a number, from position `k` on. -/
def encodeNumber (bias k n : Nat) : List Char :=
  let t := threshold bias k
  if _h : n < t then [digit n]
  else digit (t + (n - t) % (base - t)) :: encodeNumber bias (k + base) ((n - t) / (base - t))
termination_by n
decreasing_by
  have ht : 1 ≤ t ∧ t ≤ 26 := by
    simp only [t, threshold, leastThreshold, greatestThreshold]
    omega
  calc (n - t) / (base - t) ≤ n - t := Nat.div_le_self _ _
    _ < n := by omega

/-- An encoding under way. -/
structure Encoder where
  delta : Nat
  bias : Nat
  /-- How many characters are written. -/
  written : Nat
  /-- Whether no number was written yet. -/
  first : Bool
  /-- The digits written, reversed. -/
  digits : List Char

/-- Passes over one character of the label while the numbers for `n` are written. -/
def Encoder.pass (n : Nat) (s : Encoder) (c : Nat) : Encoder :=
  if c < n then { s with delta := s.delta + 1 }
  else if c = n then
    { delta := 0
      bias := adapt s.delta (s.written + 1) s.first
      written := s.written + 1
      first := false
      digits := (encodeNumber s.bias base s.delta).reverse ++ s.digits }
  else s

/-- Writes the numbers for the characters of `todo`, which come in ascending order after `n`. -/
def Encoder.run (label : List Nat) : List Nat → Nat → Encoder → Encoder
  | [], _, s => s
  | m :: todo, n, s =>
    let s := { s with delta := s.delta + (m - n) * (s.written + 1) }
    let s := label.foldl (Encoder.pass m) s
    Encoder.run label todo (m + 1) { s with delta := s.delta + 1 }

/-- A label in ASCII letters, without the mark that says so. -/
def encode (label : List Char) : Option (List Char) :=
  if longestDecoded < label.length then none
  else
    let plain := label.filter Text.isAscii
    let others := (label.filter fun c => !Text.isAscii c).map Char.toNat
    let todo := (others.mergeSort (· ≤ ·)).eraseDups
    let start : Encoder := ⟨0, firstBias, plain.length, true, []⟩
    let done := Encoder.run (label.map Char.toNat) todo firstChar start
    some ((if plain.isEmpty then [] else plain ++ ['-']) ++ done.digits.reverse)

/-- Reads the digits of a number from position `k` on: its value, and what comes after it. -/
def decodeNumber (bias : Nat) : Nat → Nat → Nat → List Char → Option (Nat × List Char)
  | _, _, _, [] => none
  | k, weight, n, c :: rest =>
    match digitValue? c with
    | none => none
    | some d =>
      let t := threshold bias k
      let n := n + d * weight
      if d < t then some (n, rest) else decodeNumber bias (k + base) (weight * (base - t)) n rest

/-- A number takes at least one digit. -/
theorem decodeNumber_length {bias k weight n m : Nat} {cs rest : List Char}
    (h : decodeNumber bias k weight n cs = some (m, rest)) : rest.length < cs.length := by
  induction cs generalizing k weight n with
  | nil => simp [decodeNumber] at h
  | cons c cs ih =>
    rw [decodeNumber] at h
    split at h
    · exact absurd h (by simp)
    · dsimp only at h
      split at h
      · simp only [Option.some.injEq, Prod.mk.injEq] at h
        rw [← h.2]
        simp
      · exact Nat.lt_succ_of_lt (ih h)

/-- Inserts the characters that the digits name; `n` and `i` are the character and place so far. -/
def insertAll (n i bias : Nat) (first : Bool) (label : List Nat) (cs : List Char) :
    Option (List Nat) :=
  if cs.isEmpty then some label
  else
    match _h : decodeNumber bias base 1 i cs with
    | none => none
    | some (place, rest) =>
      let count := label.length + 1
      let m := n + place / count
      if Nat.isValidChar m then
        insertAll m (place % count + 1) (adapt (place - i) count first) false
          (label.insertIdx (place % count) m) rest
      else none
termination_by cs.length
decreasing_by exact decodeNumber_length _h

/-- What stands before the last hyphen, and what stands after it. -/
def splitPlain (cs : List Char) : List Char × List Char :=
  let tail := (cs.reverse.takeWhile (· != '-')).reverse
  if tail.length < cs.length then (cs.take (cs.length - tail.length - 1), tail) else ([], cs)

/-- The label that ASCII letters stand for, given without the mark that says so. -/
def decode (cs : List Char) : Option (List Char) :=
  if longestEncoded < cs.length || !cs.all Text.isAscii then none
  else
    let (plain, digits) := splitPlain cs
    (insertAll firstChar 0 firstBias true (plain.map Char.toNat) digits).map (·.map Char.ofNat)

end ForkCensus.Idna.Punycode
