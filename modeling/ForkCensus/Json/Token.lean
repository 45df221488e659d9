import ForkCensus.Json.Basic
import ForkCensus.Text.Glyph

/-
# The tokens of JSON

`Token.scan` cuts a text into brackets, commas, colons and scalars, and
skips the blanks between them.  It knows nothing of how tokens may follow
each other; `ForkCensus.Json.Reader` does.
-/

namespace ForkCensus.Json

open Text (Glyph)

/-- A token of a JSON text. -/
inductive Token where
  | beginArray
  | endArray
  | beginObject
  | endObject
  | comma
  | colon
  | null
  | truth (b : Bool)
  | number (negative : Bool) (whole : Nat) (isWhole : Bool)
  | string (text : Option String)
deriving Repr, DecidableEq

namespace Token

/-! ## Strings -/

/-- A part of a string: a character, half of a surrogate pair, or a damaged byte. -/
inductive Piece where
  | char (c : Char)
  | surrogate (n : Nat)
  | damage
deriving Repr, DecidableEq

/-- The character of an escape of one letter. -/
def escaped? : Char → Option Char
  | '"' => some '"'
  | '\\' => some '\\'
  | '/' => some '/'
  | 'b' => some '\x08'
  | 'f' => some '\x0c'
  | 'n' => some '\n'
  | 'r' => some '\r'
  | 't' => some '\t'
  | _ => none

/-- The piece that four hexadecimal digits name. -/
def unit? (digits : List Char) : Option Piece :=
  (Text.hexNumber? digits).map fun n =>
    if 0xD800 ≤ n ∧ n ≤ 0xDFFF then .surrogate n else .char (Char.ofNat n)

/-- The pieces of a string up to its closing quote, and what comes after. -/
def scanString : List Glyph → Option (List Piece × List Glyph)
  | [] => none
  | none :: rest => (scanString rest).map fun r => (.damage :: r.1, r.2)
  | some c :: rest =>
    if c = '"' then some ([], rest)
    else if c = '\\' then
      match rest with
      | some 'u' :: some a :: some b :: some c :: some d :: more =>
        (unit? [a, b, c, d]).bind fun piece =>
          (scanString more).map fun r => (piece :: r.1, r.2)
      | some e :: more =>
        (escaped? e).bind fun c => (scanString more).map fun r => (.char c :: r.1, r.2)
      | _ => none
    else if c.toNat < 0x20 then none
    else (scanString rest).map fun r => (.char c :: r.1, r.2)

/-- What is left after a string is shorter than what was there. -/
theorem scanString_length {cs rest : List Glyph} {pieces : List Piece}
    (h : scanString cs = some (pieces, rest)) : rest.length < cs.length := by
  fun_induction scanString cs generalizing pieces <;>
    simp only [Option.map_eq_some_iff, Option.bind_eq_some_iff, Option.some.injEq,
      Prod.mk.injEq, reduceCtorEq, List.length_cons] at h ⊢ <;> grind

/-- The text of pieces: two halves of a surrogate pair side by side are a character. -/
def assemble : List Piece → Option (List Char)
  | [] => some []
  | .char c :: rest => (assemble rest).map (c :: ·)
  | .surrogate high :: .surrogate low :: rest =>
    if high < 0xDC00 ∧ 0xDC00 ≤ low then
      (assemble rest).map (Char.ofNat (0x10000 + (high - 0xD800) * 0x400 + (low - 0xDC00)) :: ·)
    else none
  | _ => none

/-! ## Numbers -/

/-- Whether a character can occur in a number. -/
def isNumeric (c : Char) : Bool :=
  c.isDigit || c == '-' || c == '+' || c == '.' || c == 'e' || c == 'E'

/-- The numeric characters at the start of a text. -/
def numericRun : List Glyph → List Char
  | some c :: rest => if isNumeric c then c :: numericRun rest else []
  | _ => []

/-- One or more digits and nothing else. -/
def isDigits (cs : List Char) : Bool :=
  !cs.isEmpty && cs.all Char.isDigit

/-- An exponent, or nothing. -/
def isExponent : List Char → Bool
  | [] => true
  | e :: rest =>
    (e == 'e' || e == 'E') &&
      match rest with
      | '+' :: digits => isDigits digits
      | '-' :: digits => isDigits digits
      | digits => isDigits digits

/-- What may follow the whole part of a number: a point and digits, an exponent, or both. -/
def isFraction : List Char → Bool
  | '.' :: rest =>
    !(rest.takeWhile Char.isDigit).isEmpty && isExponent (rest.dropWhile Char.isDigit)
  | cs => isExponent cs

/-- Reads a number without its sign; no zeros stand before other digits. -/
def unsigned? (negative : Bool) (cs : List Char) : Option Token :=
  let whole := cs.takeWhile Char.isDigit
  let rest := cs.dropWhile Char.isDigit
  if (match whole with | [] => false | '0' :: _ :: _ => false | _ => true) && isFraction rest then
    some (.number negative (whole.foldl (fun n d => 10 * n + (d.toNat - '0'.toNat)) 0) rest.isEmpty)
  else none

/-- Reads a number. -/
def number? : List Char → Option Token
  | '-' :: rest => unsigned? true rest
  | cs => unsigned? false cs

/-! ## All tokens -/

/-- The token that a character is by itself. -/
def punctuation? : Char → Option Token
  | '[' => some beginArray
  | ']' => some endArray
  | '{' => some beginObject
  | '}' => some endObject
  | ',' => some comma
  | ':' => some colon
  | _ => none

/-- Whether a character may stand between tokens. -/
def isBlank (c : Char) : Bool :=
  c == ' ' || c == '\n' || c == '\t' || c == '\r'

/-- The word at the start of a text, and what comes after it. -/
def word? : List Glyph → Option (Token × List Glyph)
  | some 'n' :: some 'u' :: some 'l' :: some 'l' :: rest => some (null, rest)
  | some 't' :: some 'r' :: some 'u' :: some 'e' :: rest => some (truth true, rest)
  | some 'f' :: some 'a' :: some 'l' :: some 's' :: some 'e' :: rest => some (truth false, rest)
  | _ => none

theorem word?_length {cs rest : List Glyph} {t : Token} (h : word? cs = some (t, rest)) :
    rest.length < cs.length := by
  unfold word? at h
  split at h <;> simp only [Option.some.injEq, Prod.mk.injEq, reduceCtorEq] at h <;>
    simp only [← h.2, List.length_cons] <;> omega

/-- The tokens of a text. -/
def scan : List Glyph → Option (List Token)
  | [] => some []
  | none :: _ => none
  | some c :: rest =>
    if isBlank c then scan rest
    else
      match punctuation? c with
      | some t => (scan rest).map (t :: ·)
      | none =>
        if c = '"' then
          match _h : scanString rest with
          | none => none
          | some (pieces, after) =>
            (scan after).map (.string ((assemble pieces).map String.ofList) :: ·)
        else if isNumeric c then
          (number? (c :: numericRun rest)).bind fun t =>
            (scan (rest.drop (numericRun rest).length)).map (t :: ·)
        else
          match _h : word? (some c :: rest) with
          | none => none
          | some (t, after) => (scan after).map (t :: ·)
termination_by cs => cs.length
decreasing_by
  · simp
  · simp
  · exact Nat.lt_succ_of_lt (scanString_length _h)
  · simp only [List.length_drop, List.length_cons]
    omega
  · exact word?_length _h

end Token

end ForkCensus.Json
