/-
# ASCII letter case and cutting at a character

Keys, schemes, header names and host names are compared without regard to
the case of the letters A to Z and of no others: `É` and `é` stay apart.
Everything here works on lists of characters; `Ascii.fold` is the same on
strings.
-/

namespace ForkCensus.Text

/-- The text with the letters A to Z made small. -/
def Ascii.fold (s : String) : String :=
  s.map Char.toLower

/-- Two texts that differ at most in the case of ASCII letters. -/
def Ascii.same (s t : String) : Bool :=
  Ascii.fold s == Ascii.fold t

/-- A byte of UTF-8 text with the letters A to Z made small. -/
def Ascii.foldByte (b : UInt8) : UInt8 :=
  if 0x41 ≤ b && b ≤ 0x5A then b + 0x20 else b

/-- The text as the bytes of its UTF-8 form. -/
def utf8 (s : String) : List UInt8 :=
  s.toList.flatMap String.utf8EncodeChar

/-- What stands before the first `c` and what stands after it, if there is one. -/
def cut (c : Char) : List Char → Option (List Char × List Char)
  | [] => none
  | d :: rest =>
    if d = c then some ([], rest)
    else (cut c rest).map fun p => (d :: p.1, p.2)

/-- The pieces of the text between the characters that `p` picks; never an empty list. -/
def pieces (p : Char → Bool) : List Char → List (List Char)
  | [] => [[]]
  | d :: rest =>
    if p d then [] :: pieces p rest
    else
      match pieces p rest with
      | [] => [[d]]
      | first :: more => (d :: first) :: more

/-- The text without the characters that `p` picks at either end. -/
def strip (p : Char → Bool) (cs : List Char) : List Char :=
  ((cs.dropWhile p).reverse.dropWhile p).reverse

/-- Whether the text ends in `tail`, and what stands before it then. -/
def dropTail? (tail cs : List Char) : Option (List Char) :=
  (tail.reverse.isPrefixOf? cs.reverse).map List.reverse

/-- Whether the text begins with `start`. -/
def begins (start s : String) : Bool :=
  start.toList.isPrefixOf s.toList

/-- Whether a character is one of the 128 of ASCII. -/
def isAscii (c : Char) : Bool :=
  c.toNat < 0x80

/-- The value of a hexadecimal digit, in either case. -/
def hexValue? (c : Char) : Option Nat :=
  if '0' ≤ c ∧ c ≤ '9' then some (c.toNat - '0'.toNat)
  else if 'a' ≤ c ∧ c ≤ 'f' then some (c.toNat - 'a'.toNat + 10)
  else if 'A' ≤ c ∧ c ≤ 'F' then some (c.toNat - 'A'.toNat + 10)
  else none

/-- The number that a run of hexadecimal digits writes; `none` at any other character. -/
def hexNumber? (cs : List Char) : Option Nat :=
  cs.foldlM (fun n c => (hexValue? c).map (16 * n + ·)) 0

/-- A number in hexadecimal digits, the letters small. -/
def hex (n : Nat) : String :=
  String.ofList (Nat.toDigits 16 n)

end ForkCensus.Text
