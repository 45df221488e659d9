import ForkCensus.Text.Ascii

/-
# Percent encoding

In an address, bytes that would be misread are written as a percent sign
and two hexadecimal digits.  Which characters of ASCII are encoded
depends on the part of the address; all others always are.
-/

namespace ForkCensus.Url.Percent

/-- A hexadecimal digit, the letters capital. -/
def digit (n : Nat) : Char :=
  if n < 10 then Char.ofNat (n + '0'.toNat) else Char.ofNat (n - 10 + 'A'.toNat)

/-- A byte as a percent sign and two digits. -/
def byte (b : UInt8) : List Char :=
  ['%', digit (b.toNat / 16), digit (b.toNat % 16)]

/-- The text with the characters that `p` picks encoded, and all those beyond ASCII. -/
def encode (p : Char → Bool) (cs : List Char) : List Char :=
  cs.flatMap fun c => if p c || !Text.isAscii c then (String.utf8EncodeChar c).flatMap byte else [c]

/-- The bytes that a text stands for; a percent sign without two digits stands for itself. -/
def decode : List Char → List UInt8
  | [] => []
  | '%' :: a :: b :: rest =>
    match Text.hexValue? a, Text.hexValue? b with
    | some m, some n => UInt8.ofNat (16 * m + n) :: decode rest
    | _, _ => 0x25 :: decode (a :: b :: rest)
  | c :: rest => String.utf8EncodeChar c ++ decode rest

/-- Controls, which are encoded everywhere. -/
def inHost (c : Char) : Bool :=
  c.toNat < 0x20 || c.toNat == 0x7F

/-- What is encoded in a fragment. -/
def inFragment (c : Char) : Bool :=
  inHost c || " \"<>\u0060".toList.contains c

/-- What is encoded in a path. -/
def inPath (c : Char) : Bool :=
  inFragment c || "#?\x7b\x7d".toList.contains c

/-- What is encoded in a user name or password. -/
def inUser (c : Char) : Bool :=
  inPath c || "/:;=@[\\]^|".toList.contains c

/-- What is encoded in a query; the single quote only where `special`. -/
def inQuery (special : Bool) (c : Char) : Bool :=
  inHost c || " \"#<>".toList.contains c || (special && c == '\'')

end ForkCensus.Url.Percent
