import ForkCensus.Idna.Punycode
import ForkCensus.Idna.Table
import ForkCensus.Unicode.Direction
import ForkCensus.Unicode.Joining

/-
# Names of hosts

`Domain.ofText?` brings the name of a host into the one form in which
names are compared and sent: small ASCII letters, with the labels that
hold anything else encoded.  Characters are replaced, dropped or refused
as the standard for international names says, the text is composed, and
each label is checked.

A name that is ASCII throughout and has no encoded label only gets small
letters.
-/

namespace ForkCensus.Idna

/-- The entries of `replacedTable`. -/
def replacedEntries : Array Unicode.Entry := Unicode.readTable replacedTable

/-- The entries of `droppedTable`. -/
def droppedEntries : Array Unicode.Entry := Unicode.readTable droppedTable

/-- The entries of `refusedTable`. -/
def refusedEntries : Array Unicode.Entry := Unicode.readTable refusedTable

/-- What becomes of a character; `none` if it is refused. -/
def mapChar (c : Char) : Option (List Char) :=
  if Unicode.isListed refusedEntries c then none
  else if Unicode.isListed droppedEntries c then some []
  else
    match Unicode.Entry.find? replacedEntries c with
    | none => some [c]
    | some e =>
      match e.values with
      | [target] => some [Char.ofNat (target + (c.toNat - e.low))]
      | targets => some (targets.map Char.ofNat)

/-- Characters that no host name holds: controls, the space, and what separates the parts of an
address. -/
def isForbidden (c : Char) : Bool :=
  c.toNat ≤ 0x20 || c.toNat == 0x7F || "%#/:<>?@[\\]^|".toList.contains c

namespace Label

/-- The mark of an encoded label. -/
def mark : List Char := ['x', 'n', '-', '-']

/-- Whether a label is marked as encoded, in either case. -/
def isEncoded (label : List Char) : Bool :=
  mark.isPrefixOf (label.map Char.toLower)

/-- Whether a label, decoded, may stand in a name. -/
def isValid (label : List Char) : Bool :=
  (match label with
    | c :: _ => !Unicode.isMark c
    | [] => true) &&
  !isEncoded label && Unicode.joinersFit [] label

/-- Decodes a marked label; it must hold more than ASCII, and nothing that would be changed. -/
def decode? (label : List Char) : Option (List Char) :=
  if isEncoded label then do
    let decoded ← Punycode.decode (label.drop mark.length)
    if decoded.all Text.isAscii then none
    else if (decoded.mapM mapChar).map List.flatten == some decoded &&
        Unicode.compose decoded == decoded then
      some decoded
    else none
  else some label

/-- Encodes a label that holds more than ASCII. -/
def encode? (label : List Char) : Option (List Char) :=
  if label.all Text.isAscii then some label else (Punycode.encode label).map (mark ++ ·)

end Label

namespace Domain

/-- The labels of a name. -/
def labels (cs : List Char) : List (List Char) :=
  Text.pieces (· == '.') cs

/-- Whether a name needs no more than small letters. -/
def isPlain (cs : List Char) : Bool :=
  cs.all Text.isAscii && !(labels cs).any Label.isEncoded

/-- Whether the directions of all labels are in order; they are bound only together. -/
def isOrderly (names : List (List Char)) : Bool :=
  let directions := names.map (·.map Unicode.Direction.of)
  !(directions.any (·.any Unicode.Direction.isBound)) ||
    directions.all Unicode.Direction.isOrderly

/-- A name with all its characters replaced, checked and encoded. -/
def convert? (cs : List Char) : Option (List Char) := do
  let mapped ← cs.mapM mapChar
  let names ← (labels (Unicode.compose mapped.flatten)).mapM Label.decode?
  if names.all Label.isValid && isOrderly names then
    return List.intercalate ['.'] (← names.mapM Label.encode?)
  else none

/-- The name of a host in the form in which it is compared and sent. -/
def ofText? (cs : List Char) : Option (List Char) := do
  let name ← if isPlain cs then some (cs.map Char.toLower) else convert? cs
  if name.any isForbidden then none else some name

end Domain

end ForkCensus.Idna
