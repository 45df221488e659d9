import ForkCensus.Unicode.DirectionTable
import ForkCensus.Unicode.Ranges

/-
# Directions in a host name

A label that holds characters written from right to left must not change
its order when it is shown beside others.  `isOrderly` states the six
conditions of the standard for a label of a name in which anything is
written from right to left.
-/

namespace ForkCensus.Unicode

/-- The direction of a character, as far as host names go. -/
inductive Direction where
  | left
  | right
  | arabicLetter
  | arabicNumber
  | europeanNumber
  | numberSign
  | neutral
  | mark
deriving Repr, DecidableEq, Inhabited

namespace Direction

/-- The tables with the direction that each of them gives. -/
def tables : List (Array Entry × Direction) :=
  [(readTable rightToLeftTable, right), (readTable arabicLetterTable, arabicLetter),
    (readTable arabicNumberTable, arabicNumber), (readTable europeanNumberTable, europeanNumber),
    (readTable numberSignTable, numberSign), (readTable neutralTable, neutral),
    (readTable markDirectionTable, mark)]

/-- The direction of a character of ASCII. -/
def ofAscii (c : Char) : Direction :=
  if c.isAlpha then left
  else if c.isDigit then europeanNumber
  else if "#$%+,-./:".toList.contains c then numberSign
  else neutral

/-- The direction of a character. -/
def of (c : Char) : Direction :=
  if Text.isAscii c then ofAscii c
  else ((tables.find? fun t => isListed t.1 c).map Prod.snd).getD left

/-- Written from right to left. -/
def isRight : Direction → Bool
  | right | arabicLetter => true
  | _ => false

/-- What makes a whole name subject to the conditions. -/
def isBound (d : Direction) : Bool :=
  d.isRight || d == arabicNumber

/-- The conditions on a label, given by the directions of its characters: it begins with a letter;
a label from right to left holds no letters of the other direction, ends in a letter or number and
does not mix the two kinds of digits; a label from left to right ends in a letter or number. -/
def isOrderly (label : List Direction) : Bool :=
  match label, (label.reverse.dropWhile (· == mark)).head? with
  | first :: _, some last =>
    if first.isRight then
      label.all (· != left) &&
        (last.isRight || last == europeanNumber || last == arabicNumber) &&
        !(label.contains europeanNumber && label.contains arabicNumber)
    else
      first == left && label.all (fun d => !d.isBound) && (last == left || last == europeanNumber)
  | [], _ => true
  | _ :: _, none => false

end Direction

end ForkCensus.Unicode
