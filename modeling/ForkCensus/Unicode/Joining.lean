import ForkCensus.Unicode.Composition
import ForkCensus.Unicode.JoiningTable

/-
# Joiners

Two characters without a glyph ask for neighbours to be joined or not.
They mean something only after a sign that kills a vowel, or, for the one
that keeps apart, between two letters that would join; elsewhere a host
name must not hold them.
-/

namespace ForkCensus.Unicode

/-- Keeps its neighbours apart. -/
def nonJoiner : Char := '\u200c'

/-- Joins its neighbours. -/
def joiner : Char := '\u200d'

/-- The combining class of the signs that kill a vowel. -/
def viramaClass : Nat := 9

/-- The entries of `joinsAfterTable`. -/
def joinsAfterEntries : Array Entry := readTable joinsAfterTable

/-- The entries of `joinsBeforeTable`. -/
def joinsBeforeEntries : Array Entry := readTable joinsBeforeTable

/-- The entries of `transparentTable`. -/
def transparentEntries : Array Entry := readTable transparentTable

/-- The nearest character over which joining does not go on. -/
def nearest? (cs : List Char) : Option Char :=
  (cs.dropWhile (isListed transparentEntries)).head?

/-- Whether a joiner may stand between what is before it (reversed) and what is after it. -/
def mayJoin (c : Char) (before after : List Char) : Bool :=
  (match before with
    | b :: _ => combiningClass b == viramaClass
    | [] => false) ||
  (c == nonJoiner &&
    (match nearest? before, nearest? after with
      | some b, some a => isListed joinsAfterEntries b && isListed joinsBeforeEntries a
      | _, _ => false))

/-- Whether all joiners of a label stand where they mean something. -/
def joinersFit (before : List Char) : List Char → Bool
  | [] => true
  | c :: after =>
    (if c == nonJoiner || c == joiner then mayJoin c before after else true) &&
      joinersFit (c :: before) after

end ForkCensus.Unicode
