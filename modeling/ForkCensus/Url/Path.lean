import ForkCensus.Url.Percent

/-
# Paths

The path of an address is a list of segments.  A segment of one dot is
dropped and one of two dots takes the segment before it away, also where
the dots are percent-encoded; what is dropped at the end leaves an empty
segment, that is, a slash.  A segment that names a drive stays where it
is, whatever the scheme.
-/

namespace ForkCensus.Url

/-- The kind of a segment. -/
inductive Dots where
  | one
  | two
deriving Repr, DecidableEq

/-- Whether a segment is one dot or two, plain or encoded. -/
def dots? (segment : List Char) : Option Dots :=
  match (String.ofList segment).map Char.toLower with
  | "." | "%2e" => some .one
  | ".." | ".%2e" | "%2e." | "%2e%2e" => some .two
  | _ => none

/-- Whether a segment names a drive: a letter, then a colon or a bar. -/
def isDrive : List Char → Bool
  | [letter, sign] => letter.isAlpha && (sign == ':' || sign == '|')
  | _ => false

/-- A reversed path without its last segment, unless that names a drive. -/
def dropSegment : List (List Char) → List (List Char)
  | [] => []
  | last :: above => if isDrive last then last :: above else above

/-- Adds a segment to a reversed path. -/
def addSegment (done : List (List Char)) (segment : List Char) (isLast : Bool) :
    List (List Char) :=
  let ended := fun path : List (List Char) => if isLast then [] :: path else path
  match dots? segment with
  | some .one => ended done
  | some .two => ended (dropSegment done)
  | none => Percent.encode Percent.inPath segment :: done

/-- Adds segments in order to a reversed path. -/
def addSegments : List (List Char) → List (List Char) → List (List Char)
  | done, [] => done
  | done, segment :: rest => addSegments (addSegment done segment rest.isEmpty) rest

/-- The segments of a path that goes on from other segments. -/
def segmentsBelow (above : List String) (isSlash : Char → Bool) (cs : List Char) : List String :=
  ((addSegments (above.reverse.map String.toList) (Text.pieces isSlash cs)).reverse).map
    String.ofList

/-- The segments of a path, from the text after its first slash. -/
def segmentsOf (isSlash : Char → Bool) (cs : List Char) : List String :=
  segmentsBelow [] isSlash cs

namespace Drive

/-- A path of a file under way: the segments so far, reversed, and whether it names a drive, which
takes the place of the host. -/
structure Walk where
  done : List (List Char)
  named : Bool

/-- Splits what follows a drive and its colon off a segment. -/
def split (segment : List Char) : List (List Char) :=
  match segment with
  | letter :: ':' :: c :: rest => if letter.isAlpha then [[letter, ':'], c :: rest] else [segment]
  | _ => [segment]

/-- Adds a segment; a drive at the start of a path is written with a colon. -/
def Walk.add (w : Walk) (segment : List Char) (isLast : Bool) : Walk :=
  if w.done.isEmpty then
    if isDrive segment then ⟨[segment.take 1 ++ [':']], true⟩
    else
      match split segment with
      | [drive, rest] => ⟨addSegment [drive] rest isLast, w.named⟩
      | _ => ⟨addSegment [] segment isLast, w.named⟩
  else ⟨addSegment w.done segment isLast, w.named⟩

/-- Adds segments in order. -/
def Walk.addAll : Walk → List (List Char) → Walk
  | w, [] => w
  | w, segment :: rest => (w.add segment rest.isEmpty).addAll rest

/-- The segments of the path of a file, without empty ones at the start, and whether it names a
drive. -/
def segmentsOf (cs : List Char) : List String × Bool :=
  let w := Walk.addAll ⟨[], false⟩ (Text.pieces (fun c => c == '/' || c == '\\') cs)
  let segments := (w.done.reverse.dropWhile List.isEmpty).map String.ofList
  (if segments.isEmpty then [""] else segments, w.named)

end Drive

end ForkCensus.Url
