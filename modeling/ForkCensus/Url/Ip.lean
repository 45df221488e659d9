import ForkCensus.Text.Ascii

/-
# Numeric hosts

Hosts that are numbers.  A name whose last label is a number is an
address of four bytes, written as one to four numbers in decimal, octal
or hexadecimal; the last of them fills the bytes that are left.  An
address of sixteen bytes is written in brackets, eight numbers in
hexadecimal, where one run of zeros may be left out.
-/

namespace ForkCensus.Url

namespace Ipv4

/-- The value of digits in a base, `none` at any other character. -/
def digits? (base : Nat) (cs : List Char) : Option Nat :=
  cs.foldlM (fun n c =>
    match Text.hexValue? c with
    | some d => if d < base then some (base * n + d) else none
    | none => none) 0

/-- A number in decimal, in octal after `0`, in hexadecimal after `0x`. -/
def number? : List Char → Option Nat
  | [] => none
  | '0' :: 'x' :: rest => digits? 16 rest
  | '0' :: 'X' :: rest => digits? 16 rest
  | '0' :: d :: rest => digits? 8 (d :: rest)
  | cs => digits? 10 cs

/-- The labels, without an empty one at the end. -/
def parts (cs : List Char) : List (List Char) :=
  let all := Text.pieces (· == '.') cs
  if 1 < all.length && all.getLast? == some [] then all.dropLast else all

/-- Whether the last label is a number, which makes the host an address. -/
def endsInNumber (cs : List Char) : Bool :=
  match (parts cs).getLast? with
  | none => false
  | some last => (!last.isEmpty && last.all Char.isDigit) || (number? last).isSome

/-- The address that one to four numbers stand for: all but the last are bytes. -/
def ofNumbers? (numbers : List Nat) : Option UInt32 :=
  match numbers.reverse with
  | [] => none
  | last :: front =>
    -- The last number fills the bytes that the others leave.
    let room := Nat.pow 256 (5 - numbers.length)
    if numbers.length ≤ 4 && front.all (· ≤ 255) && last < room then
      some (UInt32.ofNat (front.reverse.foldl (fun n b => 256 * n + b) 0 * room + last))
    else none

/-- Reads an address. -/
def ofText? (cs : List Char) : Option UInt32 := do
  ofNumbers? (← (parts cs).mapM number?)

/-- Four bytes in decimal. -/
def render (a : UInt32) : String :=
  s!"{a.toNat / 16777216}.{a.toNat / 65536 % 256}.{a.toNat / 256 % 256}.{a.toNat % 256}"

end Ipv4

namespace Ipv6

/-- A group of one to four hexadecimal digits. -/
def group? (cs : List Char) : Option Nat :=
  if 1 ≤ cs.length && cs.length ≤ 4 then Text.hexNumber? cs else none

/-- A byte in decimal, without leading zeros. -/
def byte? (cs : List Char) : Option Nat :=
  match cs with
  | [] => none
  | ['0'] => some 0
  | '0' :: _ => none
  | cs => (Ipv4.digits? 10 cs).bind fun n => if n ≤ 255 then some n else none

/-- Four bytes in decimal, as two groups. -/
def dotted? (cs : List Char) : Option (List Nat) := do
  match ← (Text.pieces (· == '.') cs).mapM byte? with
  | [a, b, c, d] => some [256 * a + b, 256 * c + d]
  | _ => none

/-- Groups between colons; the last may be four bytes in decimal where `dotted`. -/
def groups? (dotted : Bool) : List (List Char) → Option (List Nat)
  | [] => some []
  | [last] => if dotted && last.contains '.' then dotted? last else (group? last).map ([·])
  | g :: rest => do return (← group? g) :: (← groups? dotted rest)

/-- Groups between colons, or nothing. -/
def side? (dotted : Bool) (cs : List Char) : Option (List Nat) :=
  if cs.isEmpty then some [] else groups? dotted (Text.pieces (· == ':') cs)

/-- What stands before the first pair of colons, and what stands after it. -/
def cutGap : List Char → Option (List Char × List Char)
  | ':' :: ':' :: rest => some ([], rest)
  | c :: rest => (cutGap rest).map fun p => (c :: p.1, p.2)
  | [] => none

/-- Reads eight groups; a pair of colons stands for one or more groups of zero. -/
def ofText? (cs : List Char) : Option (List Nat) := do
  match cutGap cs with
  | none =>
    let all ← side? true cs
    if all.length = 8 then some all else none
  | some (before, after) =>
    let front ← side? false before
    let back ← side? true after
    if front.length + back.length ≤ 7 then
      some (front ++ List.replicate (8 - (front.length + back.length)) 0 ++ back)
    else none

/-- The length of the run of zeros at the start. -/
def zeros (groups : List Nat) : Nat :=
  (groups.takeWhile (· == 0)).length

/-- The place and length of the first longest run of two or more zeros. -/
def gap? (groups : List Nat) : Option (Nat × Nat) :=
  (List.range groups.length).foldl
    (fun best i =>
      let n := zeros (groups.drop i)
      if n < 2 then best
      else
        match best with
        | some (_, m) => if m < n then some (i, n) else best
        | none => some (i, n))
    none

/-- Groups in hexadecimal with colons between them. -/
def join (groups : List Nat) : String :=
  String.intercalate ":" (groups.map Text.hex)

/-- The address in brackets, the longest run of zeros left out. -/
def render (groups : List Nat) : String :=
  match gap? groups with
  | none => s!"[{join groups}]"
  | some (i, n) => s!"[{join (groups.take i)}::{join (groups.drop (i + n))}]"

end Ipv6

end ForkCensus.Url
