/-
# JSON values

A value as it was read.  Nothing is lost that a later decision may hang
on: members keep their order and may repeat, a number is kept as it was
written, and a string that is no text (it has half of a surrogate pair,
or damaged bytes) is there without its content, since a value that nobody
asks for may hold such strings.
-/

namespace ForkCensus

/-- A JSON value. -/
inductive Json where
  | null
  | truth (b : Bool)
  /-- A number, by its sign, its digits before the point, and whether that is all of it. -/
  | number (negative : Bool) (whole : Nat) (isWhole : Bool)
  /-- A string; `none` where it is no text. -/
  | string (text : Option String)
  | array (items : List Json)
  | object (members : List (Option String × Json))
deriving Inhabited

namespace Json

/-! ## Views -/

/-- The text of a string. -/
def text? : Json → Option String
  | string text => text
  | _ => none

/-- The integer that a number writes; minus zero is none. -/
def integer? : Json → Option Int
  | number false whole true => some whole
  | number true whole true => if whole = 0 then none else some (-whole)
  | _ => none

/-- A count of 64 bits. -/
def uint64? (v : Json) : Option UInt64 :=
  v.integer?.bind fun n => if 0 ≤ n ∧ n.toNat < UInt64.size then some (UInt64.ofNat n.toNat) else none

/-- A signed number of 64 bits. -/
def int64? (v : Json) : Option Int64 :=
  v.integer?.bind fun n =>
    if Int64.minValue.toInt ≤ n ∧ n ≤ Int64.maxValue.toInt then some (Int64.ofInt n) else none

/-- The items of an array, each as `item` takes it; all of them or none. -/
def list? {α : Type} (item : Json → Option α) : Json → Option (List α)
  | array items => items.mapM item
  | _ => none

/-- The only member of the given name. -/
def only? (name : String) (members : List (Option String × Json)) : Option Json :=
  match members.filter fun m => m.1 == some name with
  | [m] => some m.2
  | _ => none

/-- The fields of a record, in the order of `names`: either an object that has each of them exactly
once, whatever else it has, or an array of just their values. -/
def record? (names : List String) : Json → Option (List Json)
  | array items => if items.length = names.length then some items else none
  | object members =>
    if members.all fun m => m.1.isSome then names.mapM fun name => only? name members else none
  | _ => none

end Json

end ForkCensus
