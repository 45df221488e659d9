import ForkCensus.Text.Ascii

/-
# Properties of characters as lists of ranges

The properties of the Unicode standard are long tables.  Each is kept as
text, a list of entries in ascending order, read once into an array and
searched by halving.  A set of characters is written `300-36F 483-489
5BF`; where characters have values, an entry is `300-314>E6`, a value may
be a list such as `31.2044.34`, and `100-12E/2` stands for every other
character of the range.
-/

namespace ForkCensus.Unicode

/-- The characters `low`, `low + step`, … up to `high`, and the values that belong to them. -/
structure Entry where
  low : Nat
  high : Nat
  step : Nat
  values : List Nat
deriving Repr, DecidableEq

/-- Reads the characters of an entry: `300-36F`, `5BF` or `100-12E/2`. -/
def Entry.readRange? (cs : List Char) (values : List Nat) : Option Entry := do
  let (range, step) ← match Text.cut '/' cs with
    | some (range, step) => pure (range, ← Text.hexNumber? step)
    | none => pure (cs, 1)
  let (low, high) := (Text.cut '-' range).getD (range, range)
  return ⟨← Text.hexNumber? low, ← Text.hexNumber? high, step, values⟩

/-- Reads an entry of a table. -/
def Entry.read? (cs : List Char) : Option Entry :=
  match Text.cut '>' cs with
  | none => Entry.readRange? cs []
  | some (range, values) => do
    Entry.readRange? range (← (Text.pieces (· == '.') values).mapM Text.hexNumber?)

/-- The entries of a table, in its order. -/
def readTable (table : String) : Array Entry :=
  ((Text.pieces (fun c => c == ' ' || c == '\n') table.toList).filterMap fun item =>
    if item.isEmpty then none else Entry.read? item).toArray

/-- Halves the part of the array from `low` to `high` until an entry around `n` is met. -/
def Entry.search (entries : Array Entry) (n low high : Nat) : Option Entry :=
  if low < high then
    let mid := (low + high) / 2
    match entries[mid]? with
    | none => none
    | some e =>
      if n < e.low then Entry.search entries n low mid
      else if e.high < n then Entry.search entries n (mid + 1) high
      else if (n - e.low) % e.step = 0 then some e
      else none
  else none
termination_by high - low

/-- The entry for a character, in an array sorted from low to high. -/
def Entry.find? (entries : Array Entry) (c : Char) : Option Entry :=
  Entry.search entries c.toNat 0 entries.size

/-- Whether an array sorted from low to high has an entry for the character. -/
def isListed (entries : Array Entry) (c : Char) : Bool :=
  (Entry.find? entries c).isSome

end ForkCensus.Unicode
