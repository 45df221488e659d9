import ForkCensus.Json.Basic
import ForkCensus.Text.Ascii

/-
# Writing JSON

What this program writes is made of texts, lists and records only; that
is a `Document`.  It is laid out with one item or member a line, four
blanks deeper at each level, and `[]` for a list without items.
-/

namespace ForkCensus.Json

/-- A value to be written. -/
inductive Document where
  | text (s : String)
  | list (items : List Document)
  | record (fields : List (String × Document))
deriving Inhabited

namespace Document

/-- A character inside quotes: quotes, backslashes and controls are escaped. -/
def escape (c : Char) : List Char :=
  match c with
  | '"' => ['\\', '"']
  | '\\' => ['\\', '\\']
  | '\x08' => ['\\', 'b']
  | '\x0c' => ['\\', 'f']
  | '\n' => ['\\', 'n']
  | '\r' => ['\\', 'r']
  | '\t' => ['\\', 't']
  | c =>
    if c.toNat < 0x20 then
      ['\\', 'u', '0', '0', Nat.digitChar (c.toNat / 16), Nat.digitChar (c.toNat % 16)]
    else [c]

/-- A text between quotes. -/
def quote (s : String) : List Char :=
  '"' :: s.toList.flatMap escape ++ ['"']

/-- A new line at a level of depth. -/
def newLine (depth : Nat) : List Char :=
  '\n' :: List.replicate (4 * depth) ' '

mutual

/-- The text of a document at a level of depth. -/
def layout (depth : Nat) : Document → List Char
  | text s => quote s
  | list [] => ['[', ']']
  | list (item :: items) =>
    '[' :: newLine (depth + 1) ++ layout (depth + 1) item ++ layoutItems depth items
  | record [] => ['{', '}']
  | record ((name, value) :: fields) =>
    '{' :: newLine (depth + 1) ++ quote name ++ [':', ' '] ++ layout (depth + 1) value ++
      layoutFields depth fields

/-- The items of a list after the first, and its end. -/
def layoutItems (depth : Nat) : List Document → List Char
  | [] => newLine depth ++ [']']
  | item :: items =>
    ',' :: newLine (depth + 1) ++ layout (depth + 1) item ++ layoutItems depth items

/-- The fields of a record after the first, and its end. -/
def layoutFields (depth : Nat) : List (String × Document) → List Char
  | [] => newLine depth ++ ['}']
  | (name, value) :: fields =>
    ',' :: newLine (depth + 1) ++ quote name ++ [':', ' '] ++ layout (depth + 1) value ++
      layoutFields depth fields

end

mutual

/-- The value that a document writes. -/
def toJson : Document → Json
  | text s => .string (some s)
  | list items => .array (itemsToJson items)
  | record fields => .object (fieldsToJson fields)

/-- The values of the items of a list. -/
def itemsToJson : List Document → List Json
  | [] => []
  | item :: items => toJson item :: itemsToJson items

/-- The members of a record. -/
def fieldsToJson : List (String × Document) → List (Option String × Json)
  | [] => []
  | (name, value) :: fields => (some name, toJson value) :: fieldsToJson fields

end

/-- The text of a document. -/
def render (d : Document) : String :=
  String.ofList (layout 0 d)

end Document

end ForkCensus.Json
