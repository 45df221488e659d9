import ForkCensus.Json.Token

/-
# Reading JSON

A text is read token by token.  What was read so far is kept as a stack
of the arrays and objects that are open, so reading is one pass over the
tokens.  The stack may become as high as it needs to: a value that nobody
asks for is skipped however deep it is nested.
-/

namespace ForkCensus.Json

/-- An array or object that is open around the place reached; its parts are reversed. -/
inductive Frame where
  | array (items : List Json)
  | object (members : List (Option String × Json)) (key : Option String)

/-- What was read, by what may come next. -/
inductive Reader where
  /-- A value. -/
  | value (around : List Frame)
  /-- The first item of an array, or its end. -/
  | itemOrEnd (outer : List Frame)
  /-- A comma or the end of an array. -/
  | afterItem (items : List Json) (outer : List Frame)
  /-- The first key of an object, or its end. -/
  | keyOrEnd (outer : List Frame)
  /-- A key. -/
  | nextKey (members : List (Option String × Json)) (outer : List Frame)
  /-- The colon after a key. -/
  | colon (members : List (Option String × Json)) (key : Option String) (outer : List Frame)
  /-- A comma or the end of an object. -/
  | afterMember (members : List (Option String × Json)) (outer : List Frame)
  /-- Nothing: the value is complete. -/
  | complete (v : Json)

namespace Reader

/-- Puts a value where it belongs. -/
def place (v : Json) : List Frame → Reader
  | [] => complete v
  | .array items :: outer => afterItem (v :: items) outer
  | .object members k :: outer => afterMember ((k, v) :: members) outer

/-- Reads a token where a value is expected. -/
def beginValue (around : List Frame) : Token → Option Reader
  | .null => some (place .null around)
  | .truth b => some (place (.truth b) around)
  | .number negative whole isWhole => some (place (.number negative whole isWhole) around)
  | .string text => some (place (.string text) around)
  | .beginArray => some (itemOrEnd around)
  | .beginObject => some (keyOrEnd around)
  | _ => none

/-- Reads one token. -/
def step : Reader → Token → Option Reader
  | value around, t => beginValue around t
  | itemOrEnd outer, .endArray => some (place (.array []) outer)
  | itemOrEnd outer, t => beginValue (.array [] :: outer) t
  | afterItem items outer, .comma => some (value (.array items :: outer))
  | afterItem items outer, .endArray => some (place (.array items.reverse) outer)
  | keyOrEnd outer, .endObject => some (place (.object []) outer)
  | keyOrEnd outer, .string k => some (colon [] k outer)
  | nextKey members outer, .string k => some (colon members k outer)
  | colon members k outer, .colon => some (value (.object members k :: outer))
  | afterMember members outer, .comma => some (nextKey members outer)
  | afterMember members outer, .endObject => some (place (.object members.reverse) outer)
  | _, _ => none

/-- Reads tokens in order. -/
def run (r : Reader) (tokens : List Token) : Option Reader :=
  tokens.foldlM step r

/-- The value, if it is complete. -/
def result? : Reader → Option Json
  | complete v => some v
  | _ => none

end Reader

/-- Reads a value from text that may be damaged; nothing but blanks may follow it. -/
def read? (text : List Text.Glyph) : Option Json := do
  ((← (Reader.value []).run (← Token.scan text))).result?

/-- Reads a value from bytes. -/
def ofBytes? (bytes : List UInt8) : Option Json :=
  read? (Text.glyphs bytes)

/-- Reads a value from text. -/
def ofText? (text : String) : Option Json :=
  read? (text.toList.map some)

end ForkCensus.Json
