import ForkCensus.Text.Ascii

/-
# Requests and responses

The part of HTTP that reading from a service takes: a request is an
address with headers, a response a status, headers and a body.  A body
may break off before its announced end; then there is none, and a reason.
-/

namespace ForkCensus.Http

/-- A header; names are taken without regard to case, values are bytes. -/
structure Header where
  name : String
  value : List UInt8
deriving Repr, DecidableEq

/-- A request to read what is at an address. -/
structure Request where
  url : String
  headers : List Header
deriving Repr, DecidableEq

/-- An answer to a request. -/
structure Response where
  status : UInt16
  headers : List Header
  body : Except String (List UInt8)
deriving Repr

namespace Header

/-- A header with a text for its value. -/
def ofText (name value : String) : Header :=
  ⟨name, Text.utf8 value⟩

/-- Whether a value can be sent: no controls but the tab. -/
def isValue (value : List UInt8) : Bool :=
  value.all fun b => b == 0x09 || (0x20 ≤ b && b != 0x7F)

/-- Whether a byte is a printable character of ASCII, or the tab. -/
def isVisible (b : UInt8) : Bool :=
  b == 0x09 || (0x20 ≤ b && b ≤ 0x7E)

/-- Whether a byte is a blank within a value. -/
def isBlank (b : UInt8) : Bool :=
  b == 0x20 || b == 0x09

/-- A value without the blanks around it. -/
def strip (value : List UInt8) : List UInt8 :=
  ((value.dropWhile isBlank).reverse.dropWhile isBlank).reverse

/-- The first value under a name. -/
def find? (name : String) (headers : List Header) : Option (List UInt8) :=
  (headers.find? fun h => Text.Ascii.same h.name name).map value

end Header

/-! ## The signal of a spent quota -/

/-- The header that says how many requests are left. -/
def remainingHeader : String := "X-RateLimit-Remaining"

/-- Whether the headers say that no request is left: the first value under that name is `0`, but
for blanks around it. -/
def saysQuotaSpent (headers : List Header) : Bool :=
  match Header.find? remainingHeader headers with
  | some value => value.all Header.isVisible && Header.strip value == [0x30]
  | none => false

end ForkCensus.Http
