import ForkCensus.Http.Message

/-
# Basic authentication

User name and password travel as one header, joined by a colon and
written in base 64.
-/

namespace ForkCensus.Http

namespace Base64

/-- The digits, in order of their values. -/
def alphabet : List Char :=
  "ABCDEFGHIJKLMNOPQRSTUVWXYZabcdefghijklmnopqrstuvwxyz0123456789+/".toList

/-- The digit of a value below 64. -/
def digit (n : Nat) : Char :=
  alphabet.getD n '='

/-- Three bytes as four digits; what is missing at the end is filled up. -/
def encode : List UInt8 → List Char
  | [] => []
  | [a] =>
    let n := a.toNat * 16
    [digit (n / 64), digit (n % 64), '=', '=']
  | [a, b] =>
    let n := (a.toNat * 256 + b.toNat) * 4
    [digit (n / 4096), digit (n / 64 % 64), digit (n % 64), '=']
  | a :: b :: c :: rest =>
    let n := (a.toNat * 256 + b.toNat) * 256 + c.toNat
    digit (n / 262144) :: digit (n / 4096 % 64) :: digit (n / 64 % 64) :: digit (n % 64) ::
      encode rest

end Base64

/-- The header that names a user and a password; without a password it is empty. -/
def basicAuth (user : String) (password : Option String) : Header :=
  .ofText "authorization"
    ("Basic " ++ String.ofList (Base64.encode (Text.utf8 (user ++ ":" ++ password.getD ""))))

end ForkCensus.Http
