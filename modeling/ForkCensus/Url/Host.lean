import ForkCensus.Idna.Domain
import ForkCensus.Url.Ip
import ForkCensus.Url.Percent

/-
# Hosts

The host of an address is a name, a numeric address, or, for schemes that
nothing is known of, a text that is taken as it stands.
-/

namespace ForkCensus.Url

/-- The host of an address. -/
inductive Host where
  | name (text : String)
  | ipv4 (address : UInt32)
  | ipv6 (groups : List Nat)
deriving Repr, DecidableEq

namespace Host

/-- The host as an address shows it. -/
def render : Host → String
  | name text => text
  | ipv4 address => Ipv4.render address
  | ipv6 groups => Ipv6.render groups

/-- An address in brackets, if the text is one; `none` inside where it is malformed. -/
def bracketed? (cs : List Char) : Option (Option Host) :=
  match cs with
  | '[' :: rest =>
    match rest.reverse with
    | ']' :: inner => some ((Ipv6.ofText? inner.reverse).map ipv6)
    | _ => some none
  | _ => none

/-- The host of an address of a known scheme: decoded, then a number or a name. -/
def ofText? (cs : List Char) : Option Host :=
  match bracketed? cs with
  | some host => host
  | none => do
    let decoded ← String.fromUTF8? (Percent.decode cs).toByteArray
    let domain ← Idna.Domain.ofText? decoded.toList
    if domain.isEmpty then none
    else if Ipv4.endsInNumber domain then (Ipv4.ofText? domain).map ipv4
    else some (name (String.ofList domain))

/-- Characters that no host of an unknown scheme holds. -/
def isForbidden (c : Char) : Bool :=
  "\x00\t\n\r #/:<>?@[\\]^|".toList.contains c

/-- The host of an address of an unknown scheme: only controls and characters beyond ASCII are
encoded. -/
def ofPlainText? (cs : List Char) : Option Host :=
  match bracketed? cs with
  | some host => host
  | none =>
    if cs.any isForbidden then none
    else some (name (String.ofList (Percent.encode Percent.inHost cs)))

end Host

end ForkCensus.Url
