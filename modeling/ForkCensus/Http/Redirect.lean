import ForkCensus.Http.Base64
import ForkCensus.Http.Web
import ForkCensus.Text.Glyph
import ForkCensus.Url.Reference

/-
# Redirections

A server may answer a request by naming another address, and the request
is then made there, and again from there, ten times at most.  To whoever
asked, all of that is one request with one answer.

The headers go along, but credentials are not told to another host.
-/

namespace ForkCensus.Http

/-- One exchange with a server: what comes back from an address when it is sent these headers. -/
abbrev Exchange (τ : Type) := Url → List Header → τ → Except String Response × τ

/-- Whether a status may send a request elsewhere. -/
def isRedirect (status : UInt16) : Bool :=
  [301, 302, 303, 307, 308].contains status

/-- The address that an answer from `here` sends the request to; none if the answer is final. -/
def Response.redirect? (here : Url) (r : Response) : Option Url := do
  if !isRedirect r.status then none
  let reference ← Text.ofUtf8? (← Header.find? "location" r.headers)
  here.resolve? reference

/-- How often a request is sent elsewhere at most. -/
def mostRedirects : Nat := 10

/-- Whether two addresses lead to the same server. -/
def sameServer (a b : Url) : Bool :=
  a.host == b.host && a.portInUse? == b.portInUse?

/-- The headers of a request that was sent on from `here` to `there`. -/
def passedHeaders (here there : Url) (headers : List Header) : List Header :=
  if sameServer here there then headers
  else headers.filter fun h => !Text.Ascii.same h.name "authorization"

/-- The header for a user that the address itself names. -/
def userHeader (u : Url) : List Header :=
  let decode := fun part : String => (Text.ofUtf8? (Url.Percent.decode part.toList)).getD ""
  (u.user.map fun who => basicAuth (decode who.1) (who.2.map decode)).toList

namespace Exchange

variable {τ : Type}

/-- Makes a request, and follows at most `left` redirections. -/
def follow (x : Exchange τ) (left : Nat) (u : Url) (headers : List Header) (s : τ) :
    Except String Response × τ :=
  if u.scheme ≠ "http" ∧ u.scheme ≠ "https" then (.error "scheme not supported", s)
  else
    match x u headers s with
    | (.error reason, t) => (.error reason, t)
    | (.ok r, t) =>
      match r.redirect? u with
      | none => (.ok r, t)
      | some next =>
        match left with
        | 0 => (.error "too many redirects", t)
        | left + 1 => follow x left next (passedHeaders u next headers) t

/-- Answers a request by exchanges with servers. -/
def get (x : Exchange τ) (r : Request) (s : τ) : Except String Response × τ :=
  match Url.ofText? r.url with
  | none => (.error "not an address", s)
  | some u => follow x mostRedirects { u with user := none } (userHeader u ++ r.headers) s

/-- The web that answers by exchanges, in which no time passes. -/
def web (x : Exchange τ) (time : Int64) : Web τ where
  get := x.get
  pause _ s := s
  now _ := time
  note _ s := s

end Exchange

end ForkCensus.Http
