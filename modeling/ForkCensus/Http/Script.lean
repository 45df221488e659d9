import ForkCensus.Http.Redirect

/-
# Scripted servers

A server that goes by a script.  For each target there is a list of
replies; each request takes one, and the last one is given for good.
Targets without a list get a usual answer.  The server keeps a log of
what it was asked.
-/

namespace ForkCensus.Http

/-- What a server does about a request. -/
inductive Reply where
  | response (r : Response)
  /-- The connection is closed without an answer. -/
  | hangUp
deriving Repr

/-- A request as a server sees it. -/
structure Asked where
  target : String
  headers : List Header
deriving Repr, DecidableEq

/-- A server, its replies, and the requests it got. -/
structure Script where
  /-- Where the server is; `none` while it is down. -/
  address : Option Url
  routes : List (String × List Reply)
  /-- The requests so far, the oldest first. -/
  log : List Asked

/-- Whether answers of this status have no body. -/
def isBodiless (status : UInt16) : Bool :=
  status == 204 || status == 304

/-- A reply with all of its body, or with a body that breaks off where `truncated`. -/
def Reply.of (status : UInt16) (headers : List Header) (body : List UInt8) (truncated : Bool) :
    Reply :=
  .response
    { status
      headers := headers.map fun h => { h with value := Header.strip h.value }
      body :=
        if isBodiless status then .ok []
        else if truncated then .error "the body breaks off"
        else .ok body }

namespace Script

/-- The reply to a target without a list: the quota of a guest, or that there is nothing. -/
def usualReply (target : String) : Reply :=
  if target = "/rate_limit" then
    .of 200 [] (Text.utf8
      "\x7b\"resources\":\x7b\"core\":\x7b\"remaining\":60,\"reset\":0\x7d\x7d\x7d") false
  else .of 404 [] [] false

/-- The next reply to a target, and the lists without it, where it is not the last of its list. -/
def take? (target : String) :
    List (String × List Reply) → Option (Reply × List (String × List Reply))
  | [] => none
  | (t, replies) :: rest =>
    if t = target then
      match replies with
      | [] => none
      | [last] => some (last, (t, [last]) :: rest)
      | first :: more => some (first, (t, more) :: rest)
    else (take? target rest).map fun p => (p.1, (t, replies) :: p.2)

/-- Whether an address leads to the server. -/
def isAt (s : Script) (u : Url) : Bool :=
  s.address.any fun here => here.scheme == u.scheme && sameServer here u

/-- Replies to a request. -/
def serve (target : String) (headers : List Header) (s : Script) : Reply × Script :=
  let log := s.log ++ [⟨target, headers⟩]
  match take? target s.routes with
  | some (reply, routes) => (reply, { s with routes, log })
  | none => (usualReply target, { s with log })

/-- An exchange with the server; at any other address there is none. -/
def exchange : Exchange Script := fun u headers s =>
  if s.isAt u then
    match serve u.target headers s with
    | (.response r, s') => (.ok r, s')
    | (.hangUp, s') => (.error "connection closed", s')
  else (.error "connection refused", s)

end Script

end ForkCensus.Http
