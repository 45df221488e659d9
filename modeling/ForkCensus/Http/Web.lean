import ForkCensus.Http.Message
import ForkCensus.Journal.Event

/-
# The web

A `Web` is what a client needs of the world around it: something that
answers a request with a response or with the reason why there is none,
lets time pass, tells the time, and keeps the journal.  Like a `Forge` it
has a state of an arbitrary type.
-/

namespace ForkCensus.Http

/-- Something that answers requests, with states in `τ`. -/
structure Web (τ : Type) where
  get : Request → τ → Except String Response × τ
  /-- Lets a number of seconds pass. -/
  pause : UInt64 → τ → τ
  /-- The time, in seconds since the epoch. -/
  now : τ → Int64
  /-- Enters an event into the journal. -/
  note : Event → τ → τ

namespace Web

variable {τ : Type}

/-- The same web, with the journal kept beside its state, the latest event first. -/
def journaled (W : Web τ) : Web (List Event × τ) where
  get r s :=
    let (reply, t) := W.get r s.2
    (reply, s.1, t)
  pause seconds s := (s.1, W.pause seconds s.2)
  now s := W.now s.2
  note e s := (e :: s.1, W.note e s.2)

/-- A web in which nothing can be reached. -/
def unreachable : Web Unit where
  get _ s := (.error "error sending request", s)
  pause _ s := s
  now _ := 0
  note _ s := s

end Web

end ForkCensus.Http
