/-
# Request quotas

The hosting service grants a number of requests for a window of time.
Once they are used up, a run waits until the window is over, a little
longer to be safe, but never more than an hour.
-/

namespace ForkCensus

/-- What is left of the current window: requests, and the second at which it ends. -/
structure Quota where
  remaining : UInt64
  reset : Int64
deriving Repr, DecidableEq, Inhabited

namespace Quota

/-- The longest wait, in seconds. -/
def longestWait : Int64 := 3600

/-- How many seconds past the end of the window a wait goes. -/
def waitMargin : Int64 := 5

/-- Sum that stays at the end of the range where it would leave it. -/
def boundedAdd (a b : Int64) : Int64 :=
  Int64.ofIntClamp (a.toInt + b.toInt)

/-- Difference that stays at the end of the range where it would leave it. -/
def boundedSub (a b : Int64) : Int64 :=
  Int64.ofIntClamp (a.toInt - b.toInt)

/-- Whether no request is left. -/
def isSpent (q : Quota) : Bool :=
  q.remaining == 0

/-- The seconds to wait at time `now`; `none` where there is quota left or the window is over. -/
def wait (q : Quota) (now : Int64) : Option UInt64 :=
  if q.isSpent then
    let seconds := min (boundedAdd (boundedSub q.reset now) waitMargin) longestWait
    if seconds ≤ 0 then none else some seconds.toUInt64
  else none

end Quota

end ForkCensus
