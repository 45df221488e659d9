import ForkCensus.Slug
import ForkCensus.Text.Quoted

/-
# Events of a run

While a run goes on it keeps a journal for whoever wants to follow it.
An entry is an `Event`: what happened, with the values that belong to it.
How an entry is written (`Event.render`) and which entries are shown
(`ForkCensus.Journal.Filter`) is decided apart from the work itself, so
no result depends on it.
-/

namespace ForkCensus

/-- How much an entry matters, the gravest first. -/
inductive Level where
  | error
  | warn
  | info
  | debug
  | trace
deriving Repr, DecidableEq, Inhabited

namespace Level

/-- The rank of a level; a greater rank is shown only to those who ask for more. -/
def rank : Level → Nat
  | error => 1
  | warn => 2
  | info => 3
  | debug => 4
  | trace => 5

/-- The word for a level at the start of a journal line. -/
def word : Level → String
  | error => "ERROR"
  | warn => "WARN"
  | info => "INFO"
  | debug => "DEBUG"
  | trace => "TRACE"

end Level

/-- Something that happened during a run. -/
inductive Event where
  /-- A settings file was read and found valid. -/
  | settingsLoaded (path : String)
  /-- The run begins, with a client shown as `client`. -/
  | starting (client : String) (recursive : Bool)
  /-- Discovery of a repository's forks begins. -/
  | discovering (repo : Slug) (recursive : Bool)
  /-- The forks of a repository are about to be listed in a recursive discovery. -/
  | expanding (repo : Slug) (pending : Nat)
  /-- The record of a repository is about to be asked for. -/
  | fetchingRepository (repo : Slug)
  /-- A page of forks came. -/
  | fetchedPage (repo : Slug) (page : UInt32) (count : Nat)
  /-- The quota is used up and the run waits. -/
  | quotaSpent (wait : UInt64) (reset : Int64)
  /-- There is quota left, or its window is over. -/
  | quotaLeft (remaining : UInt64)
  /-- A request is sent. -/
  | requesting (url : String)
  /-- A request was turned down for want of quota. -/
  | requestLimited (url : String) (attempt : Nat)
  /-- The index file was written. -/
  | indexWritten (path : String) (repos : Nat)
deriving Repr, DecidableEq

namespace Event

/-- The level at which an event is entered. -/
def level : Event → Level
  | discovering .. => .info
  | quotaSpent .. | requestLimited .. => .warn
  | _ => .debug

/-- The part of the program that an event comes from, under the name by which filters select it. -/
def scope : Event → String
  | settingsLoaded .. => "forkindex::core::config"
  | starting .. => "forkindex::cli"
  | discovering .. => "forkindex::forks"
  | expanding .. => "forkindex::forks::traverse"
  | fetchingRepository .. | fetchedPage .. => "forkindex::forks::enumerate"
  | quotaSpent .. | quotaLeft .. => "forkindex::github::rate_limit"
  | requesting .. | requestLimited .. => "forkindex::github::client"
  | indexWritten .. => "forkindex::livegrep"

/-- What is written of an event: a message, then its values. -/
def message : Event → String
  | settingsLoaded path => s!"loaded config file path={path}"
  | starting client recursive =>
    s!"starting client={client} recursive={Text.truth recursive}"
  | discovering repo recursive =>
    s!"discovering forks repo={repo.display} recursive={Text.truth recursive}"
  | expanding repo pending => s!"expanding forks repo={repo.display} pending={pending}"
  | fetchingRepository repo => s!"fetching repository repo={repo.display}"
  | fetchedPage repo page count =>
    s!"fetched forks page repo={repo.display} page={page} count={count}"
  | quotaSpent wait reset =>
    s!"GitHub rate limit exhausted, waiting for reset wait_secs={wait} reset={reset.toInt}"
  | quotaLeft remaining => s!"rate limit ok remaining={remaining}"
  | requesting url => s!"GET url={Text.quoted url}"
  | requestLimited url attempt =>
    s!"request rate limited url={Text.quoted url} attempt={attempt}"
  | indexWritten path repos => s!"wrote livegrep config path={path} repos={repos}"

/-- The journal line of an event, without its time. -/
def render (e : Event) : String :=
  s!"{e.level.word} {e.message}"

end Event

end ForkCensus
