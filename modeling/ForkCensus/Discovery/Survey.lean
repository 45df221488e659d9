import ForkCensus.Discovery.Crawl

/-
# Surveys

A `Survey` discovers the forks of one repository, either the direct ones
(`Listing`) or all of them (`Crawl`), behind one interface.  Its steps
are counted by an explicit budget: `none` for an outcome means that the
budget was too small, never that the survey is over.
-/

namespace ForkCensus

/-- A discovery of the forks of one repository. -/
inductive Survey where
  | direct (l : Listing)
  | recursive (c : Crawl)
deriving Repr, DecidableEq

/-- How a survey ends. -/
inductive Ending where
  | complete
  | broken (e : ApiError)
deriving Repr, DecidableEq

namespace Survey

variable {σ : Type}

/-- A survey from which nothing was pulled. -/
def start (root : Slug) (recursive : Bool) : Survey :=
  if recursive then .recursive (.start root) else .direct (.start root)

/-- Starts a survey and enters that into the journal. -/
def begin (F : Forge σ) (root : Slug) (recursive : Bool) (s : σ) : Survey × σ :=
  (start root recursive, F.note (.discovering root recursive) s)

/-- One step; a step of a direct survey always brings a record or the end. -/
def step (F : Forge σ) : Survey → σ → Move × Survey × σ
  | direct l, s =>
    match l.pull F s with
    | (.item r, l', t) => (.item r, direct l', t)
    | (.finished, l', t) => (.finished, direct l', t)
    | (.failed e, l', t) => (.failed e, direct l', t)
  | recursive c, s =>
    let (move, c', t) := c.step F s
    (move, recursive c', t)

/-- Hands out the next record, in at most `budget` steps. -/
def pull (F : Forge σ) : Nat → Survey → σ → Option Pull × Survey × σ
  | 0, v, s => (none, v, s)
  | budget + 1, v, s =>
    match v.step F s with
    | (.item r, v', t) => (some (.item r), v', t)
    | (.finished, v', t) => (some .finished, v', t)
    | (.failed e, v', t) => (some (.failed e), v', t)
    | (.passed, v', t) => pull F budget v' t

/-- Hands out everything, in at most `budget` steps: the records, how it ended, what is left. -/
def drain (F : Forge σ) : Nat → Survey → σ → List Repository × Option Ending × Survey × σ
  | 0, v, s => ([], none, v, s)
  | budget + 1, v, s =>
    match v.step F s with
    | (.finished, v', t) => ([], some .complete, v', t)
    | (.failed e, v', t) => ([], some (.broken e), v', t)
    | (.passed, v', t) => drain F budget v' t
    | (.item r, v', t) =>
      let (records, rest) := drain F budget v' t
      (r :: records, rest)

/-- All records, or the failure that kept them from being complete. -/
def collect (F : Forge σ) (budget : Nat) (v : Survey) (s : σ) :
    Option (Except ApiError (List Repository)) × Survey × σ :=
  match v.drain F budget s with
  | (records, some .complete, rest) => (some (.ok records), rest)
  | (_, some (.broken e), rest) => (some (.error e), rest)
  | (_, none, rest) => (none, rest)

/-- How many listings a recursive survey began. -/
def listedCount? : Survey → Option Nat
  | direct _ => none
  | recursive c => some c.listedCount

/-- How many records and repositories a survey holds in wait. -/
def load : Survey → Nat
  | direct l => l.buffer.length
  | recursive c => c.stack.length + (c.current.elim 0 fun l => l.buffer.length)

end Survey

end ForkCensus
