import ForkCensus.CommandLine.Basic
import ForkCensus.Settings.Basic

/-
# The plan of a run

What is asked for on the command line comes first, and the settings fill
in what is left open.  Where the credentials name only a user, the
password is asked for; that is the one question a run may have.  Whoever
is asked may change by it, so a plan is made together with what becomes of
them (`Plan.makeAsking`); with answers that are known beforehand, only the
plan is left (`Plan.make`).
-/

namespace ForkCensus

/-- Everything a run needs to know. -/
structure Plan where
  folder : String
  name : String
  sources : List String
  credentials : Option Credentials
  base : String
  recursive : Bool
  verbosity : Verbosity
deriving DecidableEq

/-- Why there is no plan. -/
inductive PlanError where
  /-- The password could not be asked for. -/
  | password (reason : String)
  | settings (e : SettingsError)
deriving Repr, DecidableEq

/-- The error and the causes behind it, each in words. -/
def PlanError.causes : PlanError → List String
  | .password reason => ["failed to read password", reason]
  | .settings e => e.causes

/-- Whoever is asked for the passwords of users, with states in `σ`. -/
def Prompt (σ : Type) : Type :=
  String → σ → Except String String × σ

/-- A prompt that always answers alike. -/
def Prompt.known (answer : String → Except String String) : Prompt Unit := fun user _ =>
  (answer user, ())

namespace Plan

variable {σ : Type}

/-- The credentials to be used, as far as they are given. -/
def given (c : CommandLine) (s : Settings) : Option Credentials :=
  match c.auth with
  | some auth => some (.ofText auth)
  | none => s.credentials

/-- The user whose password has to be asked for. -/
def question? (c : CommandLine) (s : Settings) : Option String :=
  (given c s).bind fun who => if who.password.isNone then some who.user else none

/-- The credentials with the answer to the question, if there is one, and what becomes of whom it is
put to. -/
def completeAsking (c : CommandLine) (s : Settings) (ask : Prompt σ) (t : σ) :
    Except PlanError (Option Credentials) × σ :=
  match given c s with
  | none => (.ok none, t)
  | some ⟨user, some password⟩ => (.ok (some ⟨user, some password⟩), t)
  | some ⟨user, none⟩ =>
    match ask user t with
    | (.ok password, t') => (.ok (some ⟨user, some password⟩), t')
    | (.error reason, t') => (.error (.password reason), t')

/-- The credentials with the answer to the question, if there is one. -/
def complete (c : CommandLine) (s : Settings) (answer : String → Except String String) :
    Except PlanError (Option Credentials) :=
  (completeAsking c s (.known answer) ()).1

/-- The base address to be used. -/
def baseOf (c : CommandLine) (s : Settings) : String :=
  c.apiBase.getD s.base

/-- The plan for a command line and settings with the credentials that came of them. -/
def conclude (c : CommandLine) (s : Settings) (credentials : Option Credentials) :
    Except PlanError Plan :=
  match Settings.checkBase (baseOf c s) with
  | .error e => .error (.settings e)
  | .ok () =>
    .ok
      { folder := c.path
        name := c.name
        sources := c.sources
        credentials
        base := baseOf c s
        recursive := c.recursive || s.isRecursive
        verbosity := c.verbosity }

/-- The plan for a command line and settings, and what becomes of the prompt that is asked for the
password of a user. -/
def makeAsking (c : CommandLine) (s : Settings) (ask : Prompt σ) (t : σ) :
    Except PlanError Plan × σ :=
  let (credentials, t) := completeAsking c s ask t
  (credentials.bind (conclude c s), t)

/-- The plan for a command line and settings, with an answer for each user whose password may be
asked for. -/
def make (c : CommandLine) (s : Settings) (answer : String → Except String String) :
    Except PlanError Plan :=
  (makeAsking c s (.known answer) ()).1

end Plan

end ForkCensus
