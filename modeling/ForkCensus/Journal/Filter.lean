import ForkCensus.Journal.Event

/-
# Which events are shown

A filter is written as a list of directives separated by commas.  A
directive is a level (`warn`), a scope (`forkindex::forks`, all levels of
it) or both (`forkindex=debug`; no level means all of them here, too).
Of the directives whose scope begins the scope of an event, the one with
the longest scope decides; where none does, the event is not shown.
-/

namespace ForkCensus.Journal

/-- A level that a directive may name: how far down it reaches, `0` for not at all. -/
def levelRank? (word : String) : Option Nat :=
  match Text.Ascii.fold word with
  | "off" | "0" => some 0
  | "error" | "1" => some Level.error.rank
  | "warn" | "2" => some Level.warn.rank
  | "info" | "3" => some Level.info.rank
  | "debug" | "4" => some Level.debug.rank
  | "trace" | "5" => some Level.trace.rank
  | _ => none

/-- For events whose scope begins with `scope`, those of a rank up to `rank` are shown. -/
structure Directive where
  scope : String
  rank : Nat
deriving Repr, DecidableEq

/-- Whether a text can name a scope: letters, digits, `_`, `:` and `-`. -/
def isScopeName (cs : List Char) : Bool :=
  !cs.isEmpty && cs.all fun c => c.isAlphanum || c == '_' || c == ':' || c == '-'

/-- Reads a level, a scope, or a scope and a level. -/
def Directive.read? (text : List Char) : Option Directive :=
  match levelRank? (String.ofList text) with
  | some rank => some ⟨"", rank⟩
  | none =>
    match Text.cut '=' text with
    | none => if isScopeName text then some ⟨String.ofList text, Level.trace.rank⟩ else none
    | some (scope, level) =>
      if !isScopeName scope then none
      else if level.isEmpty then some ⟨String.ofList scope, Level.trace.rank⟩
      else (levelRank? (String.ofList level)).map (⟨String.ofList scope, ·⟩)

/-- A list of directives. -/
structure Filter where
  directives : List Directive
deriving Repr, DecidableEq

namespace Filter

/-- Everything of this program down to the given level. -/
def upTo (level : Level) : Filter :=
  ⟨[⟨"forkindex", level.rank⟩]⟩

/-- Reads directives; a list without any shows errors only. -/
def read? (text : String) : Option Filter := do
  let items := (Text.pieces (· == ',') text.toList).filter fun item => !item.isEmpty
  let directives ← items.mapM Directive.read?
  return ⟨if directives.isEmpty then [⟨"", Level.error.rank⟩] else directives⟩

/-- The directive that decides on a scope: the longest that begins it, the last of equals. -/
def deciding? (f : Filter) (scope : String) : Option Directive :=
  (f.directives.filter fun d => Text.begins d.scope scope).foldl
    (fun best d =>
      match best with
      | some b => if b.scope.length ≤ d.scope.length then some d else some b
      | none => some d)
    none

/-- Whether an event is shown. -/
def shows (f : Filter) (e : Event) : Bool :=
  match f.deciding? e.scope with
  | some d => e.level.rank ≤ d.rank
  | none => false

/-- The lines of a journal that the filter lets through. -/
def lines (f : Filter) (journal : List Event) : List String :=
  (journal.filter f.shows).map Event.render

end Filter

end ForkCensus.Journal
