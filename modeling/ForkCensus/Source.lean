import ForkCensus.Slug
import ForkCensus.Unicode.Blank
import ForkCensus.Url.Basic

/-
# Where a survey starts

A source is what a user writes to name a repository: its address in a
browser, an address for cloning, or just `owner/name`.  `Source.slug?`
accepts all of them and refuses what is not a repository of the one host
that is served.
-/

namespace ForkCensus

/-- Why a source names no repository. -/
inductive SourceError where
  /-- It names another host. -/
  | unknownHost (source : String) (host : String)
  /-- It names no host, or no repository there. -/
  | missingRepository (source : String)
deriving Repr, DecidableEq

/-- The error in words. -/
def SourceError.message : SourceError → String
  | .unknownHost source host => s!"unknown host '{host}' in {source}"
  | .missingRepository source => s!"no repository path in {source}"

namespace Source

/-- The host that is served. -/
def servedHost : String := "github.com"

/-- What ends an address for cloning, and is no part of the name. -/
def cloneSuffix : List Char := ".git".toList

/-- Whether a text has the mark that makes it an absolute address. -/
def isAbsolute : List Char → Bool
  | [] => false
  | c :: rest => "://".toList.isPrefixOf (c :: rest) || isAbsolute rest

/-- The text without slashes at its start. -/
def dropSlashes (cs : List Char) : List Char :=
  cs.dropWhile (· == '/')

/-- A short form written out: `user@host:path`, then a host if the first segment has a dot, else a
repository of the served host. -/
def expandShort (cs : List Char) : List Char :=
  let dotted := (cs.takeWhile (· != '/')).contains '.'
  let bare := if dotted then "https://".toList ++ cs
    else s!"https://{servedHost}/".toList ++ dropSlashes cs
  match Text.cut ':' cs with
  | some (host, path) =>
    if host.contains '@' then "ssh://".toList ++ host ++ '/' :: dropSlashes path else bare
  | none => bare

/-- A source, without blanks around it, as an absolute address. -/
def expand (cs : List Char) : List Char :=
  if isAbsolute cs then cs else expandShort cs

/-- The name that a path segment gives, without the suffix of an address for cloning. -/
def nameOf (segment : String) : String :=
  match Text.dropTail? cloneSuffix segment.toList with
  | some name => String.ofList name
  | none => segment

/-- The repository that the first two segments of a path name; empty ones do not count. -/
def slugOfSegments? (segments : List String) : Option Slug :=
  match segments.filter fun segment => !segment.isEmpty with
  | owner :: segment :: _ =>
    if (nameOf segment).isEmpty then none else some ⟨owner, nameOf segment⟩
  | _ => none

/-- The repository that a source names. -/
def slug? (source : String) : Except SourceError Slug :=
  let trimmed := Text.strip Unicode.isBlank source.toList
  match Url.ofText? (String.ofList (expand trimmed)) with
  | none => .error (.missingRepository source)
  | some url =>
    match url.hostText? with
    | none => .error (.missingRepository source)
    | some host =>
      if Text.Ascii.same host servedHost then
        match slugOfSegments? url.segments with
        | some slug => .ok slug
        | none => .error (.missingRepository source)
      else .error (.unknownHost source host)

end Source

end ForkCensus
