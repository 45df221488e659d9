import ForkCensus.Url.Host
import ForkCensus.Url.Path

/-
# Addresses

`Url.ofText?` reads an absolute address as browsers do.  Blanks at the
ends and tabs and line breaks anywhere are dropped.  For the schemes of
the web a backslash is as good as a slash and the number of slashes
before the host does not matter; for `file` the host may be missing; for
any other scheme there is a host only after two slashes.
-/

namespace ForkCensus

/-- The path of an address: segments, or plain text where there can be no host. -/
inductive Url.Path where
  | segments (list : List String)
  | plain (text : String)
deriving Repr, DecidableEq

/-- An absolute address. -/
structure Url where
  scheme : String
  /-- User name and password, encoded, as far as given. -/
  user : Option (String × Option String)
  host : Option Url.Host
  /-- The port, unless it is the one that the scheme implies. -/
  port : Option UInt16
  path : Url.Path
  query : Option String
  fragment : Option String
deriving Repr, DecidableEq

namespace Url

/-- What a scheme says about the rest of an address. -/
inductive Kind where
  /-- A scheme of the web, with its usual port. -/
  | web (port : UInt16)
  | file
  | other
deriving Repr, DecidableEq

/-- The kind of a scheme, given in small letters. -/
def Kind.of (scheme : String) : Kind :=
  match scheme with
  | "http" | "ws" => .web 80
  | "https" | "wss" => .web 443
  | "ftp" => .web 21
  | "file" => .file
  | _ => .other

/-- Whether a backslash is a slash. -/
def Kind.isSpecial (k : Kind) : Bool :=
  k != .other

/-- What separates the segments of a path. -/
def Kind.isSlash (k : Kind) (c : Char) : Bool :=
  c == '/' || (c == '\\' && k.isSpecial)

/-- What ends the part with the host. -/
def Kind.endsHost (k : Kind) (c : Char) : Bool :=
  k.isSlash c || c == '?' || c == '#'

/-- Drops controls and spaces at the ends, and tabs and line breaks. -/
def clean (cs : List Char) : List Char :=
  (Text.strip (fun c => c.toNat ≤ 0x20) cs).filter fun c => c != '\t' && c != '\n' && c != '\r'

/-- Cuts the scheme off: a letter, then letters, digits, `+`, `-` and `.`, up to a colon. -/
def cutScheme? (cs : List Char) : Option (String × List Char) :=
  match Text.cut ':' cs with
  | some (first :: more, rest) =>
    if first.isAlpha && more.all fun c => c.isAlphanum || c == '+' || c == '-' || c == '.' then
      some (String.ofList ((first :: more).map Char.toLower), rest)
    else none
  | _ => none

/-! ## Query and fragment -/

/-- What stands after the path. -/
structure Tail where
  query : Option String
  fragment : Option String

/-- Cuts path, query and fragment apart. -/
def cutTail (k : Kind) (cs : List Char) : List Char × Tail :=
  let (front, fragment) := match Text.cut '#' cs with
    | some (front, fragment) =>
      (front, some (String.ofList (Percent.encode Percent.inFragment fragment)))
    | none => (cs, none)
  match Text.cut '?' front with
  | some (path, query) =>
    (path, ⟨some (String.ofList (Percent.encode (Percent.inQuery k.isSpecial) query)), fragment⟩)
  | none => (front, ⟨none, fragment⟩)

/-! ## User, host and port -/

/-- What stands before the last `@` of a text, and what stands after it. -/
def cutUser (authority : List Char) : Option (List Char) × List Char :=
  match Text.cut '@' authority.reverse with
  | some (host, user) => (some user.reverse, host.reverse)
  | none => (none, authority)

/-- User name and password in encoded form; nothing if both are empty. -/
def readUser (cs : List Char) : Option (String × Option String) :=
  let encode := fun part => String.ofList (Percent.encode Percent.inUser part)
  match Text.cut ':' cs with
  | none => if cs.isEmpty then none else some (encode cs, none)
  | some ([], []) => none
  | some (user, []) => some (encode user, none)
  | some (user, password) => some (encode user, some (encode password))

/-- The text of the host, up to a colon outside brackets, and the rest. -/
def cutHost (bracket : Bool) : List Char → List Char × List Char
  | [] => ([], [])
  | c :: rest =>
    if c == ':' && !bracket then ([], c :: rest)
    else
      let inside := if c == '[' then true else if c == ']' then false else bracket
      let (host, after) := cutHost inside rest
      (c :: host, after)

/-- The number of a port: at most 65535, of any number of digits. -/
def portNumber? (digits : List Char) : Option (Option UInt16) :=
  if digits.isEmpty then some none
  else
    match Ipv4.digits? 10 digits with
    | some n => if n < 65536 then some (some (UInt16.ofNat n)) else none
    | none => none

/-- Reads the port after the host. A backslash ends it; what is left belongs to the path. -/
def readPort? (after : List Char) : Option (Option UInt16 × List Char) :=
  match after with
  | [] => some (none, [])
  | _ :: text =>
    let digits := text.takeWhile Char.isDigit
    let rest := text.drop digits.length
    match rest with
    | [] | '\\' :: _ => (portNumber? digits).map fun port => (port, rest)
    | _ => none

/-- User, host and port, and what is left for the path. -/
structure Authority where
  user : Option (String × Option String)
  host : Option Host
  port : Option UInt16
  rest : List Char

/-- Reads what stands between two slashes and the path, where `atEnd` says that nothing follows.
A scheme of the web needs a host; elsewhere it may be empty if nothing else is given. -/
def readAuthority? (k : Kind) (cs : List Char) (atEnd : Bool) : Option Authority := do
  let (userText, hostPort) := cutUser cs
  let user := userText.bind readUser
  let (hostText, after) := cutHost false hostPort
  if hostText.isEmpty then
    let bare := user.isNone && after.isEmpty && !(userText == some [] && !atEnd)
    if bare && k == .other then return ⟨none, none, none, []⟩ else none
  else
    let host ← if k.isSpecial then Host.ofText? hostText else Host.ofPlainText? hostText
    let (port, rest) ← readPort? after
    return ⟨user, some host, if port.map Kind.web == some k then none else port, rest⟩

/-! ## The kinds of addresses -/

/-- The path after the host; a special scheme always has one. -/
def readPath (k : Kind) (cs : List Char) : Path :=
  match cs with
  | [] => .segments (if k.isSpecial then [""] else [])
  | c :: rest => .segments (segmentsOf k.isSlash (if k.isSlash c then rest else c :: rest))

/-- Reads what follows two slashes: user, host and port, then a path. -/
def readHosted? (k : Kind) (scheme : String) (cs : List Char) : Option Url := do
  let authorityText := cs.takeWhile fun c => !k.endsHost c
  let after := cs.drop authorityText.length
  let authority ← readAuthority? k authorityText after.isEmpty
  let (path, tail) := cutTail k (authority.rest ++ after)
  return ⟨scheme, authority.user, authority.host, authority.port, readPath k path,
    tail.query, tail.fragment⟩

/-- The host of a file: none where there is a drive instead, or for the machine itself. -/
def readFileHost? (cs : List Char) : Option (Option Host × List Char) :=
  let text := cs.takeWhile fun c => !Kind.file.endsHost c
  if isDrive text then some (none, cs)
  else if text.isEmpty then some (none, cs)
  else
    match Host.ofText? text with
    | none => none
    | some (.name "localhost") => some (none, cs.drop text.length)
    | some host => some (some host, cs.drop text.length)

/-- Reads the address of a file. -/
def readFile? (cs : List Char) : Option Url := do
  let isSlash := Kind.file.isSlash
  let (host, rest) ← match cs with
    | a :: b :: rest => if isSlash a && isSlash b then readFileHost? rest else some (none, cs)
    | _ => some (none, cs)
  let (path, tail) := cutTail .file rest
  let (segments, named) := Drive.segmentsOf (match path with
    | c :: more => if isSlash c then more else path
    | [] => [])
  return ⟨"file", none, if named then none else host, none, .segments segments,
    tail.query, tail.fragment⟩

/-- Reads an address of a scheme that nothing is known of. -/
def readOther? (scheme : String) (cs : List Char) : Option Url :=
  match cs with
  | '/' :: '/' :: rest => readHosted? .other scheme rest
  | _ =>
    let (text, tail) := cutTail .other cs
    let path := match text with
      | '/' :: rest => .segments (segmentsOf (· == '/') rest)
      | _ => .plain (String.ofList (Percent.encode Percent.inHost text))
    some ⟨scheme, none, none, none, path, tail.query, tail.fragment⟩

/-- Reads an absolute address. -/
def ofText? (text : String) : Option Url := do
  let (scheme, rest) ← cutScheme? (clean text.toList)
  match Kind.of scheme with
  | .web port =>
    readHosted? (.web port) scheme (rest.dropWhile (Kind.web port).isSlash)
  | .file => readFile? rest
  | .other => readOther? scheme rest

/-! ## Views -/

/-- The host as text. -/
def hostText? (u : Url) : Option String :=
  u.host.map Host.render

/-- The port that is used: the one given, else the usual one of the scheme. -/
def portInUse? (u : Url) : Option UInt16 :=
  u.port.or <|
    match Kind.of u.scheme with
    | .web port => some port
    | _ => none

/-- The segments of the path; none where it is plain text. -/
def segments (u : Url) : List String :=
  match u.path with
  | .segments list => list
  | .plain _ => []

/-- The path and query, as a request names them. -/
def target (u : Url) : String :=
  let path := match u.path with
    | .segments list => String.join (list.map ("/" ++ ·))
    | .plain text => text
  path ++ (u.query.elim "" ("?" ++ ·))

end Url

end ForkCensus
