import ForkCensus.Files.Tree
import ForkCensus.Forge.Credentials
import ForkCensus.Toml.Document

/-
# Settings

Three defaults for a run can be set in a file: the base address of the
hosting service, the credentials, and whether forks of forks are
followed.  A file that holds anything else is refused as a whole, and so
is one with a value that could not be used.
-/

namespace ForkCensus

/-- Why settings cannot be used. -/
inductive SettingsError where
  | unreadable (path : String) (cause : FileError)
  | malformed (path : String) (reason : String)
  | invalidBase (base : String)
  | namelessAuth
deriving Repr, DecidableEq

namespace SettingsError

/-- The error in words. -/
def message : SettingsError → String
  | unreadable path cause => s!"failed to read config file '{path}': {cause.message}"
  | malformed path reason => s!"failed to parse config file '{path}': {reason}"
  | invalidBase base =>
    s!"invalid config value: api_base '{base}' must start with http:// or https://"
  | namelessAuth =>
    "invalid config value: auth must name a user, as 'user' or 'user:password'"

/-- The error and the cause behind it, each in words. -/
def causes : SettingsError → List String
  | unreadable path cause => [message (unreadable path cause), cause.message]
  | e => [e.message]

end SettingsError

/-- What a settings file sets. -/
structure Settings where
  apiBase : Option String
  auth : Option String
  recursive : Option Bool
deriving Repr, DecidableEq, Inhabited

namespace Settings

/-- The base address of the public service. -/
def publicBase : String := "https://api.github.com"

/-- Nothing set. -/
def empty : Settings := ⟨none, none, none⟩

/-! ## Reading and writing -/

/-- Takes in one line of a settings file. -/
def add? (s : Settings) : Toml.Setting → Option Settings
  | ("api_base", .text base) => some { s with apiBase := some base }
  | ("auth", .text auth) => some { s with auth := some auth }
  | ("recursive", .truth b) => some { s with recursive := some b }
  | _ => none

/-- Reads the text of a settings file. -/
def ofText? (text : String) : Option Settings := do
  (← Toml.settings? text).foldlM add? empty

/-- The settings as lines of a file. -/
def lines (s : Settings) : List Toml.Setting :=
  (s.apiBase.map fun base => ("api_base", .text base)).toList ++
  (s.auth.map fun auth => ("auth", .text auth)).toList ++
  (s.recursive.map fun b => ("recursive", .truth b)).toList

/-- The text of a settings file. -/
def render (s : Settings) : String :=
  Toml.render s.lines

/-! ## Checking -/

/-- Whether an address can be the base of requests. -/
def isBase (base : String) : Bool :=
  Text.begins "https://" base || Text.begins "http://" base

/-- Refuses a base that no request can be sent to. -/
def checkBase (base : String) : Except SettingsError Unit :=
  if isBase base then .ok () else .error (.invalidBase base)

/-- Refuses credentials without a user. -/
def checkAuth (auth : String) : Except SettingsError Unit :=
  if auth.isEmpty || Text.begins ":" auth then .error .namelessAuth else .ok ()

/-- Refuses settings that could not be used. -/
def check (s : Settings) : Except SettingsError Unit := do
  if let some base := s.apiBase then checkBase base
  if let some auth := s.auth then checkAuth auth

/-! ## Values in use -/

/-- The base address to be used. -/
def base (s : Settings) : String :=
  s.apiBase.getD publicBase

/-- The credentials to be used. -/
def credentials (s : Settings) : Option Credentials :=
  s.auth.map Credentials.ofText

/-- Whether forks of forks are followed. -/
def isRecursive (s : Settings) : Bool :=
  s.recursive.getD false

end Settings

end ForkCensus
