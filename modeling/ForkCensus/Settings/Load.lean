import ForkCensus.Settings.Basic

/-
# Finding the settings

Settings are looked for in three places, and the first that exists counts:
if it cannot be used, that is an error, and the later ones are not tried.
-/

namespace ForkCensus

/-- The variables of the environment that a run looks at. -/
structure Environment where
  /-- The path of a settings file. -/
  settingsFile : Option String
  /-- The folder for the settings of all programs. -/
  settingsHome : Option String
  /-- The folder of the user, as the system knows it; an empty text is none. -/
  home : Option String
  /-- Which events are shown. -/
  journalFilter : Option String
deriving Repr, DecidableEq

/-- Settings, and the file they were read from, if any was found. -/
structure Settings.Loaded where
  values : Settings
  path : Option String
deriving Repr, DecidableEq

namespace Settings

/-- The places where settings are looked for, in order. -/
def candidates (env : Environment) : List String :=
  env.settingsFile.toList ++
  (env.settingsHome.map (Files.Path.join · "forkindex/config.toml")).toList ++
  ((env.home.filter fun home => !home.isEmpty).map
    (Files.Path.join · ".forkindex/config.toml")).toList

/-- Reads and checks the settings in a file.  Why a text is none of settings is told in the same words
for every text: what the reader of TOML would say of it, and where, is left out. -/
def loadFrom (t : FileTree) (path : String) : Except SettingsError Loaded :=
  match t.readText path with
  | .error cause => .error (.unreadable path cause)
  | .ok text =>
    match ofText? text with
    | none => .error (.malformed path "not a file of known settings")
    | some s =>
      match s.check with
      | .error e => .error e
      | .ok () => .ok ⟨s, some path⟩

/-- Reads and checks the settings in the first place that exists; there may be none. -/
def load (env : Environment) (t : FileTree) : Except SettingsError Loaded :=
  match (candidates env).find? t.holds with
  | some path => loadFrom t path
  | none => .ok ⟨.empty, none⟩

end Settings

end ForkCensus
