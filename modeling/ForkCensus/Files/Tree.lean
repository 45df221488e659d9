import ForkCensus.Files.Path
import ForkCensus.Text.Glyph

/-
# Trees of files

A `FileTree` is all there is below the root `/`, with the place where a
run works.  Paths are followed name by name, absolute ones from the root
and the others from the working directory; above the root is the root
again.  The working directory and those above it are there in every tree:
a process works in no other.  There are no links, and everything may be
read and written.

Each operation answers like the operating system: what is missing, in
the way, or of the wrong kind is one of the causes of `FileError`.
-/

namespace ForkCensus

/-- Why an operation on files failed. -/
inductive FileError where
  | notFound
  | taken
  | notFolder
  | isFolder
  | nameTooLong
  | zeroInName
  | notText
deriving Repr, DecidableEq, Inhabited

/-- The error in words. -/
def FileError.message : FileError → String
  | notFound => "No such file or directory (os error 2)"
  | taken => "File exists (os error 17)"
  | notFolder => "Not a directory (os error 20)"
  | isFolder => "Is a directory (os error 21)"
  | nameTooLong => "File name too long (os error 36)"
  | zeroInName => "file name contained an unexpected NUL byte"
  | notText => "stream did not contain valid UTF-8"

namespace Files

/-- What is at a place: a file with its bytes, or a folder. -/
inductive Node where
  | file (bytes : List UInt8)
  | folder
deriving Repr, DecidableEq

end Files

/-- Files and folders, by the names that lead to them from the root. -/
structure FileTree where
  entries : List (List String × Files.Node)
  /-- The working directory. -/
  here : List String
deriving Repr, DecidableEq

namespace FileTree

open Files

/-- Nothing, and the root to work in. -/
def empty : FileTree := ⟨[], []⟩

/-- Whether a place is the working directory or above it; the root always is. -/
def isAbove (t : FileTree) (place : List String) : Bool :=
  place.isPrefixOf t.here

/-- What is at a place. -/
def get? (t : FileTree) (place : List String) : Option Node :=
  if t.isAbove place then some .folder
  else (t.entries.find? fun e => e.1 == place).map Prod.snd

/-- Puts something at a place. -/
def put (t : FileTree) (place : List String) (node : Node) : FileTree :=
  { t with
    entries :=
      if t.entries.any fun e => e.1 == place then
        t.entries.map fun e => if e.1 == place then (place, node) else e
      else t.entries ++ [(place, node)] }

/-! ## Following a path -/

/-- Where a path leads: to something, or to a free name in a folder. -/
inductive Target where
  | found (place : List String) (node : Node)
  | free (place : List String)
deriving Repr, DecidableEq

/-- The longest name, in bytes. -/
def longestName : Nat := 255

/-- The longest path, in bytes. -/
def longestPath : Nat := 4095

/-- Follows names from a place on. -/
def follow (t : FileTree) (place : List String) : List String → Except FileError Target
  | [] =>
    match t.get? place with
    | some node => .ok (.found place node)
    | none => .error .notFound
  | name :: rest =>
    match t.get? place with
    | none => .error .notFound
    | some (.file _) => .error .notFolder
    | some .folder =>
      if name == "." then follow t place rest
      else if name == ".." then follow t place.dropLast rest
      else if longestName < name.utf8ByteSize then .error .nameTooLong
      else if (t.get? (place ++ [name])).isSome then follow t (place ++ [name]) rest
      else if rest.isEmpty then .ok (.free (place ++ [name]))
      else .error .notFound

/-- Where a path starts. -/
def start (t : FileTree) (path : String) : List String :=
  if Path.isAbsolute path then [] else t.here

/-- Follows a path. -/
def resolve (t : FileTree) (path : String) : Except FileError Target :=
  if path.toList.contains '\x00' then .error .zeroInName
  else if path.isEmpty then .error .notFound
  else if longestPath < path.utf8ByteSize then .error .nameTooLong
  else
    match t.follow (t.start path) (Path.names path) with
    | .ok (.found place (.file bytes)) =>
      if Path.endsInSlash path then .error .notFolder else .ok (.found place (.file bytes))
    | other => other

/-! ## Operations -/

/-- Whether there is a file or folder at the path. -/
def holds (t : FileTree) (path : String) : Bool :=
  match t.resolve path with
  | .ok (.found _ _) => true
  | _ => false

/-- Whether there is a folder at the path. -/
def isFolder (t : FileTree) (path : String) : Bool :=
  match t.resolve path with
  | .ok (.found _ .folder) => true
  | _ => false

/-- The bytes of a file. -/
def read (t : FileTree) (path : String) : Except FileError (List UInt8) :=
  match t.resolve path with
  | .ok (.found _ (.file bytes)) => .ok bytes
  | .ok (.found _ .folder) => .error .isFolder
  | .ok (.free _) => .error .notFound
  | .error e => .error e

/-- The text of a file, which must be UTF-8. -/
def readText (t : FileTree) (path : String) : Except FileError String := do
  match Text.ofUtf8? (← t.read path) with
  | some text => .ok text
  | none => .error .notText

/-- Makes a file of these bytes, in place of one that is there. -/
def write (t : FileTree) (path : String) (bytes : List UInt8) : Except FileError FileTree :=
  match t.resolve path with
  | .ok (.found place (.file _)) => .ok (t.put place (.file bytes))
  | .ok (.found _ .folder) => .error .isFolder
  | .ok (.free place) =>
    if Path.endsInSlash path then .error .isFolder else .ok (t.put place (.file bytes))
  | .error e => .error e

/-- Makes a folder at a free name. -/
def makeFolder (t : FileTree) (path : String) : Except FileError FileTree :=
  match t.resolve path with
  | .ok (.free place) => .ok (t.put place .folder)
  | .ok (.found _ _) => .error .taken
  | .error e => if e == .notFolder && leadsToFile t path then .error .taken else .error e
where
  /-- Whether the path leads to a file, but for slashes at its end. -/
  leadsToFile (t : FileTree) (path : String) : Bool :=
    match t.follow (t.start path) (Path.names path) with
    | .ok (.found _ (.file _)) => true
    | _ => false

/-- Makes a folder unless there is one; also the tree, which an attempt may have changed. -/
def ensureFolder (t : FileTree) (path : String) : FileTree × Except FileError Unit :=
  match t.makeFolder path with
  | .ok t' => (t', .ok ())
  | .error e => (t, if t.isFolder path then .ok () else .error e)

/-- Makes a folder at the first of the paths, and at those after it, which lie above it, as far as
they are missing. -/
def makeFoldersAt (t : FileTree) : List String → FileTree × Except FileError Unit
  | [] => (t, .ok ())
  | path :: above =>
    match t.ensureFolder path with
    | (_, .error .notFound) =>
      match t.makeFoldersAt above with
      | (t', .ok ()) => t'.ensureFolder path
      | failed => failed
    | done => done

/-- Makes a folder and all that are missing above it. The empty path is the working directory. -/
def makeFolders (t : FileTree) (path : String) : FileTree × Except FileError Unit :=
  if path.isEmpty then (t, .ok ()) else t.makeFoldersAt (path :: Path.ancestors path)

end FileTree

end ForkCensus
