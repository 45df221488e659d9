import ForkCensus.Files.Tree
import ForkCensus.Json.Document
import ForkCensus.Json.Reader
import ForkCensus.Repository

/-
# The index file

The result of a run is a file for a code search service: the name of the
index and, for each repository, where it is checked out, what it is
called, which revisions are searched, and two links.  The repositories
with the most stars come first, and those with equal stars in the order
in which they were given.
-/

namespace ForkCensus

/-- One repository of an index. -/
structure SearchIndex.Entry where
  path : String
  name : String
  revisions : List String
  /-- The address for cloning. -/
  remote : String
  /-- The address in a browser. -/
  page : String
deriving Repr, DecidableEq

/-- An index. -/
structure SearchIndex where
  name : String
  repos : List SearchIndex.Entry
deriving Repr, DecidableEq

/-- Why an index was not written. -/
inductive EmitError where
  | createFolder (path : String) (cause : FileError)
  | write (path : String) (cause : FileError)
deriving Repr, DecidableEq

namespace EmitError

/-- The error in words. -/
def message : EmitError → String
  | createFolder path cause => s!"failed to create output directory '{path}': {cause.message}"
  | write path cause => s!"failed to write '{path}': {cause.message}"

/-- The cause behind the error. -/
def cause : EmitError → FileError
  | createFolder _ cause => cause
  | write _ cause => cause

/-- The error and the cause behind it, each in words. -/
def causes (e : EmitError) : List String :=
  [e.message, e.cause.message]

end EmitError

namespace SearchIndex

/-! ## From records -/

/-- The revision that is searched. -/
def searchedRevision : String := "HEAD"

/-- The entry of a repository, checked out below a folder. -/
def Entry.ofRepository (folder : String) (r : Repository) : Entry where
  path := Files.Path.join (Files.Path.join folder r.owner) r.name
  name := r.slug.display
  revisions := [searchedRevision]
  remote := r.cloneHttp
  page := r.page

/-- The records with the most stars first, and otherwise in their order. -/
def ranked (records : List Repository) : List Repository :=
  records.mergeSort fun a b => b.stars ≤ a.stars

/-- The index of the given records. -/
def build (name folder : String) (records : List Repository) : SearchIndex :=
  ⟨name, (ranked records).map (Entry.ofRepository folder)⟩

/-! ## As text -/

open Json (Document)

/-- An entry as a document. -/
def Entry.document (e : Entry) : Document :=
  .record
    [("path", .text e.path), ("name", .text e.name),
      ("revisions", .list (e.revisions.map .text)),
      ("metadata", .record [("remote", .text e.remote), ("github", .text e.page)])]

/-- An index as a document. -/
def document (i : SearchIndex) : Document :=
  .record [("name", .text i.name), ("repos", .list (i.repos.map Entry.document))]

/-- The text of an index. -/
def render (i : SearchIndex) : String :=
  i.document.render

/-- Takes an entry out of a JSON value. -/
def Entry.ofJson? (v : Json) : Option Entry := do
  match ← v.record? ["path", "name", "revisions", "metadata"] with
  | [path, name, revisions, metadata] =>
    match ← metadata.record? ["remote", "github"] with
    | [remote, page] =>
      return ⟨← path.text?, ← name.text?, ← revisions.list? Json.text?, ← remote.text?,
        ← page.text?⟩
    | _ => none
  | _ => none

/-- Takes an index out of a JSON value. -/
def ofJson? (v : Json) : Option SearchIndex := do
  match ← v.record? ["name", "repos"] with
  | [name, repos] => return ⟨← name.text?, ← repos.list? Entry.ofJson?⟩
  | _ => none

/-- Reads the text of an index. -/
def ofText? (text : String) : Option SearchIndex :=
  (Json.ofText? text).bind ofJson?

/-! ## As a file -/

/-- The name of the file. -/
def fileName : String := "livegrep.json"

/-- The path of the file in a folder. -/
def pathIn (folder : String) : String :=
  Files.Path.join folder fileName

/-- Writes an index into a folder, which is made if it is missing: the tree, which an attempt may
have changed, and the path of the file. -/
def write (i : SearchIndex) (folder : String) (t : FileTree) :
    FileTree × Except EmitError String :=
  match t.makeFolders folder with
  | (t', .error cause) => (t', .error (.createFolder folder cause))
  | (t', .ok ()) =>
    match t'.write (pathIn folder) (Text.utf8 i.render) with
    | .error cause => (t', .error (.write (pathIn folder) cause))
    | .ok t'' => (t'', .ok (pathIn folder))

end SearchIndex

end ForkCensus
