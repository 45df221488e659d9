import ForkCensus.Proofs.Json.RoundTrip
import ForkCensus.SearchIndex

/-
# The text of an index

An index is read back from its text as it was (`SearchIndex.ofText?_render`),
whatever is in its names: quotes, backslashes and controls are escaped on
the way out and come back on the way in.  A text that was written by hand
may say the same in other words; writing what was read from it says it in
the one way that is read back alike (`SearchIndex.render_roundTrip`).
-/

namespace ForkCensus.SearchIndex

open Json Json.Document

/-- Items that are written and read one by one are read back together. -/
theorem mapM_itemsToJson {α : Type} {document : α → Document} {read? : Json → Option α}
    (h : ∀ a, read? (document a).toJson = some a) (items : List α) :
    (itemsToJson (items.map document)).mapM read? = some items := by
  induction items with
  | nil => rfl
  | cons a items ih =>
      rw [List.map_cons, itemsToJson, List.mapM_cons, h, ih]
      rfl

theorem Entry.ofJson?_document (e : Entry) : Entry.ofJson? e.document.toJson = some e := by
  have hrevisions : list? text? (.array (itemsToJson (e.revisions.map .text))) =
      some e.revisions := mapM_itemsToJson (fun _ => rfl) e.revisions
  simp [Entry.document, toJson, fieldsToJson, Entry.ofJson?, record?, only?, text?, hrevisions]

theorem ofJson?_document (i : SearchIndex) : ofJson? i.document.toJson = some i := by
  have hrepos : list? Entry.ofJson? (.array (itemsToJson (i.repos.map Entry.document))) =
      some i.repos := mapM_itemsToJson Entry.ofJson?_document i.repos
  simp [document, toJson, fieldsToJson, ofJson?, record?, only?, text?, hrepos]

/-- **An index is read back from its text as it was.** -/
theorem ofText?_render (i : SearchIndex) : ofText? i.render = some i := by
  rw [ofText?, render, Json.ofText?_render, Option.bind_some, ofJson?_document]

/-- The same from the bytes of the file. -/
theorem ofBytes?_render (i : SearchIndex) :
    (Json.ofBytes? (Text.utf8 i.render)).bind ofJson? = some i := by
  rw [Json.ofBytes?_utf8]
  exact ofText?_render i

/-- **Writing and reading an index loses nothing.**  Every index is read back from its text, and
from the bytes of its file, as it was; and a text that is read as an index, or is not, stays so when
what was read is written again. -/
theorem render_roundTrip :
    (∀ i : SearchIndex, ofText? i.render = some i ∧
      (Json.ofBytes? (Text.utf8 i.render)).bind ofJson? = some i) ∧
    ∀ text, ((ofText? text).map render).bind ofText? = ofText? text := by
  constructor
  · intro i
    exact ⟨ofText?_render i, ofBytes?_render i⟩
  · intro text
    cases htext : ofText? text with
    | none => rfl
    | some i => exact ofText?_render i

/-- An entry as a list of its fields, between blanks, is read like any other. -/
example : ofText? " [\"i\",\n[[\"p\", \"n\", [], [\"r\", \"g\"]]]] " =
    some ⟨"i", [⟨"p", "n", [], "r", "g"⟩]⟩ := by
  decide +kernel

end ForkCensus.SearchIndex
