import ForkCensus.Json.Document
import ForkCensus.Json.Reader
import ForkCensus.Proofs.Text.Utf8

/-
# What was written is read again

`Document.render` lays a document out as text, and `Json.ofText?` reads
text.  The two meet in the tokens: `Document.tokens` are those of a
document, `scan_layout` says that the scanner finds them in its layout,
and `run_tokens` that the reader puts them together to the value of the
document, at any place.

All strings survive, since every character that the scanner would not
take as it stands is escaped (`scanString_escape`).
-/

namespace ForkCensus.Json

open Text (Glyph)

namespace Document

mutual

/-- The tokens of a document. -/
def tokens : Document → List Token
  | text s => [.string (some s)]
  | list [] => [.beginArray, .endArray]
  | list (item :: items) => .beginArray :: (tokens item ++ itemTokens items)
  | record [] => [.beginObject, .endObject]
  | record ((name, value) :: fields) =>
    .beginObject :: .string (some name) :: .colon :: (tokens value ++ fieldTokens fields)

/-- The tokens of the items of a list after the first, and of its end. -/
def itemTokens : List Document → List Token
  | [] => [.endArray]
  | item :: items => .comma :: (tokens item ++ itemTokens items)

/-- The tokens of the fields of a record after the first, and of its end. -/
def fieldTokens : List (String × Document) → List Token
  | [] => [.endObject]
  | (name, value) :: fields =>
    .comma :: .string (some name) :: .colon :: (tokens value ++ fieldTokens fields)

end

end Document

open Document

/-! ## Scanning a layout -/

namespace Token

theorem scan_blank {c : Char} (h : isBlank c = true) (rest : List Glyph) :
    scan (some c :: rest) = scan rest := by
  rw [scan, if_pos h]

theorem scan_punctuation {c : Char} {t : Token} (hb : isBlank c = false)
    (h : punctuation? c = some t) (rest : List Glyph) :
    scan (some c :: rest) = (scan rest).map (t :: ·) := by
  rw [scan, if_neg (by rw [hb]; decide), h]

theorem scan_newLine (depth : Nat) (rest : List Glyph) :
    scan ((newLine depth).map some ++ rest) = scan rest := by
  have hblanks : ∀ n, scan ((List.replicate n ' ').map some ++ rest) = scan rest := by
    intro n
    induction n with
    | zero => rfl
    | succ n ih =>
        rw [List.replicate_succ, List.map_cons, List.cons_append, scan_blank (by decide), ih]
  rw [newLine, List.map_cons, List.cons_append, scan_blank (by decide), hblanks]

/-- A control, as its two hexadecimal digits give it back. -/
theorem unit?_control : ∀ n < 0x20,
    unit? ['0', '0', Nat.digitChar (n / 16), Nat.digitChar (n % 16)] =
      some (.char (Char.ofNat n)) := by
  decide

theorem scanString_close (rest : List Glyph) :
    scanString (some '"' :: rest) = some ([], rest) := by
  rw [scanString.eq_def]
  simp only [if_true]

/-- An escape of one letter. -/
theorem scanString_short {e c : Char} (he : escaped? e = some c) (hu : e ≠ 'u')
    (rest : List Glyph) : scanString (some '\\' :: some e :: rest) =
      (scanString rest).map fun r => (.char c :: r.1, r.2) := by
  rw [scanString, if_neg (by decide), if_pos rfl, he]
  · rfl
  · intro a b c d more _ h
    exact hu h

/-- **A character that was escaped is scanned as itself.** -/
theorem scanString_escape (c : Char) (rest : List Glyph) :
    scanString ((escape c).map some ++ rest) =
      (scanString rest).map fun r => (.char c :: r.1, r.2) := by
  unfold escape
  split
  case h_8 hquote hslash _ _ _ _ _ =>
      split
      · rename_i hcontrol
        have hunit := unit?_control _ hcontrol
        rw [Char.ofNat_toNat] at hunit
        simp only [List.map_cons, List.map_nil, List.cons_append, List.nil_append]
        rw [scanString, if_neg (by decide), if_pos rfl, hunit]
        rfl
      · rename_i hplain
        simp only [List.map_cons, List.map_nil, List.cons_append, List.nil_append]
        rw [scanString.eq_def]
        simp only [if_neg hquote, if_neg hslash, if_neg hplain]
  all_goals exact scanString_short rfl (by decide) rest

theorem scanString_flatMap_escape (cs : List Char) (rest : List Glyph) :
    scanString ((cs.flatMap escape).map some ++ some '"' :: rest) =
      some (cs.map .char, rest) := by
  induction cs with
  | nil => exact scanString_close rest
  | cons c cs ih =>
      rw [List.flatMap_cons, List.map_append, List.append_assoc, scanString_escape, ih]
      rfl

theorem assemble_map_char (cs : List Char) : assemble (cs.map .char) = some cs := by
  induction cs with
  | nil => rfl
  | cons c cs ih => rw [List.map_cons, assemble, ih]; rfl

/-- A text between quotes is one token. -/
theorem scan_quote (s : String) (rest : List Glyph) :
    scan ((quote s).map some ++ rest) = (scan rest).map (.string (some s) :: ·) := by
  have hstring : scanString ((s.toList.flatMap escape).map some ++ some '"' :: rest) =
      some (s.toList.map .char, rest) := scanString_flatMap_escape s.toList rest
  have htext : (assemble (s.toList.map .char)).map String.ofList = some s := by
    rw [assemble_map_char, Option.map_some, String.ofList_toList]
  have hquote : (quote s).map some ++ rest =
      some '"' :: ((s.toList.flatMap escape).map some ++ some '"' :: rest) := by
    simp [quote]
  have hnone : punctuation? '"' = none := by decide
  rw [hquote, scan, if_neg (by decide), hnone]
  dsimp only
  rw [if_pos rfl]
  split
  · rename_i h
    rw [hstring] at h
    cases h
  · rename_i pieces after h
    rw [hstring] at h
    cases h
    rw [htext]

mutual

/-- **The tokens of a layout are those of the document**, at whatever depth it begins. -/
theorem scan_layout : ∀ (d : Document) (depth : Nat) {rest : List Glyph} {ts : List Token},
    scan rest = some ts → scan ((layout depth d).map some ++ rest) = some (d.tokens ++ ts)
  | .text s, depth, rest, ts, h => by
      rw [layout, scan_quote, h]
      rfl
  | .list [], depth, rest, ts, h => by
      show scan (some '[' :: some ']' :: rest) = _
      rw [scan_punctuation (by decide) rfl, scan_punctuation (by decide) rfl, h]
      rfl
  | .list (item :: items), depth, rest, ts, h => by
      rw [layout]
      simp only [List.map_cons, List.map_append, List.cons_append, List.append_assoc]
      rw [scan_punctuation (by decide) rfl, scan_newLine,
        scan_layout item (depth + 1) (scan_layoutItems items depth h)]
      simp [Document.tokens]
  | .record [], depth, rest, ts, h => by
      show scan (some '{' :: some '}' :: rest) = _
      rw [scan_punctuation (by decide) rfl, scan_punctuation (by decide) rfl, h]
      rfl
  | .record ((name, value) :: fields), depth, rest, ts, h => by
      rw [layout]
      simp only [List.map_cons, List.map_append, List.cons_append, List.nil_append,
        List.append_assoc]
      rw [scan_punctuation (by decide) rfl, scan_newLine, scan_quote,
        scan_punctuation (by decide) rfl, scan_blank (by decide),
        scan_layout value (depth + 1) (scan_layoutFields fields depth h)]
      simp [Document.tokens]

theorem scan_layoutItems : ∀ (items : List Document) (depth : Nat) {rest : List Glyph}
    {ts : List Token}, scan rest = some ts →
    scan ((layoutItems depth items).map some ++ rest) = some (itemTokens items ++ ts)
  | [], depth, rest, ts, h => by
      rw [layoutItems]
      simp only [List.map_cons, List.map_nil, List.map_append, List.cons_append, List.nil_append,
        List.append_assoc]
      rw [scan_newLine, scan_punctuation (by decide) rfl, h]
      rfl
  | item :: items, depth, rest, ts, h => by
      rw [layoutItems]
      simp only [List.map_cons, List.map_append, List.cons_append, List.append_assoc]
      rw [scan_punctuation (by decide) rfl, scan_newLine,
        scan_layout item (depth + 1) (scan_layoutItems items depth h)]
      simp [itemTokens]

theorem scan_layoutFields : ∀ (fields : List (String × Document)) (depth : Nat)
    {rest : List Glyph} {ts : List Token}, scan rest = some ts →
    scan ((layoutFields depth fields).map some ++ rest) = some (fieldTokens fields ++ ts)
  | [], depth, rest, ts, h => by
      rw [layoutFields]
      simp only [List.map_cons, List.map_nil, List.map_append, List.cons_append, List.nil_append,
        List.append_assoc]
      rw [scan_newLine, scan_punctuation (by decide) rfl, h]
      rfl
  | (name, value) :: fields, depth, rest, ts, h => by
      rw [layoutFields]
      simp only [List.map_cons, List.map_append, List.cons_append, List.nil_append,
        List.append_assoc]
      rw [scan_punctuation (by decide) rfl, scan_newLine, scan_quote,
        scan_punctuation (by decide) rfl, scan_blank (by decide),
        scan_layout value (depth + 1) (scan_layoutFields fields depth h)]
      simp [fieldTokens]

end

end Token

/-! ## Putting tokens together -/

namespace Reader

theorem run_cons {r r' : Reader} {t : Token} (h : r.step t = some r') (ts : List Token) :
    r.run (t :: ts) = r'.run ts := by
  rw [run, List.foldlM_cons, h]
  rfl

/-- A document begins with no closing bracket, so where an array may end it is read as an item. -/
theorem run_itemOrEnd (d : Document) (outer : List Frame) (ts : List Token) :
    (itemOrEnd outer).run (d.tokens ++ ts) = (value (.array [] :: outer)).run (d.tokens ++ ts) := by
  have hstep : ∀ {t : Token} (more : List Token), t ≠ .endArray →
      (itemOrEnd outer).run (t :: more) = (value (.array [] :: outer)).run (t :: more) := by
    intro t more ht
    have hsame : step (itemOrEnd outer) t = step (value (.array [] :: outer)) t := by
      rw [step.eq_def]
      cases t <;> first | rfl | exact absurd rfl ht
    rw [run, run, List.foldlM_cons, List.foldlM_cons, hsame]
  cases d with
  | text s => exact hstep _ nofun
  | list items =>
      cases items with
      | nil => exact hstep _ (by decide)
      | cons item items => exact hstep _ (by decide)
  | record fields =>
      cases fields with
      | nil => exact hstep _ (by decide)
      | cons field fields => exact hstep _ (by decide)

mutual

/-- **The tokens of a document are read as its value**, wherever a value is expected. -/
theorem run_tokens : ∀ (d : Document) (around : List Frame) (ts : List Token),
    (value around).run (d.tokens ++ ts) = (place d.toJson around).run ts
  | .text s, around, ts => run_cons rfl ts
  | .list [], around, ts => by
      show (value around).run (.beginArray :: .endArray :: ts) = _
      rw [run_cons rfl, run_cons rfl]
      rfl
  | .list (item :: items), around, ts => by
      rw [Document.tokens, List.cons_append, run_cons rfl, List.append_assoc, run_itemOrEnd,
        run_tokens item]
      exact run_itemTokens items [item.toJson] around ts
  | .record [], around, ts => by
      show (value around).run (.beginObject :: .endObject :: ts) = _
      rw [run_cons rfl, run_cons rfl]
      rfl
  | .record ((name, v) :: fields), around, ts => by
      rw [Document.tokens, List.cons_append, run_cons rfl, List.cons_append, run_cons rfl,
        List.cons_append, run_cons rfl, List.append_assoc, run_tokens v]
      exact run_fieldTokens fields [(some name, v.toJson)] around ts

theorem run_itemTokens : ∀ (items : List Document) (done : List Json) (outer : List Frame)
    (ts : List Token),
    (afterItem done outer).run (itemTokens items ++ ts) =
      (place (.array (done.reverse ++ itemsToJson items)) outer).run ts
  | [], done, outer, ts => by
      rw [itemsToJson, List.append_nil]
      exact run_cons rfl ts
  | item :: items, done, outer, ts => by
      rw [itemTokens, List.cons_append, run_cons rfl, List.append_assoc, run_tokens item]
      show (afterItem (item.toJson :: done) outer).run _ = _
      rw [run_itemTokens items, List.reverse_cons, List.append_assoc]
      rfl

theorem run_fieldTokens : ∀ (fields : List (String × Document))
    (done : List (Option String × Json)) (outer : List Frame) (ts : List Token),
    (afterMember done outer).run (fieldTokens fields ++ ts) =
      (place (.object (done.reverse ++ fieldsToJson fields)) outer).run ts
  | [], done, outer, ts => by
      rw [fieldsToJson, List.append_nil]
      exact run_cons rfl ts
  | (name, v) :: fields, done, outer, ts => by
      rw [fieldTokens, List.cons_append, run_cons rfl, List.cons_append, run_cons rfl,
        List.cons_append, run_cons rfl, List.append_assoc, run_tokens v]
      show (afterMember ((some name, v.toJson) :: done) outer).run _ = _
      rw [run_fieldTokens fields, List.reverse_cons, List.append_assoc]
      rfl

end

end Reader

/-- **The text of a document is read as its value.** -/
theorem ofText?_render (d : Document) : ofText? d.render = some d.toJson := by
  have hscan : Token.scan (d.render.toList.map some) = some d.tokens := by
    have hend : Token.scan [] = some [] := by rw [Token.scan]
    have hlayout := Token.scan_layout d 0 hend
    rwa [List.append_nil, List.append_nil, ← String.toList_ofList (l := d.layout 0)] at hlayout
  have hrun : (Reader.value []).run d.tokens = some (.complete d.toJson) := by
    have hplace := Reader.run_tokens d [] []
    rwa [List.append_nil] at hplace
  rw [ofText?, read?, hscan]
  show ((Reader.value []).run d.tokens).bind Reader.result? = _
  rw [hrun]
  rfl

/-- The bytes of a text are read like the text. -/
theorem ofBytes?_utf8 (text : String) : ofBytes? (Text.utf8 text) = ofText? text := by
  rw [ofBytes?, Text.glyphs_utf8, ofText?]

end ForkCensus.Json
