import ForkCensus.Toml.Strings

/-
# Settings files

The part of TOML that settings are written in: lines with a key and a
value, which is a string or a truth value, and comments.  Tables, lists,
numbers and dates are no settings and are refused, as is a key that comes
twice.
-/

namespace ForkCensus.Toml

/-- The value of a setting. -/
inductive Value where
  | text (s : String)
  | truth (b : Bool)
deriving Repr, DecidableEq

/-- A key with its value. -/
abbrev Setting := String × Value

/-- Whether a key may hold the character without quotes. -/
def isBare (c : Char) : Bool :=
  c.isAlphanum || c == '_' || c == '-'

/-- Reads a key: a word, or a string in either of its short forms. -/
def key? (cs : List Char) : Option (List Char × List Char) :=
  match cs with
  | '"' :: rest => basic? rest
  | '\'' :: rest => literal? rest
  | _ =>
    let word := cs.takeWhile isBare
    if word.isEmpty then none else some (word, cs.dropWhile isBare)

/-- Reads a value. -/
def value? (cs : List Char) : Option (Value × List Char) :=
  match cs with
  | 't' :: 'r' :: 'u' :: 'e' :: rest => some (.truth true, rest)
  | 'f' :: 'a' :: 'l' :: 's' :: 'e' :: rest => some (.truth false, rest)
  | _ => (string? cs).map fun r => (.text (String.ofList r.1), r.2)

/-- Reads the rest of a line after its value: blanks, a comment, and the line end. -/
def lineEnd? (cs : List Char) : Option (List Char) :=
  match cs.dropWhile isBlank with
  | [] => some []
  | '\n' :: rest => some rest
  | '#' :: rest =>
    match rest.dropWhile isPrintable with
    | [] => some []
    | '\n' :: rest => some rest
    | _ => none
  | _ => none

/-- Reads a key, an equals sign and a value. -/
def setting? (cs : List Char) : Option (Setting × List Char) :=
  match key? cs with
  | none => none
  | some (key, rest) =>
    match rest.dropWhile isBlank with
    | '=' :: rest =>
      (value? (rest.dropWhile isBlank)).map fun r => ((String.ofList key, r.1), r.2)
    | _ => none

/-- Reads a line, with its setting if there is one. -/
def line? (cs : List Char) : Option (Option Setting × List Char) :=
  match lineEnd? cs with
  | some rest => some (none, rest)
  | none =>
    match setting? (cs.dropWhile isBlank) with
    | none => none
    | some (s, rest) => (lineEnd? rest).map fun after => (some s, after)

/-! ## A line takes something away -/

theorem length_dropWhile_le (p : Char → Bool) (cs : List Char) :
    (cs.dropWhile p).length ≤ cs.length :=
  (List.dropWhile_sublist p).length_le

theorem key?_length {cs k rest : List Char} (h : key? cs = some (k, rest)) :
    rest.length ≤ cs.length := by
  unfold key? at h
  split at h
  · exact Nat.le_succ_of_le (Nat.le_of_lt (basic?_length h))
  · exact Nat.le_succ_of_le (Nat.le_of_lt (literal?_length h))
  · have := length_dropWhile_le isBare cs
    grind

theorem value?_length {cs rest : List Char} {v : Value} (h : value? cs = some (v, rest)) :
    rest.length ≤ cs.length := by
  unfold value? at h
  split at h
  · simp only [Option.some.injEq, Prod.mk.injEq] at h
    simp only [← h.2, List.length_cons]
    omega
  · simp only [Option.some.injEq, Prod.mk.injEq] at h
    simp only [← h.2, List.length_cons]
    omega
  · simp only [Option.map_eq_some_iff, Prod.mk.injEq] at h
    obtain ⟨r, hr, _, rfl⟩ := h
    exact Nat.le_of_lt (string?_length (s := r.1) hr)

theorem lineEnd?_length {cs rest : List Char} (h : lineEnd? cs = some rest) :
    rest.length ≤ cs.length := by
  have h1 := length_dropWhile_le isBlank cs
  unfold lineEnd? at h
  split at h
  · simp_all
  · rename_i h2
    rw [h2] at h1
    grind
  · rename_i after h2
    rw [h2] at h1
    have h3 := length_dropWhile_le isPrintable after
    split at h
    · simp_all
    · rename_i h4
      rw [h4] at h3
      grind
    · exact absurd h (by simp)
  · exact absurd h (by simp)

theorem lineEnd?_length_lt {cs rest : List Char} (hcs : cs ≠ [])
    (h : lineEnd? cs = some rest) : rest.length < cs.length := by
  have h1 := length_dropWhile_le isBlank cs
  have h0 : 0 < cs.length := List.length_pos_iff.2 hcs
  unfold lineEnd? at h
  split at h
  · simp_all
  · rename_i h2
    rw [h2] at h1
    grind
  · rename_i after h2
    rw [h2] at h1
    have h3 := length_dropWhile_le isPrintable after
    split at h
    · simp_all
    · rename_i h4
      rw [h4] at h3
      grind
    · exact absurd h (by simp)
  · exact absurd h (by simp)

theorem setting?_length {cs rest : List Char} {s : Setting} (h : setting? cs = some (s, rest)) :
    rest.length < cs.length := by
  unfold setting? at h
  split at h
  · exact absurd h (by simp)
  · rename_i k after hk
    have h1 := key?_length hk
    split at h
    · rename_i tail h2
      have h3 := length_dropWhile_le isBlank after
      rw [h2] at h3
      simp only [Option.map_eq_some_iff, Prod.mk.injEq] at h
      obtain ⟨r, hr, _, rfl⟩ := h
      have h4 := value?_length (v := r.1) hr
      have h5 := length_dropWhile_le isBlank tail
      simp only [List.length_cons] at h3
      omega
    · exact absurd h (by simp)

theorem line?_length {cs rest : List Char} {s : Option Setting} (hcs : cs ≠ [])
    (h : line? cs = some (s, rest)) : rest.length < cs.length := by
  unfold line? at h
  split at h
  · rename_i hend
    simp only [Option.some.injEq, Prod.mk.injEq] at h
    exact h.2 ▸ lineEnd?_length_lt hcs hend
  · split at h
    · exact absurd h (by simp)
    · rename_i after hs
      have h1 := setting?_length hs
      have h2 := length_dropWhile_le isBlank cs
      simp only [Option.map_eq_some_iff, Prod.mk.injEq] at h
      obtain ⟨r, hr, _, rfl⟩ := h
      have h3 := lineEnd?_length hr
      omega

/-! ## All lines -/

/-- The settings of all lines, in order. -/
def lines? (cs : List Char) : Option (List Setting) :=
  if _hcs : cs = [] then some []
  else
    match _h : line? cs with
    | none => none
    | some (s, rest) => (lines? rest).map (s.toList ++ ·)
termination_by cs.length
decreasing_by exact line?_length _hcs _h

/-- Line ends of two characters made one. -/
def joinLineEnds : List Char → List Char
  | '\r' :: '\n' :: rest => '\n' :: joinLineEnds rest
  | c :: rest => c :: joinLineEnds rest
  | [] => []

/-- The text without the mark of byte order at its start. -/
def dropMark : List Char → List Char
  | '\uFEFF' :: rest => rest
  | cs => cs

/-- Whether no key comes twice. -/
def hasDistinctKeys : List Setting → Bool
  | [] => true
  | s :: rest => !(rest.any fun r => r.1 == s.1) && hasDistinctKeys rest

/-- Reads a settings file. -/
def settings? (text : String) : Option (List Setting) :=
  (lines? (joinLineEnds (dropMark text.toList))).bind fun settings =>
    if hasDistinctKeys settings then some settings else none

/-! ## Writing -/

/-- A setting on a line of its own. -/
def Setting.render (s : Setting) : String :=
  match s.2 with
  | .text text => s!"{s.1} = \"{text}\"\n"
  | .truth true => s!"{s.1} = true\n"
  | .truth false => s!"{s.1} = false\n"

/-- Settings, a line each; their texts hold nothing that needs an escape. -/
def render (settings : List Setting) : String :=
  String.join (settings.map Setting.render)

end ForkCensus.Toml
