import ForkCensus.Text.Ascii

/-
# Strings in settings files

The four forms of a string in TOML: between double quotes, where a
backslash begins an escape; between single quotes, where nothing does;
and both with the quotes written three times, which may go over several
lines.  Line ends are single line feeds here.

Every reader gives back what comes after the string, which is shorter
than what was there.
-/

namespace ForkCensus.Toml

/-- Whether a character may stand in a string or comment as it is. -/
def isPrintable (c : Char) : Bool :=
  c == '\t' || (0x20 ≤ c.toNat && c.toNat != 0x7F)

/-- A blank within a line. -/
def isBlank (c : Char) : Bool :=
  c == ' ' || c == '\t'

/-- The character of a number of hexadecimal digits. -/
def charOfHex? (digits : List Char) : Option Char :=
  (Text.hexNumber? digits).bind fun n => if n.isValidChar then some (Char.ofNat n) else none

/-- Reads an escape, after its backslash. -/
def escape? : List Char → Option (Char × List Char)
  | 'b' :: rest => some ('\x08', rest)
  | 't' :: rest => some ('\t', rest)
  | 'n' :: rest => some ('\n', rest)
  | 'f' :: rest => some ('\x0c', rest)
  | 'r' :: rest => some ('\r', rest)
  | '"' :: rest => some ('"', rest)
  | '\\' :: rest => some ('\\', rest)
  | 'u' :: rest =>
    if 4 ≤ rest.length then (charOfHex? (rest.take 4)).map fun c => (c, rest.drop 4) else none
  | 'U' :: rest =>
    if 8 ≤ rest.length then (charOfHex? (rest.take 8)).map fun c => (c, rest.drop 8) else none
  | _ => none

theorem escape?_length {cs rest : List Char} {c : Char} (h : escape? cs = some (c, rest)) :
    rest.length < cs.length := by
  unfold escape? at h
  split at h <;>
    simp only [Option.ite_none_right_eq_some, Option.map_eq_some_iff, Option.some.injEq,
      Prod.mk.injEq, reduceCtorEq, List.length_cons] at h ⊢ <;> grind

/-- Reads a string up to its double quote. -/
def basic? : List Char → Option (List Char × List Char)
  | [] => none
  | c :: rest =>
    if c = '"' then some ([], rest)
    else if c = '\\' then
      match _h : escape? rest with
      | some (d, after) => (basic? after).map fun r => (d :: r.1, r.2)
      | none => none
    else if isPrintable c then (basic? rest).map fun r => (c :: r.1, r.2)
    else none
termination_by cs => cs.length
decreasing_by
  · exact Nat.lt_succ_of_lt (escape?_length _h)
  · simp

theorem basic?_length {cs s rest : List Char} (h : basic? cs = some (s, rest)) :
    rest.length < cs.length := by
  fun_induction basic? cs generalizing s <;>
    simp only [Option.map_eq_some_iff, Option.some.injEq, Prod.mk.injEq, reduceCtorEq,
      List.length_cons] at h ⊢ <;> grind [→ escape?_length]

/-- Reads a string up to its single quote. -/
def literal? : List Char → Option (List Char × List Char)
  | [] => none
  | c :: rest =>
    if c = '\'' then some ([], rest)
    else if isPrintable c then (literal? rest).map fun r => (c :: r.1, r.2)
    else none

theorem literal?_length {cs s rest : List Char} (h : literal? cs = some (s, rest)) :
    rest.length < cs.length := by
  fun_induction literal? cs generalizing s <;>
    simp only [Option.map_eq_some_iff, Option.some.injEq, Prod.mk.injEq, reduceCtorEq,
      List.length_cons] at h ⊢ <;> grind

/-- How many of the character follow one that was read, but four at most: the end of a string is
three, and two may stand before it. -/
def quoteRun (quote : Char) (cs : List Char) : Nat :=
  ((cs.take 4).takeWhile (· == quote)).length

/-- After a backslash at the end of a line: the text from the next line that is not blank. -/
def continueLine? (cs : List Char) : Option (List Char) :=
  match cs.dropWhile isBlank with
  | '\n' :: rest => some (rest.dropWhile fun c => isBlank c || c == '\n')
  | _ => none

theorem continueLine?_length {cs rest : List Char} (h : continueLine? cs = some rest) :
    rest.length ≤ cs.length := by
  unfold continueLine? at h
  split at h
  · rename_i after h'
    have h1 := (List.dropWhile_sublist isBlank (l := cs)).length_le
    have h2 := (List.dropWhile_sublist (fun c => isBlank c || c == '\n') (l := after)).length_le
    rw [h'] at h1
    simp only [List.length_cons] at h1
    simp only [Option.some.injEq] at h
    rw [← h]
    omega
  · exact absurd h (by simp)

/-- Reads a string over several lines up to three double quotes. -/
def longBasic? : List Char → Option (List Char × List Char)
  | [] => none
  | c :: rest =>
    if c = '"' then
      let n := quoteRun '"' rest
      if 2 ≤ n then some (List.replicate (n - 2) '"', rest.drop n)
      else (longBasic? rest).map fun r => (c :: r.1, r.2)
    else if c = '\\' then
      match _h : continueLine? rest with
      | some after => longBasic? after
      | none =>
        match _h : escape? rest with
        | some (d, after) => (longBasic? after).map fun r => (d :: r.1, r.2)
        | none => none
    else if isPrintable c || c == '\n' then (longBasic? rest).map fun r => (c :: r.1, r.2)
    else none
termination_by cs => cs.length
decreasing_by
  · simp
  · exact Nat.lt_succ_of_le (continueLine?_length _h)
  · exact Nat.lt_succ_of_lt (escape?_length _h)
  · simp

theorem longBasic?_length {cs s rest : List Char} (h : longBasic? cs = some (s, rest)) :
    rest.length < cs.length := by
  fun_induction longBasic? cs generalizing s <;>
    simp only [Option.map_eq_some_iff, Option.some.injEq, Prod.mk.injEq, reduceCtorEq,
      List.length_cons] at h ⊢ <;> grind [→ escape?_length, → continueLine?_length]

/-- Reads a string over several lines up to three single quotes. -/
def longLiteral? : List Char → Option (List Char × List Char)
  | [] => none
  | c :: rest =>
    if c = '\'' then
      let n := quoteRun '\'' rest
      if 2 ≤ n then some (List.replicate (n - 2) '\'', rest.drop n)
      else (longLiteral? rest).map fun r => (c :: r.1, r.2)
    else if isPrintable c || c == '\n' then (longLiteral? rest).map fun r => (c :: r.1, r.2)
    else none

theorem longLiteral?_length {cs s rest : List Char} (h : longLiteral? cs = some (s, rest)) :
    rest.length < cs.length := by
  fun_induction longLiteral? cs generalizing s <;>
    simp only [Option.map_eq_some_iff, Option.some.injEq, Prod.mk.injEq, reduceCtorEq,
      List.length_cons] at h ⊢ <;> grind

/-- A line end right after the opening quotes is no part of a string. -/
def dropLineEnd : List Char → List Char
  | '\n' :: rest => rest
  | cs => cs

theorem dropLineEnd_length (cs : List Char) : (dropLineEnd cs).length ≤ cs.length := by
  unfold dropLineEnd
  split <;> simp

/-- Reads a string in any of its forms. -/
def string? : List Char → Option (List Char × List Char)
  | '"' :: '"' :: '"' :: rest => longBasic? (dropLineEnd rest)
  | '\'' :: '\'' :: '\'' :: rest => longLiteral? (dropLineEnd rest)
  | '"' :: rest => basic? rest
  | '\'' :: rest => literal? rest
  | _ => none

theorem string?_length {cs s rest : List Char} (h : string? cs = some (s, rest)) :
    rest.length < cs.length := by
  unfold string? at h
  split at h
  · have := longBasic?_length h
    simp only [List.length_cons]
    grind [dropLineEnd_length]
  · have := longLiteral?_length h
    simp only [List.length_cons]
    grind [dropLineEnd_length]
  · have := basic?_length h
    simp only [List.length_cons]
    omega
  · have := literal?_length h
    simp only [List.length_cons]
    omega
  · exact absurd h (by simp)

end ForkCensus.Toml
