import Mathlib.Data.List.TakeWhile
import ForkCensus.Proofs.Json.RoundTrip

/-
# Tokens spelled out

`Token.spell` writes a token, and `Token.text` a list of them, with a
blank behind each.  The scanner finds them again (`Token.scan_text`),
numbers included: no digits are lost, since a number does not begin with
a zero (`Token.unsigned?_toDigits`).
-/

namespace ForkCensus.Json.Token

open Text (Glyph)
open Document (quote)

/-- A token as it is written. -/
def spell : Token → List Char
  | beginArray => ['[']
  | endArray => [']']
  | beginObject => ['{']
  | endObject => ['}']
  | comma => [',']
  | colon => [':']
  | null => ['n', 'u', 'l', 'l']
  | truth true => ['t', 'r', 'u', 'e']
  | truth false => ['f', 'a', 'l', 's', 'e']
  | number negative whole _ => (if negative then ['-'] else []) ++ Nat.toDigits 10 whole
  | string text => quote (text.getD "")

/-- Whether a token is all that its spelling says: a whole number, a string that is a text. -/
def isSpelled : Token → Bool
  | number _ _ isWhole => isWhole
  | string text => text.isSome
  | _ => true

/-- Tokens as they are written, a blank behind each. -/
def text (tokens : List Token) : List Char :=
  tokens.flatMap fun t => t.spell ++ [' ']

/-! ## Numbers -/

/-- The digits of a number that is not zero do not begin with a zero. -/
theorem toDigits_eq_cons {n : Nat} (hn : 0 < n) :
    ∃ d ds, Nat.toDigits 10 n = d :: ds ∧ d ≠ '0' := by
  induction n using Nat.strongRecOn with
  | ind n ih =>
      rw [Nat.toDigits_eq_if (by decide)]
      split
      · rename_i hlt
        have hdigit : ∀ m < 10, 0 < m → m.digitChar ≠ '0' := by decide
        exact ⟨_, _, rfl, hdigit n hlt hn⟩
      · rename_i hge
        obtain ⟨d, ds, hds, hd⟩ := ih (n / 10) (by omega) (by omega)
        exact ⟨d, ds ++ [(n % 10).digitChar], by rw [hds]; rfl, hd⟩

theorem all_isDigit_toDigits (n : Nat) : ∀ d ∈ Nat.toDigits 10 n, d.isDigit = true :=
  fun _ hd => Nat.isDigit_of_mem_toDigits (by decide) (by decide) hd

/-- **The digits of a number are read as the number.** -/
theorem unsigned?_toDigits (negative : Bool) (n : Nat) :
    unsigned? negative (Nat.toDigits 10 n) = some (.number negative n true) := by
  have hwhole : (Nat.toDigits 10 n).takeWhile Char.isDigit = Nat.toDigits 10 n :=
    List.takeWhile_eq_self_iff.mpr (all_isDigit_toDigits n)
  have hrest : (Nat.toDigits 10 n).dropWhile Char.isDigit = [] :=
    List.dropWhile_eq_nil_iff.mpr (all_isDigit_toDigits n)
  have hvalue : (Nat.toDigits 10 n).foldl (fun n d => 10 * n + (d.toNat - '0'.toNat)) 0 = n := by
    rw [← Nat.ofDigitChars_eq_foldl, Nat.ofDigitChars_ten_toDigits]
  simp only [unsigned?, hwhole, hrest, hvalue]
  rcases Nat.eq_zero_or_pos n with rfl | hn
  · rfl
  · obtain ⟨d, ds, hds, hd⟩ := toDigits_eq_cons hn
    rw [hds]
    refine if_pos ?_
    rw [show isFraction [] = true from rfl, Bool.and_true]
    split
    · contradiction
    · rename_i heq
      exact absurd (List.cons.inj heq).1 hd
    · rfl

theorem numericRun_digits {ds : List Char} (hds : ∀ d ∈ ds, d.isDigit = true)
    (rest : List Glyph) : numericRun (ds.map some ++ some ' ' :: rest) = ds := by
  induction ds with
  | nil => rfl
  | cons d ds ih =>
      obtain ⟨hd, hds⟩ := List.forall_mem_cons.mp hds
      rw [List.map_cons, List.cons_append, numericRun, ih hds, isNumeric, hd]
      rfl

/-- A numeric character is neither a blank nor a token by itself, and begins no string. -/
theorem isNumeric_scalar {c : Char} (h : isNumeric c = true) :
    isBlank c = false ∧ punctuation? c = none ∧ c ≠ '"' := by
  refine ⟨Bool.eq_false_iff.mpr fun hblank => ?_, ?_, ?_⟩
  · simp only [isBlank, Bool.or_eq_true, beq_iff_eq] at hblank
    rcases hblank with ((rfl | rfl) | rfl) | rfl <;> exact absurd h (by decide)
  · unfold punctuation?
    split <;> first | rfl | exact absurd h (by decide)
  · rintro rfl
    exact absurd h (by decide)

/-- Digits behind a first numeric character, up to a blank, are one token. -/
theorem scan_numeric {c : Char} {ds : List Char} {t : Token} (hc : isNumeric c = true)
    (hds : ∀ d ∈ ds, d.isDigit = true) (h : number? (c :: ds) = some t) (rest : List Glyph) :
    scan ((c :: ds).map some ++ some ' ' :: rest) = (scan rest).map (t :: ·) := by
  obtain ⟨hblank, hmark, hquote⟩ := isNumeric_scalar hc
  have hdrop : (ds.map some ++ some ' ' :: rest).drop ds.length = some ' ' :: rest := by
    rw [← List.length_map some, List.drop_left]
  rw [List.map_cons, List.cons_append, scan, if_neg (by rw [hblank]; decide), hmark]
  simp only [if_neg hquote, if_pos hc, numericRun_digits hds, h, hdrop]
  rw [scan_blank (by decide)]
  rfl

theorem scan_number (negative : Bool) (n : Nat) (rest : List Glyph) :
    scan ((number negative n true).spell.map some ++ some ' ' :: rest) =
      (scan rest).map (number negative n true :: ·) := by
  have hdigits := all_isDigit_toDigits n
  have hread := unsigned?_toDigits negative n
  cases negative with
  | true =>
      have hsigned : number? ('-' :: Nat.toDigits 10 n) = some (.number true n true) := hread
      exact scan_numeric (by decide) hdigits hsigned rest
  | false =>
      show scan ((Nat.toDigits 10 n).map some ++ some ' ' :: rest) = _
      cases hds : Nat.toDigits 10 n with
      | nil => exact absurd hds Nat.toDigits_ne_nil
      | cons d ds =>
          rw [hds] at hdigits hread
          obtain ⟨hd, hrest⟩ := List.forall_mem_cons.mp hdigits
          have hsign : d ≠ '-' := by
            rintro rfl
            exact absurd hd (by decide)
          have hnumeric : isNumeric d = true := by rw [isNumeric, hd]; rfl
          refine scan_numeric hnumeric hrest ?_ rest
          rw [number?]
          · exact hread
          · rintro _ ⟨rfl, -⟩
            exact hsign rfl

/-! ## Words and lists of tokens -/

theorem scan_word {c : Char} {cs after : List Glyph} {t : Token} (hblank : isBlank c = false)
    (hmark : punctuation? c = none) (hquote : c ≠ '"') (hnumeric : isNumeric c = false)
    (h : word? (some c :: cs) = some (t, after)) :
    scan (some c :: cs) = (scan after).map (t :: ·) := by
  rw [scan, if_neg (by rw [hblank]; decide), hmark]
  dsimp only
  rw [if_neg hquote, if_neg (by rw [hnumeric]; decide)]
  split
  · rename_i hnone
    rw [h] at hnone
    cases hnone
  · rename_i hsome
    rw [h] at hsome
    cases hsome
    rfl

/-- **A token is found again where it was spelled.** -/
theorem scan_spell {t : Token} (h : t.isSpelled = true) (rest : List Glyph) :
    scan (t.spell.map some ++ some ' ' :: rest) = (scan rest).map (t :: ·) := by
  have hmark : ∀ {c : Char} {t : Token}, isBlank c = false → punctuation? c = some t →
      scan (some c :: some ' ' :: rest) = (scan rest).map (t :: ·) := by
    intro c t hblank hmark
    rw [scan_punctuation hblank hmark, scan_blank (by decide)]
  have hword : ∀ {c : Char} {cs : List Glyph} {t : Token}, isBlank c = false →
      punctuation? c = none → c ≠ '"' → isNumeric c = false →
      word? (some c :: cs) = some (t, some ' ' :: rest) →
      scan (some c :: cs) = (scan rest).map (t :: ·) := by
    intro c cs t hblank hmark hquote hnumeric hword
    rw [scan_word hblank hmark hquote hnumeric hword, scan_blank (by decide)]
  cases t with
  | beginArray => exact hmark (by decide) rfl
  | endArray => exact hmark (by decide) rfl
  | beginObject => exact hmark (by decide) rfl
  | endObject => exact hmark (by decide) rfl
  | comma => exact hmark (by decide) rfl
  | colon => exact hmark (by decide) rfl
  | null => exact hword (by decide) (by decide) (by decide) (by decide) rfl
  | truth b =>
      cases b with
      | true => exact hword (by decide) (by decide) (by decide) (by decide) rfl
      | false => exact hword (by decide) (by decide) (by decide) (by decide) rfl
  | number negative whole isWhole =>
      obtain rfl : isWhole = true := h
      exact scan_number negative whole rest
  | string text =>
      obtain ⟨s, rfl⟩ := Option.isSome_iff_exists.mp h
      show scan ((quote s).map some ++ some ' ' :: rest) = _
      rw [scan_quote, scan_blank (by decide)]

/-- **Tokens are found again in their text.** -/
theorem scan_text {tokens : List Token} (h : tokens.all isSpelled = true) :
    scan ((text tokens).map some) = some tokens := by
  induction tokens with
  | nil =>
      show scan [] = some []
      rw [scan]
  | cons t tokens ih =>
      rw [List.all_cons, Bool.and_eq_true] at h
      have htext : (text (t :: tokens)).map some =
          t.spell.map some ++ some ' ' :: (text tokens).map some := by
        simp [text]
      rw [htext, scan_spell h.1, ih h.2]
      rfl

/-- So a value is read from the text of its tokens. -/
theorem ofBytes?_text {tokens : List Token} {v : Json} (h : tokens.all isSpelled = true)
    (hrun : (Reader.value []).run tokens = some (.complete v)) :
    ofBytes? (Text.utf8 (.ofList (text tokens))) = some v := by
  rw [ofBytes?_utf8, ofText?, String.toList_ofList, read?, scan_text h]
  show ((Reader.value []).run tokens).bind Reader.result? = _
  rw [hrun]
  rfl

end ForkCensus.Json.Token
