import Mathlib.Data.List.TakeWhile
import ForkCensus.Text.Ascii

/-
# Cutting text up

A text is cut at separators (`pieces`), at the first of them (`cut`), and
at its ends (`strip`).  The lemmas here say what comes of a text whose
parts are known, and, the other way round, what the parts of any text are
like.
-/

namespace ForkCensus.Text

/-! ## Pieces -/

theorem pieces_single {p : Char → Bool} {a : List Char} (ha : ∀ c ∈ a, p c = false) :
    pieces p a = [a] := by
  induction a with
  | nil => rfl
  | cons c a ih =>
      obtain ⟨hc, ha⟩ := List.forall_mem_cons.mp ha
      rw [pieces, if_neg (by rw [hc]; decide), ih ha]

theorem pieces_append {p : Char → Bool} {a : List Char} (ha : ∀ c ∈ a, p c = false) {d : Char}
    (hd : p d = true) (rest : List Char) : pieces p (a ++ d :: rest) = a :: pieces p rest := by
  induction a with
  | nil => rw [List.nil_append, pieces, if_pos hd]
  | cons c a ih =>
      obtain ⟨hc, ha⟩ := List.forall_mem_cons.mp ha
      rw [List.cons_append, pieces, if_neg (by rw [hc]; decide), ih ha]

theorem pieces_map (p : Char → Bool) (f : Char → Char) (cs : List Char) :
    pieces p (cs.map f) = (pieces (fun c => p (f c)) cs).map (List.map f) := by
  induction cs with
  | nil => rfl
  | cons d cs ih =>
      rw [List.map_cons, pieces, pieces, ih]
      split
      · rfl
      · cases pieces (fun c => p (f c)) cs <;> rfl

/-- No separator is left in a piece. -/
theorem not_sep_of_mem_pieces {p : Char → Bool} {cs piece : List Char}
    (h : piece ∈ pieces p cs) : ∀ c ∈ piece, p c = false := by
  induction cs generalizing piece with
  | nil =>
      rw [pieces, List.mem_singleton] at h
      rw [h]
      nofun
  | cons d cs ih =>
      rw [pieces] at h
      split at h
      · rcases List.mem_cons.mp h with rfl | h
        · nofun
        · exact ih h
      · rename_i hd
        cases hpieces : pieces p cs with
        | nil =>
            rw [hpieces, List.mem_singleton] at h
            rw [h]
            simpa using hd
        | cons first more =>
            rw [hpieces] at h ih
            rcases List.mem_cons.mp h with rfl | h
            · exact List.forall_mem_cons.mpr ⟨by simpa using hd, ih List.mem_cons_self⟩
            · exact ih (List.mem_cons_of_mem _ h)

/-! ## The first separator -/

/-- What stands before the first `c`, or everything. -/
theorem takeWhile_of_cut (c : Char) (cs : List Char) :
    ((cut c cs).map Prod.fst).getD cs = cs.takeWhile (· != c) := by
  induction cs with
  | nil => rfl
  | cons d cs ih =>
      rw [cut]
      split
      · rename_i hd
        simp [hd]
      · rename_i hd
        rw [List.takeWhile_cons_of_pos (by simpa using hd), ← ih]
        cases cut c cs <;> rfl

/-- A text without `c` before it is cut there. -/
theorem cut_append {c : Char} {a : List Char} (ha : c ∉ a) (rest : List Char) :
    cut c (a ++ c :: rest) = some (a, rest) := by
  induction a with
  | nil => simp [cut]
  | cons d a ih =>
      obtain ⟨hd, ha⟩ := not_or.mp (List.mem_cons.not.mp ha)
      rw [List.cons_append, cut, if_neg (Ne.symm hd), ih ha]
      rfl

theorem cut_eq_none {c : Char} {cs : List Char} (h : c ∉ cs) : cut c cs = none := by
  induction cs with
  | nil => rfl
  | cons d cs ih =>
      obtain ⟨hd, h⟩ := not_or.mp (List.mem_cons.not.mp h)
      rw [cut, if_neg (Ne.symm hd), ih h]
      rfl

/-! ## A given end -/

theorem isPrefixOf?_eq_some_iff {start cs rest : List Char} :
    start.isPrefixOf? cs = some rest ↔ cs = start ++ rest := by
  induction start generalizing cs with
  | nil => exact Option.some_inj
  | cons c start ih =>
      cases cs with
      | nil => exact ⟨nofun, nofun⟩
      | cons d cs =>
          have hstep : (c :: start).isPrefixOf? (d :: cs) =
              if c == d then start.isPrefixOf? cs else none := rfl
          rw [hstep, List.cons_append, List.cons.injEq]
          split
          · rename_i heq
            rw [ih, beq_iff_eq.mp heq]
            exact (and_iff_right rfl).symm
          · rename_i hne
            exact ⟨nofun, fun h => absurd (beq_iff_eq.mpr h.1.symm) hne⟩

theorem dropTail?_eq_some_iff {tail cs front : List Char} :
    dropTail? tail cs = some front ↔ cs = front ++ tail := by
  rw [dropTail?, Option.map_eq_some_iff]
  constructor
  · rintro ⟨rest, hrest, rfl⟩
    rw [← List.reverse_inj, isPrefixOf?_eq_some_iff.mp hrest, List.reverse_append,
      List.reverse_reverse]
  · rintro rfl
    refine ⟨front.reverse, ?_, List.reverse_reverse front⟩
    rw [isPrefixOf?_eq_some_iff, List.reverse_append]

/-! ## The ends -/

section

variable {α : Type} {p : α → Bool}

/-- What is stripped stands at the ends. -/
theorem exists_ends (p : α → Bool) (l : List α) : ∃ a b : List α,
    (∀ x ∈ a, p x = true) ∧ (∀ x ∈ b, p x = true) ∧
      l = a ++ ((l.dropWhile p).reverse.dropWhile p).reverse ++ b := by
  refine ⟨l.takeWhile p, ((l.dropWhile p).reverse.takeWhile p).reverse,
    fun x hx => List.mem_takeWhile_imp hx, fun x hx => ?_, ?_⟩
  · exact List.mem_takeWhile_imp (List.mem_reverse.mp hx)
  · rw [List.append_assoc, ← List.reverse_append, List.takeWhile_append_dropWhile,
      List.reverse_reverse, List.takeWhile_append_dropWhile]

theorem dropWhile_head {l : List α} (h : ∀ x ∈ l.head?, p x = false) : l.dropWhile p = l := by
  cases l with
  | nil => rfl
  | cons x l => rw [List.dropWhile_cons_of_neg (by rw [h x rfl]; decide)]

/-- What begins and ends with something else is left when the ends are stripped. -/
theorem strip_ends {a l b : List α} (ha : ∀ x ∈ a, p x = true) (hb : ∀ x ∈ b, p x = true)
    (hfirst : ∀ x ∈ l.head?, p x = false) (hlast : ∀ x ∈ l.getLast?, p x = false) :
    (((a ++ l ++ b).dropWhile p).reverse.dropWhile p).reverse = l := by
  have hb' : ∀ x ∈ b.reverse, p x = true := fun x hx => hb x (List.mem_reverse.mp hx)
  rw [List.append_assoc, List.dropWhile_append_of_pos ha]
  cases l with
  | nil =>
      have hnone : b.dropWhile p = [] := List.dropWhile_eq_nil_iff.mpr hb
      rw [List.nil_append, hnone]
      rfl
  | cons x l =>
      have hfirst' : ∀ y ∈ (x :: l ++ b).head?, p y = false := hfirst
      rw [dropWhile_head hfirst', List.reverse_append, List.dropWhile_append_of_pos hb',
        dropWhile_head (by rwa [List.head?_reverse]), List.reverse_reverse]

/-- What does not end with something that is stripped is left when the end is; of what stands behind
it, the end may be lost. -/
theorem dropWhile_reverse_front {front : List α} (hlast : ∀ x ∈ front.getLast?, p x = false)
    (tail : List α) :
    ∃ kept, ((front ++ tail).reverse.dropWhile p).reverse = front ++ kept ∧ kept <+: tail := by
  have hfront : front.reverse.dropWhile p = front.reverse :=
    dropWhile_head (by rwa [List.head?_reverse])
  have hdrop : (tail.reverse ++ front.reverse).dropWhile p =
      tail.reverse.dropWhile p ++ front.reverse := by
    rw [List.dropWhile_append]
    split
    · rename_i hnone
      rw [hfront, List.isEmpty_iff.mp hnone, List.nil_append]
    · rfl
  refine ⟨(tail.reverse.dropWhile p).reverse, ?_, ?_⟩
  · rw [List.reverse_append, hdrop, List.reverse_append, List.reverse_reverse]
  · rw [← List.reverse_suffix, List.reverse_reverse]
    exact List.dropWhile_suffix p

/-- What neither begins nor ends with something that is stripped keeps its place at the front. -/
theorem strip_front {front : List α} (hne : front ≠ []) (hfirst : ∀ x ∈ front.head?, p x = false)
    (hlast : ∀ x ∈ front.getLast?, p x = false) (tail : List α) :
    ∃ kept, (((front ++ tail).dropWhile p).reverse.dropWhile p).reverse = front ++ kept ∧
      kept <+: tail := by
  have hkeep : (front ++ tail).dropWhile p = front ++ tail := by
    obtain ⟨x, front, rfl⟩ := List.exists_cons_of_ne_nil hne
    rw [List.cons_append, List.dropWhile_cons_of_neg (by rw [hfirst x rfl]; decide)]
  rw [hkeep]
  exact dropWhile_reverse_front hlast tail

/-- What holds nothing that is stripped keeps its place at the front; of what stands behind it, the
end may be lost. -/
theorem strip_solid {a front b : List α} (ha : ∀ x ∈ a, p x = true)
    (hfront : ∀ x ∈ front, p x = false) (hne : front ≠ []) (hb : ∀ x ∈ b, p x = true)
    (tail : List α) :
    ∃ kept, (((a ++ (front ++ tail) ++ b).dropWhile p).reverse.dropWhile p).reverse =
      front ++ kept ∧ kept <+: tail := by
  have hb' : ∀ x ∈ b.reverse, p x = true := fun x hx => hb x (List.mem_reverse.mp hx)
  have hfirst : (front ++ tail ++ b).dropWhile p = front ++ tail ++ b := by
    obtain ⟨x, front, rfl⟩ := List.exists_cons_of_ne_nil hne
    rw [List.append_assoc, List.cons_append, List.dropWhile_cons_of_neg]
    simp [hfront x List.mem_cons_self]
  rw [List.append_assoc, List.dropWhile_append_of_pos ha, hfirst, List.reverse_append,
    List.dropWhile_append_of_pos hb']
  exact dropWhile_reverse_front (fun x hx => hfront x (List.mem_of_mem_getLast? hx)) tail

end

end ForkCensus.Text
