import ForkCensus.Text.Ascii

/-
# Letters and their case

Changing the case touches the letters of ASCII and nothing else
(`toLower_cases`), so a character that is no small letter is found in a
folded text only where it stood before.  Texts are the same up to case
exactly if their characters are, one by one (`Ascii.same_iff`).
-/

namespace ForkCensus.Text

/-- What holds of the characters of a given text, by going through them. -/
theorem forall_mem_of_all {P : Char → Prop} [DecidablePred P] {cs : List Char}
    (h : cs.all (fun c => decide (P c)) = true) : ∀ c ∈ cs, P c := fun c hc =>
  of_decide_eq_true (List.all_eq_true.mp h c hc)

/-- What holds of the 128 characters of ASCII, by going through them. -/
theorem forall_ascii {c : Char} (hc : isAscii c = true) {P : Char → Prop}
    (h : ∀ n < 0x80, P (Char.ofNat n)) : P c := by
  rw [← Char.ofNat_toNat c]
  exact h c.toNat (of_decide_eq_true hc)

/-- What `p` tells apart is different. -/
theorem ne_of_apply {p : Char → Bool} {c d : Char} (hc : p c = false) (hd : p d = true) :
    c ≠ d := by
  rintro rfl
  rw [hc] at hd
  cases hd

theorem isAscii_of_isAlphanum {c : Char} (h : c.isAlphanum = true) : isAscii c = true := by
  have hupper : c.isUpper = true → c.val.toNat ≤ 90 := fun h =>
    UInt32.le_iff_toNat_le.mp (of_decide_eq_true h).2
  have hlower : c.isLower = true → c.val.toNat ≤ 122 := fun h =>
    UInt32.le_iff_toNat_le.mp (of_decide_eq_true (Bool.and_eq_true_iff.mp h).2)
  have hdigit : c.isDigit = true → c.val.toNat ≤ 57 := fun h =>
    UInt32.le_iff_toNat_le.mp (of_decide_eq_true (Bool.and_eq_true_iff.mp h).2)
  have hval : c.val.toNat = c.toNat := rfl
  rw [isAscii, decide_eq_true_eq]
  rcases Bool.or_eq_true_iff.mp h with h | h
  · rcases Bool.or_eq_true_iff.mp h with h | h
    · have := hupper h
      omega
    · have := hlower h
      omega
  · have := hdigit h
    omega

/-- A character is its own small form, or that is a small letter. -/
theorem toLower_cases (c : Char) : c.toLower = c ∨
    isAscii c = true ∧ c.toLower.isLower = true ∧ c.toLower.toLower = c.toLower := by
  cases hc : isAscii c with
  | true =>
      exact forall_ascii hc (P := fun c => c.toLower = c ∨
        true = true ∧ c.toLower.isLower = true ∧ c.toLower.toLower = c.toLower) (by decide)
  | false =>
      left
      have hlarge : 128 ≤ c.val.toNat := Nat.le_of_not_lt (of_decide_eq_false hc)
      unfold Char.toLower
      refine dif_neg fun hupper => ?_
      have hhigh : c.val.toNat ≤ 90 := UInt32.le_iff_toNat_le.mp hupper.2
      omega

theorem toLower_toLower (c : Char) : c.toLower.toLower = c.toLower := by
  rcases toLower_cases c with h | ⟨-, -, h⟩
  · rw [h, h]
  · exact h

/-- What is no small letter is the small form of nothing but itself. -/
theorem toLower_eq_iff {c d : Char} (hd : d.isLower = false) (hd' : d.toLower = d) :
    c.toLower = d ↔ c = d := by
  constructor
  · intro h
    rcases toLower_cases c with hc | ⟨-, hlower, -⟩
    · rw [← hc, h]
    · rw [h, hd] at hlower
      cases hlower
  · rintro rfl
    exact hd'

theorem isAscii_toLower (c : Char) : isAscii c.toLower = isAscii c := by
  rcases toLower_cases c with h | ⟨hascii, hlower, -⟩
  · rw [h]
  · rw [hascii]
    have halpha : c.toLower.isAlpha = true := Bool.or_eq_true_iff.mpr (.inr hlower)
    exact isAscii_of_isAlphanum (Bool.or_eq_true_iff.mpr (.inl halpha))

theorem mem_of_mem_map_toLower {cs : List Char} {d : Char} (hd : d.isLower = false)
    (hd' : d.toLower = d) (h : d ∈ cs.map Char.toLower) : d ∈ cs := by
  obtain ⟨c, hc, hcd⟩ := List.mem_map.mp h
  rwa [(toLower_eq_iff hd hd').mp hcd] at hc

/-! ## Texts up to case -/

theorem Ascii.same_iff {s t : String} :
    same s t = true ↔ s.toList.map Char.toLower = t.toList.map Char.toLower := by
  rw [same, beq_iff_eq, ← String.toList_inj, fold, fold, String.toList_map, String.toList_map]

theorem Ascii.same_append_left (p s t : String) : same (p ++ s) (p ++ t) = same s t := by
  rw [Bool.eq_iff_iff, same_iff, same_iff, String.toList_append, String.toList_append,
    List.map_append, List.map_append, List.append_cancel_left_eq]

end ForkCensus.Text
