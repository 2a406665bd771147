import LeadScreen.Text.Blank
import LeadScreen.Text.Case

set_option autoImplicit false

/-! # Lower case

What lower-casing can make of a single character: the character itself, or one that is no ASCII
control, mark or digit (`lowerChar_eq_or_le`). Blanks are left alone. Of a text, lower-casing takes
nothing away.
-/

namespace LeadScreen

variable {c : Char}

/-- Every lower-case form in the table is a character, from the letter a on. -/
theorem target_of_mem_caseStretches {s : CaseStretch} (h : s ∈ caseStretches) :
    97 ≤ s.target ∧ ∀ k ≤ s.last - s.first, (s.target + k).isValidChar := by
  have hall : caseStretches.all (fun s => decide (97 ≤ s.target)
      && (decide (s.target + (s.last - s.first) < 0xD800)
        || (decide (0xDFFF < s.target)
          && decide (s.target + (s.last - s.first) < 0x110000)))) = true := by
    decide
  have hs := List.all_eq_true.mp hall s h
  simp only [Bool.and_eq_true, Bool.or_eq_true, decide_eq_true_eq] at hs
  refine ⟨hs.1, fun k hk => ?_⟩
  show s.target + k < 0xD800 ∨ (0xDFFF < s.target + k ∧ s.target + k < 0x110000)
  omega

theorem bounds_of_find? {s : CaseStretch} {n : Nat}
    (h : caseStretches.find? (·.covers n) = some s) : s.first ≤ n ∧ n ≤ s.last := by
  have hfound := List.find?_some h
  simp only [CaseStretch.covers, Bool.and_eq_true, decide_eq_true_eq] at hfound
  exact hfound.1

theorem toNat_ofNat_of_isValidChar {n : Nat} (h : n.isValidChar) : (Char.ofNat n).toNat = n := by
  rw [Char.ofNat, dif_pos h]
  rfl

/-- An ASCII character is lowered only if it is a capital letter. -/
theorem toLower_cases (c : Char) :
    c.toLower = c ∨ (65 ≤ c.toNat ∧ c.toNat ≤ 90 ∧ c.toLower.toNat = c.toNat + 32) := by
  unfold Char.toLower
  split
  · rename_i hupper
    have hlo : 65 ≤ c.toNat := hupper.1
    have hhi : c.toNat ≤ 90 := hupper.2
    refine Or.inr ⟨hlo, hhi, ?_⟩
    show (c.val + 32).toNat = c.toNat + 32
    rw [UInt32.toNat_add]
    exact Nat.mod_eq_of_lt (show c.toNat + 32 < 2 ^ 32 by omega)
  · exact Or.inl rfl

/-- **A lower-case form is the character itself, or comes no earlier than the letter a.** -/
theorem lowerChar_eq_or_le (c : Char) : lowerChar c = c ∨ 97 ≤ (lowerChar c).toNat := by
  unfold lowerChar
  split
  · rcases toLower_cases c with hself | ⟨hlo, -, hlower⟩
    · exact Or.inl hself
    · exact Or.inr (by omega)
  · split
    · rename_i s hs
      obtain ⟨htarget, hvalid⟩ := target_of_mem_caseStretches (List.mem_of_find?_eq_some hs)
      have hcovers := bounds_of_find? hs
      right
      rw [toNat_ofNat_of_isValidChar (hvalid _ (by omega))]
      omega
    · exact Or.inl rfl

/-- Of the characters beyond ASCII, only the Kelvin sign has its lower-case form in ASCII. -/
theorem le_toNat_lowerChar (hwide : 128 ≤ c.toNat) (hkelvin : c ≠ '\u212A') :
    128 ≤ (lowerChar c).toNat := by
  have hall : caseStretches.all (fun s => decide (128 ≤ s.target)
      || (decide (s.first = 8490) && decide (s.last = 8490))) = true := by
    decide
  rw [lowerChar, if_neg (by omega)]
  split
  · rename_i s hs
    have hmem := List.mem_of_find?_eq_some hs
    have hcovers := bounds_of_find? hs
    rw [toNat_ofNat_of_isValidChar ((target_of_mem_caseStretches hmem).2 _ (by omega))]
    have hs := List.all_eq_true.mp hall s hmem
    simp only [Bool.or_eq_true, Bool.and_eq_true, decide_eq_true_eq] at hs
    rcases hs with htarget | ⟨hfirst, hlast⟩
    · omega
    · -- the stretch of the Kelvin sign holds nothing else
      have hself : c.toNat = '\u212A'.toNat := by
        have hnumber : '\u212A'.toNat = 8490 := by decide
        omega
      exact absurd (Char.toNat_inj.mp hself) hkelvin
  · exact hwide

/-- A character before the letter a is the lower-case form of no other one. -/
theorem eq_of_lowerChar_eq {d : Char} (hd : d.toNat < 97) (h : lowerChar c = d) : c = d := by
  rcases lowerChar_eq_or_le c with hself | hle
  · exact hself.symm.trans h
  · rw [h] at hle
    omega

theorem toNat_or_mem_of_isBlank (h : isBlank c = true) : c.toNat ≤ 32 ∨ c ∈ wideBlanks := by
  simp only [isBlank, Bool.or_eq_true, Bool.and_eq_true, decide_eq_true_eq,
    List.contains_eq_mem] at h
  rcases h with (h | h) | h
  · exact Or.inl (by omega)
  · exact Or.inl (by omega)
  · exact Or.inr h

namespace Text

theorem lowerAt_ne_nil (afterCased : Bool) (c : Char) (rest : Text) :
    lowerAt afterCased c rest ≠ [] := by
  unfold lowerAt
  split
  · exact List.cons_ne_nil _ _
  · split <;> exact List.cons_ne_nil _ _

theorem lowerFrom_eq_nil_iff {afterCased : Bool} {t : Text} :
    lowerFrom afterCased t = [] ↔ t = [] := by
  cases t with
  | nil => exact iff_of_true rfl rfl
  | cons c rest =>
      refine iff_of_false ?_ (List.cons_ne_nil c rest)
      rw [lowerFrom]
      exact List.append_ne_nil_of_left_ne_nil (lowerAt_ne_nil _ _ _) _

theorem lower_eq_nil_iff {t : Text} : lower t = [] ↔ t = [] :=
  lowerFrom_eq_nil_iff

end Text

end LeadScreen
