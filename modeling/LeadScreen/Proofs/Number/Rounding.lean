import LeadScreen.Number.Binary64
import Mathlib.Algebra.Order.Field.Power
import Mathlib.Algebra.Order.Field.Rat
import Mathlib.Tactic.FieldSimp
import Mathlib.Tactic.Linarith
import Mathlib.Tactic.Positivity
import Mathlib.Tactic.Ring

set_option autoImplicit false

/-! # Rounded quotients

A quotient of natural numbers is scaled to a mantissa of 53 bits, and the mantissa is rounded to
the nearest natural number. The number that comes of it is `rounded`, a rational number. Rounding
keeps the order of quotients with one denominator (`rounded_mono`), though they may have different
exponents: a number of the lesser exponent ends where those of the greater one begin.

What a comparison with a share needs to know follows: a greater share is below nothing that a
lesser one is not below (`lt_ofRatio_of_le`), all of it is one (`lt_ofRatio_self`), and less than
all is less than one as long as there are fewer than 2^54 parts (`ofRatio_lt_one`). Of more parts,
all but one are rounded to one (`ofRatio_pred_lt_one_iff`).
-/

namespace LeadScreen.Binary64

variable {num den more : Nat} {e : Int}

/-! ## The nearest natural number -/

/-- The nearest natural number is off by one half at most. -/
theorem nearest_bounds (num : Nat) (hden : 0 < den) :
    2 * (den * nearest num den) ≤ 2 * num + den ∧ 2 * num ≤ 2 * (den * nearest num den) + den := by
  have hsplit : den * (num / den) + num % den = num := Nat.div_add_mod num den
  have hrest : num % den < den := Nat.mod_lt num hden
  unfold nearest
  dsimp only
  split
  · omega
  · split
    · rw [Nat.mul_add]
      omega
    · split
      · omega
      · rw [Nat.mul_add]
        omega

theorem nearest_mono (h : num ≤ more) (hden : 0 < den) : nearest num den ≤ nearest more den := by
  rcases Nat.eq_or_lt_of_le h with rfl | hlt
  · exact Nat.le_refl _
  · have hlow := (nearest_bounds num hden).1
    have hhigh := (nearest_bounds more hden).2
    -- a nearest number greater by one would be two halves away from the other
    by_contra hover
    have hstep : den * (nearest more den + 1) ≤ den * nearest num den :=
      Nat.mul_le_mul_left den (Nat.lt_of_not_le hover)
    rw [Nat.mul_add] at hstep
    omega

theorem nearest_mul (k : Nat) (hden : 0 < den) : nearest (k * den) den = k := by
  rw [nearest, Nat.mul_mod_left, Nat.mul_div_cancel k hden]
  exact if_pos (by omega)

/-! ## Scaling -/

theorem scaled_spec (num : Nat) (e : Int) (hden : 0 < den) :
    0 < (scaled num den e).2
      ∧ ((scaled num den e).1 : ℚ) / (scaled num den e).2 = num / den / 2 ^ e := by
  have hden' : (den : ℚ) ≠ 0 := by exact_mod_cast hden.ne'
  unfold scaled
  split
  · rename_i he
    obtain ⟨k, rfl⟩ := Int.eq_ofNat_of_zero_le he
    have hk : (k : Int).toNat = k := rfl
    refine ⟨Nat.mul_pos hden (Nat.two_pow_pos _), ?_⟩
    simp only [hk, Nat.pow_eq, Nat.cast_mul, Nat.cast_pow, Nat.cast_ofNat, zpow_natCast]
    field_simp
  · rename_i he
    obtain ⟨k, rfl⟩ : ∃ k : Nat, e = -(k : Int) := ⟨(-e).toNat, by omega⟩
    have hk : (- -(k : Int)).toNat = k := by omega
    refine ⟨hden, ?_⟩
    simp only [hk, Nat.pow_eq, Nat.cast_mul, Nat.cast_pow, Nat.cast_ofNat, zpow_neg, zpow_natCast]
    field_simp

/-- The scaled quotient is below a number exactly if the quotient is below it at that exponent. -/
theorem scaled_lt_iff (hden : 0 < den) (k : Nat) :
    (scaled num den e).1 < (scaled num den e).2 * k ↔ (num : ℚ) / den < k * 2 ^ e := by
  obtain ⟨hpos, hscaled⟩ := scaled_spec num e hden
  have hpos' : (0 : ℚ) < (scaled num den e).2 := by exact_mod_cast hpos
  have hunit : (0 : ℚ) < 2 ^ e := by positivity
  rw [← div_lt_iff₀ hunit, ← hscaled, div_lt_iff₀ hpos', mul_comm (k : ℚ)]
  exact_mod_cast Iff.rfl

/-- At one exponent, quotients with one denominator keep one, and their numerators keep order. -/
theorem scaled_mono (h : num ≤ more) :
    (scaled num den e).1 ≤ (scaled more den e).1
      ∧ (scaled num den e).2 = (scaled more den e).2 := by
  unfold scaled
  split
  · exact ⟨h, rfl⟩
  · exact ⟨Nat.mul_le_mul_right _ h, rfl⟩

/-! ## Exponents -/

/-- A natural number lies between a power of two and the next one. -/
theorem log2_bounds {n : Nat} (hn : n ≠ 0) :
    (2 : ℚ) ^ (Nat.log2 n : ℤ) ≤ n ∧ (n : ℚ) < 2 * 2 ^ (Nat.log2 n : ℤ) := by
  rw [zpow_natCast, ← pow_succ']
  exact ⟨by exact_mod_cast Nat.log2_self_le hn, by exact_mod_cast Nat.lt_log2_self⟩

theorem two_zpow_eq (e : Int) : (2 : ℚ) ^ e = 2 * 2 ^ (e - 1) := by
  have hsum : e = 1 + (e - 1) := by omega
  conv_lhs => rw [hsum, zpow_one_add₀ two_ne_zero]

/-- The exponent from which the search starts is right, or too great by one. -/
theorem guess_bounds (hnum : num ≠ 0) (hden : 0 < den) {guess : Int}
    (hguess : guess = (Nat.log2 num : Int) - (Nat.log2 den : Int) - 52) :
    (2 : ℚ) ^ 52 * 2 ^ (guess - 1) ≤ num / den ∧ (num : ℚ) / den < 2 ^ 53 * 2 ^ guess := by
  obtain ⟨hnumlo, hnumhi⟩ := log2_bounds hnum
  obtain ⟨hdenlo, hdenhi⟩ := log2_bounds hden.ne'
  have hden' : (0 : ℚ) < den := by exact_mod_cast hden
  have hpow : (2 : ℚ) ^ (Nat.log2 num : ℤ) = 2 ^ 52 * 2 ^ guess * 2 ^ (Nat.log2 den : ℤ) := by
    have hsum : (Nat.log2 num : ℤ) = ((52 : ℕ) : ℤ) + guess + (Nat.log2 den : ℤ) := by omega
    rw [hsum, zpow_add₀ two_ne_zero, zpow_add₀ two_ne_zero, zpow_natCast]
  have hpos : (0 : ℚ) < 2 ^ guess := by positivity
  rw [le_div_iff₀ hden', div_lt_iff₀ hden']
  constructor
  · calc (2 : ℚ) ^ 52 * 2 ^ (guess - 1) * den
        ≤ 2 ^ 52 * 2 ^ (guess - 1) * (2 * 2 ^ (Nat.log2 den : ℤ)) := by gcongr
      _ = 2 ^ (Nat.log2 num : ℤ) := by rw [hpow, two_zpow_eq guess]; ring
      _ ≤ num := hnumlo
  · calc (num : ℚ) < 2 * 2 ^ (Nat.log2 num : ℤ) := hnumhi
      _ = 2 ^ 53 * 2 ^ guess * 2 ^ (Nat.log2 den : ℤ) := by rw [hpow]; ring
      _ ≤ 2 ^ 53 * 2 ^ guess * den := by gcongr

/-- An exponent at which the mantissa of a quotient has 53 bits is the one that is taken, unless
the least one is above it. -/
theorem exists_exponentFor_eq (hnum : num ≠ 0) (hden : 0 < den) :
    ∃ own : Int, exponentFor num den = max leastExponent own
      ∧ (2 : ℚ) ^ 52 * 2 ^ own ≤ num / den ∧ (num : ℚ) / den < 2 ^ 53 * 2 ^ own := by
  obtain ⟨guess, hguess⟩ :
      ∃ guess : Int, guess = (Nat.log2 num : Int) - (Nat.log2 den : Int) - 52 := ⟨_, rfl⟩
  obtain ⟨hlow, hhigh⟩ := guess_bounds hnum hden hguess
  have hsmall : (scaled num den guess).1 < (scaled num den guess).2 * Nat.pow 2 52
      ↔ (num : ℚ) / den < 2 ^ 52 * 2 ^ guess := by
    rw [scaled_lt_iff hden]
    push_cast [Nat.pow_eq]
    exact Iff.rfl
  have hown : exponentFor num den = max leastExponent
      (if (scaled num den guess).1 < (scaled num den guess).2 * Nat.pow 2 52 then guess - 1
        else guess) := by
    rw [hguess]
    rfl
  by_cases hlt : (scaled num den guess).1 < (scaled num den guess).2 * Nat.pow 2 52
  · rw [if_pos hlt] at hown
    refine ⟨guess - 1, hown, hlow, ?_⟩
    calc (num : ℚ) / den < 2 ^ 52 * 2 ^ guess := hsmall.mp hlt
      _ = 2 ^ 53 * 2 ^ (guess - 1) := by rw [two_zpow_eq guess]; ring
  · rw [if_neg hlt] at hown
    exact ⟨guess, hown, not_lt.mp (mt hsmall.mpr hlt), hhigh⟩

theorem leastExponent_le (num den : Nat) : leastExponent ≤ exponentFor num den :=
  le_max_left _ _

/-- A quotient is below what 53 bits can express at its exponent. -/
theorem quotient_lt (hnum : num ≠ 0) (hden : 0 < den) :
    (num : ℚ) / den < 2 ^ 53 * 2 ^ exponentFor num den := by
  obtain ⟨own, hown, -, hhigh⟩ := exists_exponentFor_eq hnum hden
  have hpow : (2 : ℚ) ^ own ≤ 2 ^ exponentFor num den := by
    refine zpow_le_zpow_right₀ one_le_two ?_
    rw [hown]
    exact le_max_right _ _
  calc (num : ℚ) / den < 2 ^ 53 * 2 ^ own := hhigh
    _ ≤ 2 ^ 53 * 2 ^ exponentFor num den := by gcongr

/-- A quotient needs all 53 bits, unless its exponent is the least one. -/
theorem le_quotient (hnum : num ≠ 0) (hden : 0 < den) (h : leastExponent < exponentFor num den) :
    (2 : ℚ) ^ 52 * 2 ^ exponentFor num den ≤ num / den := by
  obtain ⟨own, hown, hlow, -⟩ := exists_exponentFor_eq hnum hden
  have hsame : exponentFor num den = own := by omega
  rwa [hsame]

theorem exponentFor_mono (h : num ≤ more) (hnum : num ≠ 0) (hden : 0 < den) :
    exponentFor num den ≤ exponentFor more den := by
  by_contra hover
  have hleast := leastExponent_le more den
  -- with the greater exponent, the lesser quotient would be the greater one
  have hlow := le_quotient hnum hden (by omega)
  have hhigh := quotient_lt (by omega : more ≠ 0) hden
  have hquot : (num : ℚ) / den ≤ more / den := by gcongr
  have hpow : (2 : ℚ) ^ exponentFor more den ≤ 2 ^ (exponentFor num den - 1) :=
    zpow_le_zpow_right₀ one_le_two (by omega)
  have hdouble := two_zpow_eq (exponentFor num den)
  linarith

/-! ## Mantissas -/

/-- The mantissa of a quotient before it is packed. -/
def mantissaFor (num den : Nat) : Nat :=
  nearest (scaled num den (exponentFor num den)).1 (scaled num den (exponentFor num den)).2

theorem mantissaFor_zero (hden : 0 < den) : mantissaFor 0 den = 0 := by
  obtain ⟨hpos, -⟩ := scaled_spec 0 (exponentFor 0 den) hden
  have hzero : (scaled 0 den (exponentFor 0 den)).1 = 0 := by
    unfold scaled
    split
    · rfl
    · exact Nat.zero_mul _
  have hnone := nearest_mul 0 hpos
  rw [Nat.zero_mul] at hnone
  rw [mantissaFor, hzero, hnone]

theorem mantissaFor_le (hnum : num ≠ 0) (hden : 0 < den) : mantissaFor num den ≤ 2 ^ 53 := by
  obtain ⟨hpos, -⟩ := scaled_spec num (exponentFor num den) hden
  have hlt : (scaled num den (exponentFor num den)).1
      < (scaled num den (exponentFor num den)).2 * 2 ^ 53 := by
    rw [scaled_lt_iff hden]
    push_cast
    exact quotient_lt hnum hden
  calc mantissaFor num den
      ≤ nearest (2 ^ 53 * (scaled num den (exponentFor num den)).2) _ :=
        nearest_mono (by rw [mul_comm]; exact hlt.le) hpos
    _ = 2 ^ 53 := nearest_mul _ hpos

theorem le_mantissaFor (hnum : num ≠ 0) (hden : 0 < den)
    (h : leastExponent < exponentFor num den) : 2 ^ 52 ≤ mantissaFor num den := by
  obtain ⟨hpos, -⟩ := scaled_spec num (exponentFor num den) hden
  have hle : (scaled num den (exponentFor num den)).2 * 2 ^ 52
      ≤ (scaled num den (exponentFor num den)).1 := by
    rw [← not_lt, scaled_lt_iff hden, not_lt]
    push_cast
    exact le_quotient hnum hden h
  calc 2 ^ 52 = nearest (2 ^ 52 * (scaled num den (exponentFor num den)).2) _ :=
        (nearest_mul _ hpos).symm
    _ ≤ mantissaFor num den := nearest_mono (by rw [mul_comm]; exact hle) hpos

theorem mantissaFor_mono (h : num ≤ more) (hden : 0 < den)
    (hsame : exponentFor num den = exponentFor more den) :
    mantissaFor num den ≤ mantissaFor more den := by
  obtain ⟨hpos, -⟩ := scaled_spec num (exponentFor more den) hden
  obtain ⟨hle, hscale⟩ := @scaled_mono num den more (exponentFor more den) h
  rw [mantissaFor, mantissaFor, hsame, ← hscale]
  exact nearest_mono hle hpos

/-! ## The rounded number -/

/-- **The number that a quotient is rounded to**, as an exact one. -/
def rounded (num den : Nat) : ℚ :=
  mantissaFor num den * 2 ^ exponentFor num den

theorem rounded_zero (hden : 0 < den) : rounded 0 den = 0 := by
  rw [rounded, mantissaFor_zero hden, Nat.cast_zero, zero_mul]

theorem rounded_le (hnum : num ≠ 0) (hden : 0 < den) {bound : Int}
    (hbound : exponentFor num den ≤ bound) : rounded num den ≤ 2 ^ 53 * 2 ^ bound := by
  have hmantissa : (mantissaFor num den : ℚ) ≤ 2 ^ 53 := by exact_mod_cast mantissaFor_le hnum hden
  have hpow : (2 : ℚ) ^ exponentFor num den ≤ 2 ^ bound := zpow_le_zpow_right₀ one_le_two hbound
  unfold rounded
  gcongr

/-- **Rounding keeps the order** of quotients with one denominator. -/
theorem rounded_mono (h : num ≤ more) (hden : 0 < den) : rounded num den ≤ rounded more den := by
  by_cases hnum : num = 0
  · rw [hnum, rounded_zero hden, rounded]
    positivity
  · have hmore : more ≠ 0 := by omega
    rcases (exponentFor_mono h hnum hden).eq_or_lt with hsame | hless
    · have hmantissa : mantissaFor num den ≤ mantissaFor more den := mantissaFor_mono h hden hsame
      rw [rounded, rounded, hsame]
      gcongr
    · -- a number of the lesser exponent ends where those of the greater one begin
      have hleast := leastExponent_le num den
      have hfull : (2 : ℚ) ^ 52 ≤ mantissaFor more den := by
        exact_mod_cast le_mantissaFor hmore hden (by omega)
      calc rounded num den ≤ 2 ^ 53 * 2 ^ (exponentFor more den - 1) :=
            rounded_le hnum hden (by omega)
        _ = 2 ^ 52 * 2 ^ exponentFor more den := by rw [two_zpow_eq (exponentFor more den)]; ring
        _ ≤ rounded more den := by
            unfold rounded
            gcongr

/-! ## One -/

theorem exponentFor_self (hden : 0 < den) : exponentFor den den = -52 := by
  have hone : (den : ℚ) / den = 1 := div_self (by exact_mod_cast hden.ne')
  have hleast : leastExponent = -1074 := rfl
  have habove : -53 < exponentFor den den := by
    by_contra hbelow
    have hhigh := quotient_lt hden.ne' hden
    have hpow : (2 : ℚ) ^ exponentFor den den ≤ 2 ^ (-53 : ℤ) :=
      zpow_le_zpow_right₀ one_le_two (not_lt.mp hbelow)
    norm_num at hpow
    linarith
  have hbelow : exponentFor den den < -51 := by
    by_contra habove'
    have hlow := le_quotient hden.ne' hden (by omega)
    have hpow : (2 : ℚ) ^ (-51 : ℤ) ≤ 2 ^ exponentFor den den :=
      zpow_le_zpow_right₀ one_le_two (not_lt.mp habove')
    norm_num at hpow
    linarith
  omega

theorem rounded_self (hden : 0 < den) : rounded den den = 1 := by
  have hscaled : scaled den den (-52) = (2 ^ 52 * den, den) := by
    rw [Nat.mul_comm]
    rfl
  have hmantissa : mantissaFor den den = 2 ^ 52 := by
    rw [mantissaFor, exponentFor_self hden, hscaled]
    exact nearest_mul _ hden
  rw [rounded, hmantissa, exponentFor_self hden]
  norm_num

/-- Below one, exponents are less than that of one. -/
theorem exponentFor_of_lt (h : num < den) (hnum : num ≠ 0) : exponentFor num den ≤ -53 := by
  have hpos : 0 < den := by omega
  have hle := exponentFor_mono h.le hnum hpos
  rw [exponentFor_self hpos] at hle
  by_contra hover
  have hsame : exponentFor num den = -52 := by omega
  have hlow := le_quotient hnum hpos (by rw [hsame, leastExponent]; omega)
  have hquot : (num : ℚ) / den < 1 := by
    rw [div_lt_one (by exact_mod_cast hpos)]
    exact_mod_cast h
  rw [hsame] at hlow
  norm_num at hlow
  linarith

/-- Next to one, the mantissa of fewer than 2^54 parts falls short of that of one. -/
theorem mantissaFor_lt (h : num < den) (hden : den < 2 ^ 54)
    (hnext : exponentFor num den = -53) : mantissaFor num den < 2 ^ 53 := by
  have hscaled : scaled num den (-53) = (num * 2 ^ 53, den) := rfl
  have hnear := (nearest_bounds (num * 2 ^ 53) (by omega : 0 < den)).1
  rw [mantissaFor, hnext, hscaled]
  by_contra hfull
  -- the one part that is missing is more than a half of the last bit
  have hround : den * 2 ^ 53 ≤ den * nearest (num * 2 ^ 53) den :=
    Nat.mul_le_mul_left den (not_lt.mp hfull)
  have hpart : (num + 1) * 2 ^ 53 ≤ den * 2 ^ 53 := Nat.mul_le_mul_right _ h
  omega

/-- **Less than all is rounded to less than one**, if there are fewer than 2^54 parts. -/
theorem rounded_lt_one (h : num < den) (hden : den < 2 ^ 54) : rounded num den < 1 := by
  have hpos : 0 < den := by omega
  by_cases hnum : num = 0
  · rw [hnum, rounded_zero hpos]
    exact one_pos
  · rcases (exponentFor_of_lt h hnum).eq_or_lt with hnext | hless
    · have hshort : (mantissaFor num den : ℚ) < 2 ^ 53 := by
        exact_mod_cast mantissaFor_lt h hden hnext
      have hunit : (2 : ℚ) ^ (-53 : ℤ) = 1 / 2 ^ 53 := by norm_num
      rw [rounded, hnext, hunit, mul_one_div, div_lt_one (by norm_num)]
      exact hshort
    · calc rounded num den ≤ 2 ^ 53 * 2 ^ (-54 : ℤ) := rounded_le hnum hpos (by omega)
        _ < 1 := by norm_num

/-- The bound is sharp: from 2^54 parts on, all but one of them are rounded to one. -/
theorem rounded_pred (hden : 2 ^ 54 ≤ den) : rounded (den - 1) den = 1 := by
  have hpos : 0 < den := by omega
  have hsome : den - 1 ≠ 0 := by omega
  have hnext : exponentFor (den - 1) den = -53 := by
    have hle := exponentFor_of_lt (by omega : den - 1 < den) hsome
    by_contra hne
    have hhigh := quotient_lt hsome hpos
    have hpow : (2 : ℚ) ^ exponentFor (den - 1) den ≤ 2 ^ (-54 : ℤ) :=
      zpow_le_zpow_right₀ one_le_two (by omega)
    have hhalf : (1 : ℚ) / 2 ≤ (den - 1 : Nat) / den := by
      rw [div_le_div_iff₀ two_pos (by exact_mod_cast hpos)]
      exact_mod_cast (by omega : 1 * den ≤ (den - 1) * 2)
    norm_num at hpow
    linarith
  have hscaled : scaled (den - 1) den (-53) = ((den - 1) * 2 ^ 53, den) := rfl
  have hmantissa : mantissaFor (den - 1) den = 2 ^ 53 := by
    -- the part that is missing is at most a half of the last bit, and the mantissa below is odd
    have hsplit : (den - 1) * 2 ^ 53 / den = 2 ^ 53 - 1
        ∧ (den - 1) * 2 ^ 53 % den = den - 2 ^ 53 := by
      rw [Nat.div_mod_unique hpos]
      omega
    rw [mantissaFor, hnext, hscaled, nearest, hsplit.1, hsplit.2]
    dsimp only
    rw [if_neg (by omega)]
    split
    · rfl
    · exact if_neg (by decide)
  rw [rounded, hmantissa, hnext]
  norm_num

/-! ## Numbers that are compared -/

/-- The number that a mantissa makes at an exponent, with a sign. -/
def exactly (negative : Bool) (mantissa : Nat) (exponent : Int) : ℚ :=
  signed negative mantissa * 2 ^ exponent

theorem lt_finite_iff {a b : Bool} {m n : Nat} {e f : Int} :
    (finite a m e).lt (finite b n f) = true ↔ exactly a m e < exactly b n f := by
  have hunit : (0 : ℚ) < 2 ^ min e f := by positivity
  -- both are whole multiples of the unit of the lesser exponent
  have hwhole : ∀ (x : Int) {g : Int}, min e f ≤ g →
      (x : ℚ) * 2 ^ g = (x * Int.pow 2 (g - min e f).toNat : Int) * 2 ^ min e f := by
    intro x g hg
    have hsum : g = ((g - min e f).toNat : ℤ) + min e f := by omega
    conv_lhs => rw [hsum, zpow_add₀ two_ne_zero, zpow_natCast]
    push_cast [Int.pow_eq]
    ring
  rw [lt, decide_eq_true_eq, exactly, exactly, hwhole _ (min_le_left e f),
    hwhole _ (min_le_right e f), mul_lt_mul_iff_left₀ hunit]
  exact_mod_cast Iff.rfl

theorem ofRatio_of_ne_zero (hnum : num ≠ 0) (den : Nat) :
    ofRatio false num den = pack false (mantissaFor num den) (exponentFor num den) := by
  obtain ⟨e, hexponent⟩ : ∃ e, exponentFor num den = e := ⟨_, rfl⟩
  obtain ⟨n, d, hscaled⟩ : ∃ n d, scaled num den e = (n, d) := ⟨_, _, rfl⟩
  -- the scaled quotient is named first: taken apart by computation it would be computed
  rewrite [ofRatio, if_neg hnum, mantissaFor, hexponent, hscaled]
  dsimp only
  rewrite [hscaled]
  rfl

/-- A share is a finite number, the one that it is rounded to. -/
theorem exists_ofRatio_eq (h : num ≤ den) (hden : 0 < den) :
    ∃ m e, ofRatio false num den = finite false m e ∧ exactly false m e = rounded num den := by
  by_cases hnum : num = 0
  · refine ⟨0, leastExponent, by rw [ofRatio, if_pos hnum]; rfl, ?_⟩
    rw [hnum, rounded_zero hden]
    simp [exactly, signed]
  · have hexponent : exponentFor num den ≤ -52 :=
      exponentFor_self hden ▸ exponentFor_mono h hnum hden
    have hgreatest : greatestExponent = 971 := rfl
    have hmantissa := mantissaFor_le hnum hden
    rw [ofRatio_of_ne_zero hnum, pack]
    split
    · rw [if_pos (by omega)]
      exact ⟨_, _, rfl, by simp [exactly, signed, rounded]⟩
    · -- rounded up to one bit more, the mantissa is halved
      rename_i hfull
      have hfull : mantissaFor num den = 2 ^ 53 := by
        rw [Nat.pow_eq] at hfull
        omega
      rw [if_pos (by omega)]
      refine ⟨_, _, rfl, ?_⟩
      rw [exactly, rounded, hfull, zpow_add_one₀ two_ne_zero]
      push_cast [signed, Nat.pow_eq]
      ring

/-! ## Shares that are compared -/

variable {x : Binary64}

/-- **A greater share is below nothing that a lesser one is not below.** -/
theorem lt_ofRatio_of_le (h : num ≤ more) (hmore : more ≤ den) (hden : 0 < den)
    (hlt : (ofRatio false more den).lt x = true) : (ofRatio false num den).lt x = true := by
  obtain ⟨m, e, hratio, hvalue⟩ := exists_ofRatio_eq (h.trans hmore) hden
  obtain ⟨m', e', hratio', hvalue'⟩ := exists_ofRatio_eq hmore hden
  rw [hratio'] at hlt
  rw [hratio]
  cases x with
  | nan => exact hlt
  | infinite negative => exact hlt
  | finite negative n f =>
      rw [lt_finite_iff, hvalue'] at hlt
      rw [lt_finite_iff, hvalue]
      exact (rounded_mono h hden).trans_lt hlt

/-- **All of it is one**, of however many parts. -/
theorem lt_ofRatio_self (hden : 0 < den) (hlt : (ofRatio false den den).lt x = true) :
    (ofRatio false 1 1).lt x = true := by
  obtain ⟨m, e, hratio, hvalue⟩ := exists_ofRatio_eq le_rfl hden
  obtain ⟨m', e', hratio', hvalue'⟩ := exists_ofRatio_eq (le_refl 1) one_pos
  rw [hratio] at hlt
  rw [hratio']
  cases x with
  | nan => exact hlt
  | infinite negative => exact hlt
  | finite negative n f =>
      rw [lt_finite_iff, hvalue, rounded_self hden] at hlt
      rwa [lt_finite_iff, hvalue', rounded_self one_pos]

/-- **Less than all is less than one**, if there are fewer than 2^54 parts. -/
theorem ofRatio_lt_one (h : num < den) (hden : den < 2 ^ 54) :
    (ofRatio false num den).lt (ofRatio false 1 1) = true := by
  obtain ⟨m, e, hratio, hvalue⟩ := exists_ofRatio_eq h.le (by omega : 0 < den)
  obtain ⟨m', e', hratio', hvalue'⟩ := exists_ofRatio_eq (le_refl 1) one_pos
  rw [hratio, hratio', lt_finite_iff, hvalue, hvalue', rounded_self one_pos]
  exact rounded_lt_one h hden

/-- All parts but one are less than one exactly if there are fewer than 2^54. -/
theorem ofRatio_pred_lt_one_iff (hden : 0 < den) :
    (ofRatio false (den - 1) den).lt (ofRatio false 1 1) = true ↔ den < 2 ^ 54 := by
  constructor
  · obtain ⟨m, e, hratio, hvalue⟩ := exists_ofRatio_eq (Nat.sub_le den 1) hden
    obtain ⟨m', e', hratio', hvalue'⟩ := exists_ofRatio_eq (le_refl 1) one_pos
    rw [hratio, hratio', lt_finite_iff, hvalue, hvalue', rounded_self one_pos]
    intro hlt
    by_contra hmany
    rw [rounded_pred (not_lt.mp hmany)] at hlt
    exact lt_irrefl _ hlt
  · exact ofRatio_lt_one (Nat.sub_lt hden one_pos)

end LeadScreen.Binary64
