import LeadScreen.Proofs.Text.Caseless
import LeadScreen.Proofs.Text.Strip

set_option autoImplicit false

/-! # Lower-casing a text

A blank keeps apart what stands on either side of it (`lower_append_cons`), so that lowering works
word by word and trimming may come before it or after (`trim_lower`). A lowered text is not lowered
any further (`lower_lower`), and the case of ASCII letters does not show in it (`lower_congr`).
-/

namespace LeadScreen

variable {p : Char → Bool} {c d : Char} {t a b rest : Text} {afterCased : Bool}

/-! ## Ranges of characters -/

/-- The numbers of the ranges, as the bits of one number. -/
def rangeBits : List (Nat × Nat) → Nat
  | [] => 0
  | range :: ranges => (1 <<< (range.2 - range.1 + 1) - 1) <<< range.1 ||| rangeBits ranges

theorem testBit_rangeBits {ranges : List (Nat × Nat)} {n : Nat} (h : inRanges ranges n = true) :
    (rangeBits ranges).testBit n = true := by
  induction ranges with
  | nil => cases h
  | cons range ranges ih =>
      rw [rangeBits, Nat.testBit_or, Nat.testBit_shiftLeft, Nat.one_shiftLeft,
        Nat.testBit_two_pow_sub_one]
      rw [inRanges, List.any_cons, ← inRanges, Bool.or_eq_true, Bool.and_eq_true,
        decide_eq_true_eq, decide_eq_true_eq] at h
      rcases h with ⟨hfirst, hlast⟩ | h
      · have hbit : n - range.1 < range.2 - range.1 + 1 := by omega
        simp [hfirst, hbit]
      · rw [ih h, Bool.or_true]

/-- Ranges are apart if they have no bit in common. -/
theorem inRanges_eq_false {ranges others : List (Nat × Nat)} {n : Nat}
    (hapart : rangeBits ranges &&& rangeBits others = 0) (h : inRanges others n = true) :
    inRanges ranges n = false := by
  by_contra hin
  rw [Bool.not_eq_false] at hin
  have hcommon := Nat.testBit_and (rangeBits ranges) (rangeBits others) n
  rw [hapart, testBit_rangeBits hin, testBit_rangeBits h, Nat.zero_testBit] at hcommon
  cases hcommon

namespace Text

/-! ## On either side of a blank -/

theorem uncased_of_isBlank (h : isBlank c = true) :
    isCased c = false ∧ isCaseIgnorable c = false := by
  rcases toNat_or_mem_of_isBlank h with hle | hwide
  · have hall : ∀ n < 33, isCased (Char.ofNat n) = false
        ∧ isCaseIgnorable (Char.ofNat n) = false := by decide
    have hc := hall c.toNat (by omega)
    rwa [Char.ofNat_toNat] at hc
  · have hblanks : (wideBlanks.all fun b => decide (128 ≤ b.toNat)) = true := by decide
    have hlarge : ¬ c.toNat < 128 := by
      simpa using List.all_eq_true.mp hblanks c hwide
    have hin : inRanges (wideBlanks.map fun b => (b.toNat, b.toNat)) c.toNat = true :=
      List.any_eq_true.mpr ⟨_, List.mem_map_of_mem hwide, by simp⟩
    have hapart : ∀ ranges ∈ [casedRanges, caseIgnorableRanges],
        rangeBits ranges &&& rangeBits (wideBlanks.map fun b => (b.toNat, b.toNat)) = 0 := by
      decide +kernel
    rw [isCased, if_neg hlarge, isCaseIgnorable, if_neg hlarge]
    exact ⟨inRanges_eq_false (hapart casedRanges (by simp)) hin,
      inRanges_eq_false (hapart caseIgnorableRanges (by simp)) hin⟩

theorem startsCased_append_cons (hc : isBlank c = true) (a b : Text) :
    startsCased (a ++ c :: b) = startsCased a := by
  obtain ⟨huncased, hcounts⟩ := uncased_of_isBlank hc
  induction a with
  | nil =>
      show startsCased (c :: b) = false
      rw [startsCased, hcounts, if_neg Bool.false_ne_true, huncased]
  | cons d a ih => rw [List.cons_append, startsCased, startsCased, ih]

theorem lowerAt_append_cons (hc : isBlank c = true) (a b : Text) :
    lowerAt afterCased d (a ++ c :: b) = lowerAt afterCased d a := by
  rw [lowerAt, lowerAt, startsCased_append_cons hc]

/-- A text after a blank is lowered as if nothing stood before it. -/
theorem lowerFrom_append_cons (hc : isBlank c = true) (afterCased : Bool) (a b : Text) :
    lowerFrom afterCased (a ++ c :: b) = lowerFrom afterCased a ++ c :: lower b := by
  induction a generalizing afterCased with
  | nil =>
      obtain ⟨huncased, hcounts⟩ := uncased_of_isBlank hc
      show lowerFrom afterCased (c :: b) = c :: lower b
      rw [lowerFrom, CaselessClass.blanks.lowerAt_eq hc, hcounts, if_neg Bool.false_ne_true,
        huncased, List.singleton_append, lower]
  | cons d a ih =>
      rw [List.cons_append, lowerFrom, lowerFrom, lowerAt_append_cons hc, ih, List.append_assoc]

/-- **Lower-casing splits at blanks.** -/
theorem lower_append_cons (hc : isBlank c = true) (a b : Text) :
    lower (a ++ c :: b) = lower a ++ c :: lower b :=
  lowerFrom_append_cons hc false a b

theorem lower_blank_append (ha : ∀ c ∈ a, isBlank c = true) (b : Text) :
    lower (a ++ b) = a ++ lower b := by
  induction a with
  | nil => rfl
  | cons c a ih =>
      have hsplit := lower_append_cons (ha c List.mem_cons_self) [] (a ++ b)
      rw [List.nil_append, ih fun d hd => ha d (List.mem_cons_of_mem c hd)] at hsplit
      exact hsplit

theorem lower_of_blank (h : ∀ c ∈ t, isBlank c = true) : lower t = t := by
  have happend := lower_blank_append h []
  rwa [List.append_nil, lower_eq_nil_iff.mpr rfl, List.append_nil] at happend

theorem lower_append_blank (a : Text) (hb : ∀ c ∈ b, isBlank c = true) :
    lower (a ++ b) = lower a ++ b := by
  cases b with
  | nil => rw [List.append_nil, List.append_nil]
  | cons c b =>
      rw [lower_append_cons (hb c List.mem_cons_self),
        lower_of_blank fun d hd => hb d (List.mem_cons_of_mem c hd)]

theorem exists_lowerFrom_append (afterCased : Bool) (a b : Text) :
    ∃ front afterCased', lowerFrom afterCased (a ++ b) = front ++ lowerFrom afterCased' b := by
  induction a generalizing afterCased with
  | nil => exact ⟨[], afterCased, rfl⟩
  | cons c a ih =>
      obtain ⟨front, afterCased', hrest⟩ := ih (if isCaseIgnorable c then afterCased else isCased c)
      refine ⟨lowerAt afterCased c (a ++ b) ++ front, afterCased', ?_⟩
      rw [List.cons_append, lowerFrom, hrest, List.append_assoc]

/-- The ends of a lowered text are of the classes of the ends of the text. -/
theorem stripped_lower (hp : Steady p) (h : Stripped p t) : Stripped p (lower t) := by
  constructor
  · intro d hd
    cases t with
    | nil => cases hd
    | cons c rest =>
        obtain ⟨e, es, hcons⟩ := List.exists_cons_of_ne_nil (lowerAt_ne_nil false c rest)
        rw [lower, lowerFrom, hcons, List.cons_append, List.head?_cons] at hd
        rw [← Option.some.inj hd, hp false c rest e (hcons ▸ List.mem_cons_self)]
        exact h.1 c rfl
  · intro d hd
    rcases List.eq_nil_or_concat t with rfl | ⟨front, c, rfl⟩
    · cases hd
    · rw [List.concat_eq_append] at hd h
      obtain ⟨front', afterCased, hlower⟩ := exists_lowerFrom_append false front [c]
      have hlast : lowerFrom afterCased [c] = lowerAt afterCased c [] := by
        rw [lowerFrom, lowerFrom, List.append_nil]
      rw [lower, hlower, hlast, List.getLast?_append_of_ne_nil _ (lowerAt_ne_nil _ _ _)] at hd
      rw [hp afterCased c [] d (List.mem_of_mem_getLast? hd)]
      exact h.2 c (by
        rw [List.getLast?_append, List.getLast?_singleton, Option.some_or, Option.mem_some])

theorem stripped_lower_trim (t : Text) : Stripped isBlank (lower t.trim) :=
  stripped_lower CaselessClass.blanks.steady (stripped_stripWhere isBlank t)

/-- **Trimming may come before lower-casing or after it.** -/
theorem trim_lower (t : Text) : (lower t).trim = lower t.trim := by
  obtain ⟨front, back, hsplit, hfront, hback⟩ := exists_stripWhere_eq isBlank t
  calc (lower t).trim
      = (front ++ lower t.trim ++ back).trim := by
        conv_lhs => rw [hsplit]
        rw [lower_append_blank _ hback, lower_blank_append hfront]
        rfl
    _ = (lower t.trim).trim := by rw [trim_append_of_blank hback, trim_blank_append hfront]
    _ = lower t.trim := stripWhere_eq_self_iff.mpr (stripped_lower_trim t)

/-! ## Lowering once and for all -/

end Text

/-- The first multiples of `step`, as the bits of a number. -/
def strided (step : Nat) : Nat → Nat
  | 0 => 0
  | count + 1 => strided step count ||| 1 <<< (count * step)

/-- The characters of the stretch as the bits of a number, moved so that they begin at `start`. -/
def CaseStretch.bits (s : CaseStretch) (start : Nat) : Nat :=
  strided s.step ((s.last - s.first) / s.step + 1) <<< start

/-- The bits of several stretches, each moved to where `start` says. -/
def stretchBits (start : CaseStretch → Nat) : List CaseStretch → Nat
  | [] => 0
  | s :: stretches => s.bits (start s) ||| stretchBits start stretches

theorem testBit_strided {i count : Nat} (step : Nat) (h : i < count) :
    (strided step count).testBit (i * step) = true := by
  induction count with
  | zero => exact absurd h (Nat.not_lt_zero i)
  | succ count ih =>
      rw [strided, Nat.testBit_or]
      by_cases hi : i = count
      · rw [hi, Nat.testBit_shiftLeft]
        simp
      · rw [ih (by omega), Bool.true_or]

theorem testBit_bits {s : CaseStretch} {n : Nat} (hcovers : s.covers n = true) (start : Nat) :
    (s.bits start).testBit (start + (n - s.first)) = true := by
  obtain ⟨hfirst, hlast⟩ := bounds_of_covers hcovers
  have hstep : (n - s.first) % s.step = 0 := by
    rw [CaseStretch.covers, Bool.and_eq_true] at hcovers
    exact eq_of_beq hcovers.2
  have hi : (n - s.first) / s.step < (s.last - s.first) / s.step + 1 :=
    Nat.lt_succ_of_le (Nat.div_le_div_right (by omega))
  have hbit := testBit_strided s.step hi
  rw [Nat.div_mul_cancel (Nat.dvd_of_mod_eq_zero hstep)] at hbit
  rw [CaseStretch.bits, Nat.testBit_shiftLeft, Nat.add_sub_cancel_left, hbit]
  simp

theorem testBit_stretchBits {s : CaseStretch} {stretches : List CaseStretch} {n : Nat}
    (hs : s ∈ stretches) (hcovers : s.covers n = true) (start : CaseStretch → Nat) :
    (stretchBits start stretches).testBit (start s + (n - s.first)) = true := by
  induction stretches with
  | nil => exact absurd hs List.not_mem_nil
  | cons s' stretches ih =>
      rw [stretchBits, Nat.testBit_or]
      rcases List.mem_cons.mp hs with rfl | hs
      · rw [testBit_bits hcovers, Bool.true_or]
      · rw [ih hs, Bool.or_true]

/-- No lower-case form in the table is a capital letter of the table. -/
theorem not_covers_target {s s' : CaseStretch} {n : Nat} (hs : s ∈ caseStretches)
    (hcovers : s.covers n = true) (hs' : s' ∈ caseStretches) :
    s'.covers (s.target + (n - s.first)) = false := by
  by_contra hcovers'
  rw [Bool.not_eq_false] at hcovers'
  -- capital letters and lower-case forms, as two numbers without a common bit
  have hapart : stretchBits CaseStretch.first caseStretches
      &&& stretchBits CaseStretch.target caseStretches = 0 := by decide +kernel
  have hsmall := testBit_stretchBits hs hcovers CaseStretch.target
  have hcapital := testBit_stretchBits hs' hcovers' CaseStretch.first
  rw [Nat.add_sub_cancel' (bounds_of_covers hcovers').1] at hcapital
  have hcommon := Nat.testBit_and (stretchBits CaseStretch.first caseStretches)
    (stretchBits CaseStretch.target caseStretches) (s.target + (n - s.first))
  rw [hapart, hsmall, hcapital, Nat.zero_testBit] at hcommon
  cases hcommon

/-- The lower-case form of a character is lowered no further. -/
theorem lowerChar_lowerChar (c : Char) : lowerChar (lowerChar c) = lowerChar c := by
  rcases lowerChar_cases c with hself | ⟨hfirst, hlast, hlower⟩ | ⟨s, hs, hcovers, hlower⟩
  · rw [hself, hself]
  · rw [lowerChar, if_pos (by omega)]
    exact (toLower_cases (lowerChar c)).resolve_right (by omega)
  · have hsmall := (target_of_mem_caseStretches hs).1
    rcases lowerChar_cases (lowerChar c) with hself | ⟨-, hlast, -⟩ | ⟨s', hs', hcovers', -⟩
    · exact hself
    · omega
    · rw [hlower, not_covers_target hs hcovers hs'] at hcovers'
      cases hcovers'

/-- Only the dotted capital itself is lowered by itself to the dotted capital. -/
theorem lowerChar_ne_dotted (hc : c ≠ 'İ') : lowerChar c ≠ 'İ' := by
  intro hdotted
  have hout : outsideCase (304, 304) = true := by decide
  have hself := lowerChar_of_outsideCase hout (Or.inr (by rw [hdotted]; decide))
  exact hc (hself.symm.trans hdotted)

/-- Whether a character is in lower case, or has no case: lowering leaves it alone. -/
def Lowered (c : Char) : Prop :=
  c ≠ 'İ' ∧ lowerChar c = c

theorem CaselessClass.lowered (hp : CaselessClass p) (hc : p c = true) : Lowered c := by
  refine ⟨?_, hp.kept c hc⟩
  rintro rfl
  rw [hp.letters 'İ' (by decide)] at hc
  cases hc

namespace Text

theorem lowered_of_mem_lowerAt (h : d ∈ lowerAt afterCased c rest) : Lowered d := by
  unfold lowerAt at h
  split at h
  · split at h
    · rw [List.mem_singleton.mp h]
      exact ⟨by decide, by decide⟩
    · rw [List.mem_singleton.mp h]
      exact ⟨by decide, by decide⟩
  · split at h
    · rcases List.mem_cons.mp h with rfl | h
      · exact ⟨by decide, by decide⟩
      · rw [List.mem_singleton.mp h]
        exact ⟨by decide, by decide⟩
    · rename_i hdotted
      rw [List.mem_singleton.mp h]
      exact ⟨lowerChar_ne_dotted hdotted, lowerChar_lowerChar c⟩

theorem lowered_of_mem_lower (h : d ∈ lower t) : Lowered d := by
  obtain ⟨c, -, afterCased, rest, hlower⟩ := exists_mem_of_mem_lowerFrom h
  exact lowered_of_mem_lowerAt hlower

theorem lowerFrom_of_lowered (h : ∀ c ∈ t, Lowered c) (afterCased : Bool) :
    lowerFrom afterCased t = t := by
  induction t generalizing afterCased with
  | nil => rfl
  | cons c rest ih =>
      obtain ⟨hdotted, hself⟩ := h c List.mem_cons_self
      have hsigma : c ≠ 'Σ' := by
        rintro rfl
        exact absurd hself (by decide)
      rw [lowerFrom, lowerAt, if_neg hsigma, if_neg hdotted, hself, List.singleton_append,
        ih fun d hd => h d (List.mem_cons_of_mem c hd)]

/-- **A lowered text is not lowered any further.** -/
theorem lower_lower (t : Text) : lower (lower t) = lower t :=
  lowerFrom_of_lowered (fun _ => lowered_of_mem_lower) false

/-! ## The case of ASCII letters -/

theorem case_toLower (c : Char) : lowerChar c.toLower = lowerChar c
    ∧ isCased c.toLower = isCased c ∧ isCaseIgnorable c.toLower = isCaseIgnorable c
    ∧ (c.toLower = 'Σ' ↔ c = 'Σ') ∧ (c.toLower = 'İ' ↔ c = 'İ') := by
  rcases toLower_cases c with hself | ⟨hfirst, hlast, -⟩
  · rw [hself]
    exact ⟨rfl, rfl, rfl, Iff.rfl, Iff.rfl⟩
  · -- the capital ASCII letters, by their places
    have hall : ∀ n < 26, lowerChar (Char.ofNat (65 + n)).toLower = lowerChar (Char.ofNat (65 + n))
        ∧ isCased (Char.ofNat (65 + n)).toLower = isCased (Char.ofNat (65 + n))
        ∧ isCaseIgnorable (Char.ofNat (65 + n)).toLower = isCaseIgnorable (Char.ofNat (65 + n))
        ∧ ((Char.ofNat (65 + n)).toLower = 'Σ' ↔ Char.ofNat (65 + n) = 'Σ')
        ∧ ((Char.ofNat (65 + n)).toLower = 'İ' ↔ Char.ofNat (65 + n) = 'İ') := by
      decide
    have hc := hall (c.toNat - 65) (by omega)
    rwa [Nat.add_sub_cancel' hfirst, Char.ofNat_toNat] at hc

theorem startsCased_map_toLower (t : Text) : startsCased (t.map Char.toLower) = startsCased t := by
  induction t with
  | nil => rfl
  | cons c rest ih =>
      obtain ⟨-, hcased, hcounts, -⟩ := case_toLower c
      rw [List.map_cons, startsCased, startsCased, hcased, hcounts, ih]

theorem lowerFrom_map_toLower (afterCased : Bool) (t : Text) :
    lowerFrom afterCased (t.map Char.toLower) = lowerFrom afterCased t := by
  induction t generalizing afterCased with
  | nil => rfl
  | cons c rest ih =>
      obtain ⟨hlower, hcased, hcounts, hsigma, hdotted⟩ := case_toLower c
      rw [List.map_cons, lowerFrom, lowerFrom, lowerAt, lowerAt, ih, startsCased_map_toLower,
        hlower, hcased, hcounts]
      simp only [hsigma, hdotted]

/-- **The case of ASCII letters does not show in lower case.** -/
theorem lower_congr (h : a.map Char.toLower = b.map Char.toLower) : lower a = lower b :=
  (lowerFrom_map_toLower false a).symm.trans
    ((congrArg (lowerFrom false) h).trans (lowerFrom_map_toLower false b))

end Text

end LeadScreen
