import LeadScreen.Proofs.Text.Case
import LeadScreen.Proofs.Text.Cut
import LeadScreen.Text.Digit

set_option autoImplicit false

/-! # Characters without case

Lower-casing goes from character to character, but for a sigma it looks at what stands around it.
Some classes of characters have nothing to do with it (`CaselessClass`): what belongs to one is left
alone, and nothing else is lowered into it. Blanks are such a class, and digits, and every character
before the ASCII letters. So runs of such a class stay as they are in a lowered text, and runs of
other characters become runs of other characters.
-/

namespace LeadScreen

variable {p q : Char → Bool} {c d x : Char} {t rest : Text} {afterCased : Bool}

/-! ## Single characters -/

/-- A character is its own lower-case form, or a capital ASCII letter, or it is in the table. -/
theorem lowerChar_cases (c : Char) : lowerChar c = c
    ∨ (65 ≤ c.toNat ∧ c.toNat ≤ 90 ∧ (lowerChar c).toNat = c.toNat + 32)
    ∨ ∃ s ∈ caseStretches, s.covers c.toNat = true
      ∧ (lowerChar c).toNat = s.target + (c.toNat - s.first) := by
  unfold lowerChar
  split
  · exact (toLower_cases c).imp id Or.inl
  · split
    · rename_i s hs
      have hmem := List.mem_of_find?_eq_some hs
      have hcovers := bounds_of_find? hs
      have hfound : s.covers c.toNat = true := by
        have := List.find?_some hs
        exact this
      refine Or.inr (Or.inr ⟨s, hmem, hfound, ?_⟩)
      exact toNat_ofNat_of_isValidChar ((target_of_mem_caseStretches hmem).2 _ (by omega))
    · exact Or.inl rfl

theorem bounds_of_covers {s : CaseStretch} {n : Nat} (h : s.covers n = true) :
    s.first ≤ n ∧ n ≤ s.last := by
  simp only [CaseStretch.covers, Bool.and_eq_true, decide_eq_true_eq] at h
  exact h.1

/-- Whether a range lies beyond ASCII, and neither capital letters of the table nor their lower-case
forms lie in it. -/
def outsideCase (range : Nat × Nat) : Bool :=
  Nat.ble 128 range.1 && caseStretches.all fun s =>
    (Nat.blt s.last range.1 || Nat.blt range.2 s.first)
      && (Nat.blt (s.target + (s.last - s.first)) range.1 || Nat.blt range.2 s.target)

theorem lowerChar_of_outsideCase {range : Nat × Nat} (hout : outsideCase range = true)
    (h : (range.1 ≤ c.toNat ∧ c.toNat ≤ range.2)
      ∨ (range.1 ≤ (lowerChar c).toNat ∧ (lowerChar c).toNat ≤ range.2)) : lowerChar c = c := by
  obtain ⟨hwide, hapart⟩ := (Bool.and_eq_true _ _).mp hout
  have hwide := Nat.le_of_ble_eq_true hwide
  rcases lowerChar_cases c with hself | ⟨-, hcapital, hlower⟩ | ⟨s, hs, hcovers, hlower⟩
  · exact hself
  · omega
  · have hbounds := bounds_of_covers hcovers
    have hfar := List.all_eq_true.mp hapart s hs
    simp only [Bool.and_eq_true, Bool.or_eq_true, Nat.blt_eq] at hfar
    omega

/-- The ranges beyond ASCII in which blanks and digits lie: wide ones, and few. -/
def caseGaps : List (Nat × Nat) :=
  [(0x80, 0xBF), (0x587, 0x109F), (0x13FE, 0x1C8F), (0x1FFD, 0x2125), (0x2D2E, 0xA63F),
   (0xA7F7, 0xAB52), (0xABC0, 0xFF20), (0x10450, 0x104AF), (0x10CF3, 0x1189F),
   (0x118E0, 0x16E3F), (0x16E80, 0x1E8FF), (0x1E944, 0x10FFFF)]

theorem outsideCase_caseGaps : caseGaps.all outsideCase = true := by decide

/-- Whether the numbers from the first to the last lie in one of these ranges. -/
def inCaseGap (first last : Nat) : Bool :=
  caseGaps.any fun gap => Nat.ble gap.1 first && Nat.ble last gap.2

theorem exists_caseGap {first last n : Nat} (h : inCaseGap first last = true) (hfirst : first ≤ n)
    (hlast : n ≤ last) : ∃ gap ∈ caseGaps, gap.1 ≤ n ∧ n ≤ gap.2 := by
  obtain ⟨gap, hmem, hgap⟩ := List.any_eq_true.mp h
  rw [Bool.and_eq_true, Nat.ble_eq, Nat.ble_eq] at hgap
  exact ⟨gap, hmem, by omega, by omega⟩

theorem lowerChar_of_lt (h : c.toNat < 65) : lowerChar c = c := by
  rw [lowerChar, if_pos (by omega)]
  rcases toLower_cases c with hself | ⟨hcapital, -, -⟩
  · exact hself
  · omega

/-! ## Classes without case -/

/-- The two letters that are not lowered by themselves, and what they are lowered to. -/
def specialLetters : List Char :=
  ['Σ', 'σ', 'ς', 'İ', 'i', '\u0307']

/-- **A class of characters that have no case**: they are left alone, and no other character is
lowered to one of them, not even the two that are not lowered by themselves. -/
structure CaselessClass (p : Char → Bool) : Prop where
  kept : ∀ c, p c = true → lowerChar c = c
  foreign : ∀ c, p c = false → p (lowerChar c) = false
  letters : ∀ c ∈ specialLetters, p c = false

namespace CaselessClass

theorem or (hp : CaselessClass p) (hq : CaselessClass q) :
    CaselessClass fun c => p c || q c where
  kept := fun c hc => ((Bool.or_eq_true _ _).mp hc).elim (hp.kept c) (hq.kept c)
  foreign := fun c hc => by
    rw [Bool.or_eq_false_iff] at hc ⊢
    exact ⟨hp.foreign c hc.1, hq.foreign c hc.2⟩
  letters := fun c hc => by rw [hp.letters c hc, hq.letters c hc, Bool.or_false]

/-- A class has no case if it lies before the ASCII letters and in ranges that the table of letters
does not touch. -/
theorem of_ranges (ranges : List (Nat × Nat))
    (hp : ∀ c, p c = true → c.toNat < 65 ∨ ∃ range ∈ ranges, range.1 ≤ c.toNat ∧ c.toNat ≤ range.2)
    (hout : ranges.all outsideCase = true)
    (hletters : specialLetters.all (fun c => !p c) = true) : CaselessClass p where
  kept := fun c hc => by
    rcases hp c hc with hlt | ⟨range, hrange, hin⟩
    · exact lowerChar_of_lt hlt
    · exact lowerChar_of_outsideCase (List.all_eq_true.mp hout range hrange) (Or.inl hin)
  foreign := fun c hc => by
    by_contra hlower
    rw [Bool.not_eq_false] at hlower
    have hself : lowerChar c = c := by
      rcases hp _ hlower with hlt | ⟨range, hrange, hin⟩
      · exact (lowerChar_eq_or_le c).elim id fun hle => absurd hle (by omega)
      · exact lowerChar_of_outsideCase (List.all_eq_true.mp hout range hrange) (Or.inr hin)
    rw [hself, hc] at hlower
    cases hlower
  letters := fun c hc => by simpa using List.all_eq_true.mp hletters c hc

/-- A character before the ASCII letters is a class of its own. -/
theorem of_lt (hx : x.toNat < 65) : CaselessClass (· == x) := by
  refine of_ranges [] (fun c hc => Or.inl (eq_of_beq hc ▸ hx)) rfl ?_
  have hall : specialLetters.all (fun c => decide (65 ≤ c.toNat)) = true := by decide
  refine List.all_eq_true.mpr fun c hc => ?_
  have hle : 65 ≤ c.toNat := by simpa using List.all_eq_true.mp hall c hc
  rw [Bool.not_eq_true', beq_eq_false_iff_ne]
  rintro rfl
  omega

/-- Blanks have no case. -/
theorem blanks : CaselessClass isBlank := by
  refine of_ranges caseGaps ?_ outsideCase_caseGaps (by decide)
  intro c hc
  rcases toNat_or_mem_of_isBlank hc with hle | hwide
  · exact Or.inl (by omega)
  · have hall : (wideBlanks.all fun b => inCaseGap b.toNat b.toNat) = true := by decide
    exact Or.inr (exists_caseGap (List.all_eq_true.mp hall c hwide) (Nat.le_refl _) (Nat.le_refl _))

/-- Digits have no case. -/
theorem digits : CaselessClass isDigit := by
  refine of_ranges caseGaps ?_ outsideCase_caseGaps (by decide)
  intro c hc
  rw [isDigit, digitValue?] at hc
  split at hc
  · have hnine : '9'.toNat = 57 := rfl
    split at hc
    · rename_i hrange
      rw [Bool.and_eq_true, decide_eq_true_eq, decide_eq_true_eq] at hrange
      exact Or.inl (by omega)
    · cases hc
  · rw [Option.isSome_map] at hc
    obtain ⟨z, hz⟩ := Option.isSome_iff_exists.mp hc
    have hrange := List.find?_some hz
    rw [Bool.and_eq_true, decide_eq_true_eq, decide_eq_true_eq] at hrange
    have hall : (wideZeros.all fun z => inCaseGap z (z + 9)) = true := by decide
    have hgap := List.all_eq_true.mp hall z (List.mem_of_find?_eq_some hz)
    exact Or.inr (exists_caseGap hgap hrange.1 hrange.2)

/-! ## What a character is lowered to -/

theorem lowerAt_eq (hp : CaselessClass p) (hc : p c = true) (afterCased : Bool) (rest : Text) :
    Text.lowerAt afterCased c rest = [c] := by
  have hsigma : c ≠ 'Σ' := by
    rintro rfl
    rw [hp.letters 'Σ' (by decide)] at hc
    cases hc
  have hdotted : c ≠ 'İ' := by
    rintro rfl
    rw [hp.letters 'İ' (by decide)] at hc
    cases hc
  rw [Text.lowerAt, if_neg hsigma, if_neg hdotted, hp.kept c hc]

/-- Nothing is lowered into the class or out of it. -/
theorem of_mem_lowerAt (hp : CaselessClass p) (h : d ∈ Text.lowerAt afterCased c rest) :
    p d = p c := by
  cases hc : p c with
  | true =>
      rw [hp.lowerAt_eq hc, List.mem_singleton] at h
      rw [h, hc]
  | false =>
      unfold Text.lowerAt at h
      split at h
      · split at h
        · exact hp.letters d (by rw [List.mem_singleton.mp h]; decide)
        · exact hp.letters d (by rw [List.mem_singleton.mp h]; decide)
      · split at h
        · rcases List.mem_cons.mp h with rfl | h
          · exact hp.letters _ (by decide)
          · exact hp.letters d (by rw [List.mem_singleton.mp h]; decide)
        · rw [List.mem_singleton.mp h]
          exact hp.foreign c hc

end CaselessClass

/-- **Lower-casing keeps to a class and its complement.** -/
def Steady (p : Char → Bool) : Prop :=
  ∀ (afterCased : Bool) (c : Char) (rest : Text), ∀ d ∈ Text.lowerAt afterCased c rest, p d = p c

theorem CaselessClass.steady (hp : CaselessClass p) : Steady p :=
  fun _ _ _ _ h => hp.of_mem_lowerAt h

theorem Steady.not (hp : Steady p) : Steady fun c => !p c :=
  fun afterCased c rest d hd => congrArg (! ·) (hp afterCased c rest d hd)

namespace Text

/-! ## Runs of a class -/

theorem exists_mem_of_mem_lowerFrom (h : d ∈ lowerFrom afterCased t) :
    ∃ c ∈ t, ∃ afterCased rest, d ∈ lowerAt afterCased c rest := by
  induction t generalizing afterCased with
  | nil => cases h
  | cons c rest ih =>
      rw [lowerFrom] at h
      rcases List.mem_append.mp h with h | h
      · exact ⟨c, List.mem_cons_self, _, _, h⟩
      · obtain ⟨e, he, hlower⟩ := ih h
        exact ⟨e, List.mem_cons_of_mem c he, hlower⟩

theorem all_lowerFrom (hp : Steady p) (afterCased : Bool) (t : Text) :
    (lowerFrom afterCased t).all p = t.all p := by
  induction t generalizing afterCased with
  | nil => rfl
  | cons c rest ih =>
      have hlower : (lowerAt afterCased c rest).all p = p c := by
        obtain ⟨d, ds, hcons⟩ := List.exists_cons_of_ne_nil (lowerAt_ne_nil afterCased c rest)
        have hall := hp afterCased c rest
        rw [hcons] at hall ⊢
        cases hc : p c with
        | true => exact List.all_eq_true.mpr fun e he => (hall e he).trans hc
        | false => rw [List.all_cons, hall d List.mem_cons_self, hc, Bool.false_and]
      rw [lowerFrom, List.all_append, hlower, ih, List.all_cons]

/-- What is left behind a run is lowered to what is left behind the lowered run. -/
theorem exists_dropWhile_lowerFrom (hp : Steady p) (afterCased : Bool) (t : Text) :
    ∃ afterCased', (lowerFrom afterCased t).dropWhile p = lowerFrom afterCased' (t.dropWhile p) := by
  induction t generalizing afterCased with
  | nil => exact ⟨afterCased, rfl⟩
  | cons c rest ih =>
      have hall := hp afterCased c rest
      rw [List.dropWhile_cons]
      cases hc : p c with
      | true =>
          obtain ⟨afterCased', hrest⟩ := ih (if isCaseIgnorable c then afterCased else isCased c)
          refine ⟨afterCased', ?_⟩
          rw [lowerFrom, List.dropWhile_append_of_pos fun d hd => (hall d hd).trans hc, hrest,
            if_pos rfl]
      | false =>
          refine ⟨afterCased, ?_⟩
          rw [if_neg Bool.false_ne_true]
          refine dropWhile_eq_self fun d hd => ?_
          obtain ⟨e, es, hcons⟩ := List.exists_cons_of_ne_nil (lowerAt_ne_nil afterCased c rest)
          rw [lowerFrom, hcons, List.cons_append, List.head?_cons] at hd
          rw [← Option.some.inj hd, hall e (hcons ▸ List.mem_cons_self), hc]

theorem isEmpty_takeWhile_lowerFrom (hp : Steady p) (afterCased : Bool) (t : Text) :
    ((lowerFrom afterCased t).takeWhile p).isEmpty = (t.takeWhile p).isEmpty := by
  cases t with
  | nil => rfl
  | cons c rest =>
      obtain ⟨d, ds, hcons⟩ := List.exists_cons_of_ne_nil (lowerAt_ne_nil afterCased c rest)
      have hclass := hp afterCased c rest d (hcons ▸ List.mem_cons_self)
      rw [lowerFrom, hcons, List.cons_append, List.takeWhile_cons, List.takeWhile_cons, hclass]
      split <;> rfl

/-- A run of a class without case stays as it is. -/
theorem takeWhile_lowerFrom (hp : CaselessClass p) (afterCased : Bool) (t : Text) :
    (lowerFrom afterCased t).takeWhile p = t.takeWhile p := by
  induction t generalizing afterCased with
  | nil => rfl
  | cons c rest ih =>
      rw [lowerFrom, List.takeWhile_cons]
      cases hc : p c with
      | true =>
          rw [hp.lowerAt_eq hc, List.singleton_append, List.takeWhile_cons_of_pos hc, ih,
            if_pos rfl]
      | false =>
          rw [if_neg Bool.false_ne_true]
          refine takeWhile_eq_nil fun d hd => ?_
          obtain ⟨e, es, hcons⟩ := List.exists_cons_of_ne_nil (lowerAt_ne_nil afterCased c rest)
          rw [hcons, List.cons_append, List.head?_cons] at hd
          rw [← Option.some.inj hd, hp.steady afterCased c rest e (hcons ▸ List.mem_cons_self), hc]

/-! ## Single characters of a lowered text -/

/-- A character before the ASCII letters is lowered to itself, and nothing else is lowered to it. -/
theorem mem_lowerAt_iff (hx : x.toNat < 65) : x ∈ lowerAt afterCased c rest ↔ c = x := by
  constructor
  · intro h
    have hclass := (CaselessClass.of_lt hx).of_mem_lowerAt h
    rw [beq_self_eq_true] at hclass
    exact eq_of_beq hclass.symm
  · rintro rfl
    rw [(CaselessClass.of_lt hx).lowerAt_eq (beq_self_eq_true c)]
    exact List.mem_singleton_self c

theorem head?_lowerFrom_eq_some_iff (hx : x.toNat < 65) :
    (lowerFrom afterCased t).head? = some x ↔ t.head? = some x := by
  cases t with
  | nil => exact Iff.rfl
  | cons c rest =>
      obtain ⟨d, ds, hcons⟩ := List.exists_cons_of_ne_nil (lowerAt_ne_nil afterCased c rest)
      have hclass : (d == x) = (c == x) :=
        (CaselessClass.of_lt hx).of_mem_lowerAt (hcons ▸ List.mem_cons_self)
      rw [lowerFrom, hcons, List.cons_append, List.head?_cons, List.head?_cons, Option.some_inj,
        Option.some_inj, ← beq_iff_eq, hclass, beq_iff_eq]

theorem mem_dropLast_lowerFrom_iff (hx : x.toNat < 65) :
    x ∈ (lowerFrom afterCased t).dropLast ↔ x ∈ t.dropLast := by
  induction t generalizing afterCased with
  | nil => exact Iff.rfl
  | cons c rest ih =>
      rw [lowerFrom]
      cases rest with
      | nil =>
          refine iff_of_false ?_ List.not_mem_nil
          rw [lowerFrom, List.append_nil]
          intro hmem
          obtain rfl := (mem_lowerAt_iff hx).mp (List.dropLast_subset _ hmem)
          rw [(CaselessClass.of_lt hx).lowerAt_eq (beq_self_eq_true c)] at hmem
          cases hmem
      | cons d rest =>
          have hne : lowerFrom (if isCaseIgnorable c then afterCased else isCased c) (d :: rest)
              ≠ [] := by
            rw [Ne, lowerFrom_eq_nil_iff]
            exact List.cons_ne_nil d rest
          rw [List.dropLast_append_of_ne_nil hne, List.mem_append, mem_lowerAt_iff hx, ih,
            List.dropLast_cons_of_ne_nil (List.cons_ne_nil d rest), List.mem_cons, eq_comm]

end Text

end LeadScreen
