import LeadScreen.Text.Basic
import Mathlib.Data.List.Basic
import Mathlib.Tactic.Tauto

set_option autoImplicit false

/-! # Cutting a text

Three ways to cut: behind the run of a class that a text begins with (`takeWhile`, `dropWhile`),
at the first occurrence of a character (`Text.cut?`), and at every character of a class
(`Text.splitWhere`). The last two only take separators out: the parts are stretches of the text,
and what is no separator is in one of them.
-/

namespace LeadScreen.Text

/-! ## Behind a run -/

section Run

variable {p : Char → Bool} {t run rest : Text} {c : Char}

/-- What is left of a text begins with the first character that was not dropped. -/
theorem not_of_head?_dropWhile (h : (t.dropWhile p).head? = some c) : p c = false := by
  have hnot := List.head?_dropWhile_not p t
  rw [h] at hnot
  exact hnot

theorem dropWhile_eq_self (h : ∀ c ∈ t.head?, p c = false) : t.dropWhile p = t := by
  cases t with
  | nil => rfl
  | cons c rest => rw [List.dropWhile_cons, h c rfl, if_neg Bool.false_ne_true]

theorem takeWhile_eq_nil (h : ∀ c ∈ t.head?, p c = false) : t.takeWhile p = [] := by
  cases t with
  | nil => rfl
  | cons c rest => rw [List.takeWhile_cons, h c rfl, if_neg Bool.false_ne_true]

/-- The run that a text begins with is the one first part that satisfies `p` throughout and ends
only where `p` does. -/
theorem run_iff : t.takeWhile p = run ∧ t.dropWhile p = rest ↔
    t = run ++ rest ∧ (∀ c ∈ run, p c = true) ∧ ∀ c ∈ rest.head?, p c = false := by
  constructor
  · rintro ⟨rfl, rfl⟩
    refine ⟨List.takeWhile_append_dropWhile.symm, fun c hc => ?_, fun c hc => ?_⟩
    · exact List.all_eq_true.mp List.all_takeWhile c hc
    · exact not_of_head?_dropWhile hc
  · rintro ⟨rfl, hrun, hrest⟩
    rw [List.takeWhile_append_of_pos hrun, List.dropWhile_append_of_pos hrun,
      takeWhile_eq_nil hrest, dropWhile_eq_self hrest, List.append_nil]
    exact ⟨rfl, rfl⟩

end Run

/-! ## At the first occurrence -/

theorem cut?_eq_none_iff {sep : Char} {t : Text} : cut? sep t = none ↔ sep ∉ t := by
  induction t with
  | nil => simp [cut?]
  | cons c rest ih =>
      unfold cut?
      by_cases hc : c = sep
      · simp [hc]
      · rw [if_neg hc, Option.map_eq_none_iff, ih, List.mem_cons, not_or]
        exact ⟨fun h => ⟨Ne.symm hc, h⟩, fun h => h.2⟩

/-- The cut is the one decomposition whose first part is free of the separator. -/
theorem cut?_eq_some_iff {sep : Char} {t before after : Text} :
    cut? sep t = some (before, after) ↔ t = before ++ sep :: after ∧ sep ∉ before := by
  induction t generalizing before with
  | nil => simp [cut?]
  | cons c rest ih =>
      unfold cut?
      by_cases hc : c = sep
      · rw [if_pos hc]
        constructor
        · intro h
          obtain ⟨rfl, rfl⟩ := Prod.mk.inj (Option.some.inj h)
          exact ⟨by rw [hc, List.nil_append], List.not_mem_nil⟩
        · rintro ⟨heq, hnot⟩
          cases before with
          | nil => rw [(List.cons.inj heq).2]
          | cons d before =>
              obtain rfl : c = d := (List.cons.inj heq).1
              exact absurd (hc ▸ List.mem_cons_self) hnot
      · rw [if_neg hc, Option.map_eq_some_iff]
        constructor
        · rintro ⟨⟨before', after'⟩, hcut, hparts⟩
          obtain ⟨rfl, rfl⟩ := Prod.mk.inj hparts
          obtain ⟨rfl, hnot⟩ := ih.mp hcut
          refine ⟨rfl, fun hmem => ?_⟩
          rcases List.mem_cons.mp hmem with h | h
          · exact hc h.symm
          · exact hnot h
        · rintro ⟨heq, hnot⟩
          cases before with
          | nil => exact absurd (List.cons.inj heq).1 hc
          | cons d before =>
              obtain ⟨rfl, hrest⟩ := List.cons.inj heq
              exact ⟨(before, after),
                ih.mpr ⟨hrest, fun h => hnot (List.mem_cons_of_mem _ h)⟩, rfl⟩

/-! ## At every separator -/

section Split

variable {p : Char → Bool} {t piece : Text}

/-- A character that is no separator goes to the front of the first piece. -/
theorem splitWhere_cons_of_not {c : Char} (hc : p c = false) (rest : Text) :
    ∃ first pieces, splitWhere p rest = first :: pieces
      ∧ splitWhere p (c :: rest) = (c :: first) :: pieces := by
  cases hs : splitWhere p rest with
  | nil => exact absurd hs (splitWhere_ne_nil p rest)
  | cons first pieces =>
      refine ⟨first, pieces, rfl, ?_⟩
      rw [splitWhere, if_neg (by simp [hc]), hs]

theorem splitWhere_cons_of_pos {c : Char} (hc : p c = true) (rest : Text) :
    splitWhere p (c :: rest) = [] :: splitWhere p rest := by
  rw [splitWhere, if_pos hc]

/-- The first piece stands at the start of the text. -/
theorem isPrefix_of_head_splitWhere (h : (splitWhere p t).head? = some piece) : piece <+: t := by
  induction t generalizing piece with
  | nil =>
      obtain rfl : [] = piece := by simpa [splitWhere] using h
      exact List.nil_prefix
  | cons c rest ih =>
      cases hc : p c with
      | true =>
          rw [splitWhere_cons_of_pos hc] at h
          obtain rfl : [] = piece := by simpa using h
          exact List.nil_prefix
      | false =>
          obtain ⟨first, pieces, hrest, hall⟩ := splitWhere_cons_of_not hc rest
          rw [hall] at h
          obtain rfl : c :: first = piece := by simpa using h
          exact List.cons_prefix_cons.mpr ⟨rfl, ih (by rw [hrest]; rfl)⟩

/-- Every piece is one stretch of the text. -/
theorem infix_of_mem_splitWhere (h : piece ∈ splitWhere p t) : piece <:+: t := by
  induction t generalizing piece with
  | nil =>
      obtain rfl : piece = [] := by simpa [splitWhere] using h
      exact List.nil_infix
  | cons c rest ih =>
      cases hc : p c with
      | true =>
          rw [splitWhere_cons_of_pos hc] at h
          rcases List.mem_cons.mp h with rfl | h
          · exact List.nil_infix
          · exact List.infix_cons (ih h)
      | false =>
          obtain ⟨first, pieces, hrest, hall⟩ := splitWhere_cons_of_not hc rest
          rw [hall] at h
          rcases List.mem_cons.mp h with rfl | h
          · exact (isPrefix_of_head_splitWhere (by rw [hall]; rfl)).isInfix
          · exact List.infix_cons (ih (by rw [hrest]; exact List.mem_cons_of_mem _ h))

/-- The characters of the pieces are those of the text that are no separators. -/
theorem exists_mem_splitWhere_iff {c : Char} :
    (∃ piece ∈ splitWhere p t, c ∈ piece) ↔ c ∈ t ∧ p c = false := by
  induction t with
  | nil => simp [splitWhere]
  | cons d rest ih =>
      cases hd : p d with
      | true =>
          rw [splitWhere_cons_of_pos hd, List.mem_cons]
          have hcd : ¬ (c = d ∧ p c = false) := by
            rintro ⟨rfl, hc⟩
            rw [hd] at hc
            exact Bool.noConfusion hc
          simp only [List.mem_cons, exists_eq_or_imp, List.not_mem_nil, false_or, ih]
          tauto
      | false =>
          obtain ⟨first, pieces, hrest, hall⟩ := splitWhere_cons_of_not hd rest
          rw [hrest] at ih
          simp only [hall, List.mem_cons, exists_eq_or_imp] at ih ⊢
          have hcd : c = d → p c = false := by
            rintro rfl
            exact hd
          rw [or_assoc, ih]
          tauto

theorem not_of_mem_splitWhere {c : Char} (h : piece ∈ splitWhere p t) (hc : c ∈ piece) :
    p c = false :=
  (exists_mem_splitWhere_iff.mp ⟨piece, h, hc⟩).2

end Split

/-! ## Before the end -/

/-- What stands before the last character has something behind it. -/
theorem mem_dropLast_iff {t : Text} {c : Char} :
    c ∈ t.dropLast ↔ ∃ front back, t = front ++ c :: back ∧ back ≠ [] := by
  constructor
  · intro h
    obtain ⟨front, back, hcut⟩ := List.append_of_mem h
    have hne : t ≠ [] := by
      rintro rfl
      exact List.not_mem_nil h
    refine ⟨front, back ++ [t.getLast hne], ?_, by simp⟩
    calc t = t.dropLast ++ [t.getLast hne] := (List.dropLast_append_getLast hne).symm
      _ = front ++ c :: (back ++ [t.getLast hne]) := by rw [hcut]; simp
  · rintro ⟨front, back, rfl, hback⟩
    rw [List.dropLast_append_of_ne_nil (List.cons_ne_nil c back),
      List.dropLast_cons_of_ne_nil hback]
    simp

/-! ## Stretches of a text -/

/-- A text is found in another exactly if it is a stretch of it. -/
theorem includes_iff {needle t : Text} : includes needle t = true ↔ needle <:+: t := by
  induction t with
  | nil => rw [includes, List.isEmpty_iff, List.infix_nil]
  | cons c rest ih =>
      rw [includes, Bool.or_eq_true, List.isPrefixOf_iff_prefix, ih, List.infix_cons_iff]

end LeadScreen.Text
