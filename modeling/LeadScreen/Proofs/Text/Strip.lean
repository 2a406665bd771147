import LeadScreen.Proofs.Text.Cut
import LeadScreen.Text.Blank
import Mathlib.Data.List.DropRight

set_option autoImplicit false

/-! # Stripping the ends of a text

`Text.stripWhere p` takes the characters that satisfy `p` off both ends of a text; trimming is
the case of the blanks. What is left is one stretch of the text whose ends do not satisfy `p`
(`Stripped`), and the texts with such ends are exactly those that stripping leaves alone.
-/

namespace LeadScreen.Text

variable {p : Char → Bool} {t : Text} {c : Char}

/-- Neither end of the text satisfies `p`. -/
def Stripped (p : Char → Bool) (t : Text) : Prop :=
  (∀ c ∈ t.head?, p c = false) ∧ ∀ c ∈ t.getLast?, p c = false

theorem stripWhere_isPrefix (p : Char → Bool) (t : Text) : stripWhere p t <+: t.dropWhile p :=
  List.rdropWhile_prefix p (t.dropWhile p)

theorem stripWhere_isInfix (p : Char → Bool) (t : Text) : stripWhere p t <:+: t :=
  (stripWhere_isPrefix p t).isInfix.trans (List.dropWhile_suffix p).isInfix

theorem stripped_stripWhere (p : Char → Bool) (t : Text) : Stripped p (stripWhere p t) := by
  constructor
  · intro c hc
    obtain ⟨rest, hrest⟩ := stripWhere_isPrefix p t
    refine not_of_head?_dropWhile (t := t) ?_
    rw [← hrest, List.head?_append, hc, Option.some_or]
  · intro c hc
    rw [stripWhere, List.getLast?_reverse] at hc
    exact not_of_head?_dropWhile hc

theorem stripWhere_eq_self_iff : stripWhere p t = t ↔ Stripped p t := by
  constructor
  · intro h
    rw [← h]
    exact stripped_stripWhere p t
  · rintro ⟨hhead, hlast⟩
    have hrev : t.reverse.dropWhile p = t.reverse := by
      refine dropWhile_eq_self fun c hc => hlast c ?_
      rwa [List.head?_reverse] at hc
    rw [stripWhere, dropWhile_eq_self hhead, hrev, List.reverse_reverse]

theorem stripWhere_stripWhere (p : Char → Bool) (t : Text) :
    stripWhere p (stripWhere p t) = stripWhere p t :=
  stripWhere_eq_self_iff.mpr (stripped_stripWhere p t)

/-- Everything is stripped off exactly the texts that hold nothing else. -/
theorem stripWhere_eq_nil_iff : stripWhere p t = [] ↔ ∀ c ∈ t, p c = true := by
  constructor
  · intro h
    have hdrop : ∀ c ∈ t.dropWhile p, p c = true := List.rdropWhile_eq_nil_iff.mp h
    refine List.dropWhile_eq_nil_iff.mp ?_
    -- a rest would begin with a character that does not satisfy `p`
    by_contra hne
    have hhead := List.head_dropWhile_not p hne
    rw [hdrop _ (List.head_mem hne)] at hhead
    exact Bool.noConfusion hhead
  · intro h
    refine List.rdropWhile_eq_nil_iff.mpr fun c hc => h c ?_
    exact (List.dropWhile_suffix p).subset hc

/-- Stripping takes two runs off, one at each end. -/
theorem exists_stripWhere_eq (p : Char → Bool) (t : Text) :
    ∃ front back, t = front ++ stripWhere p t ++ back
      ∧ (∀ c ∈ front, p c = true) ∧ ∀ c ∈ back, p c = true := by
  refine ⟨t.takeWhile p, (t.dropWhile p).rtakeWhile p, ?_,
    fun c hc => List.all_eq_true.mp List.all_takeWhile c hc,
    fun c hc => List.mem_rtakeWhile_imp hc⟩
  calc t = t.takeWhile p ++ t.dropWhile p := List.takeWhile_append_dropWhile.symm
    _ = t.takeWhile p ++ ((t.dropWhile p).rdropWhile p ++ (t.dropWhile p).rtakeWhile p) := by
        rw [List.rdropWhile_append_rtakeWhile]
    _ = t.takeWhile p ++ stripWhere p t ++ (t.dropWhile p).rtakeWhile p :=
        (List.append_assoc _ _ _).symm

/-- The run that a text ends in goes back as far as it can; it may be empty. -/
theorem exists_run_at_end (p : Char → Bool) (t : Text) :
    ∃ front run, t = front ++ run ∧ (∀ c ∈ run, p c = true) ∧ ∀ c ∈ front.getLast?, p c = false := by
  refine ⟨t.rdropWhile p, t.rtakeWhile p, List.rdropWhile_append_rtakeWhile.symm,
    fun c hc => List.mem_rtakeWhile_imp hc, fun c hc => ?_⟩
  have hne := List.ne_nil_of_mem (List.mem_of_mem_getLast? hc)
  have hnot := List.rdropWhile_last_not p t hne
  rw [List.getLast?_eq_getLast_of_ne_nil hne] at hc
  rw [Option.some.inj hc] at hnot
  simpa using hnot

/-! ## Trimming -/

theorem trim_eq_stripWhere (t : Text) : t.trim = stripWhere isBlank t := rfl

theorem trim_isInfix (t : Text) : t.trim <:+: t :=
  stripWhere_isInfix isBlank t

theorem mem_of_mem_trim (h : c ∈ t.trim) : c ∈ t :=
  (trim_isInfix t).subset h

@[simp] theorem trim_trim (t : Text) : t.trim.trim = t.trim :=
  stripWhere_stripWhere isBlank t

@[simp] theorem trim_trimStart (t : Text) : t.trimStart.trim = t.trim := by
  show trimEnd ((t.dropWhile isBlank).dropWhile isBlank) = _
  rw [List.dropWhile_idempotent]
  rfl

theorem blank_of_allBlank (h : t.allBlank = true) : ∀ c ∈ t, isBlank c = true :=
  List.all_eq_true.mp h

theorem trim_eq_nil_iff : t.trim = [] ↔ t.allBlank = true := by
  rw [trim_eq_stripWhere, stripWhere_eq_nil_iff, allBlank, List.all_eq_true]

/-- Blanks behind a text do not show when it is trimmed. -/
theorem trim_append_of_blank {blanks : Text} (h : ∀ c ∈ blanks, isBlank c = true) :
    (t ++ blanks).trim = t.trim := by
  have hend : ∀ rest : Text, trimEnd (rest ++ blanks) = trimEnd rest := fun rest => by
    have hrev : ∀ c ∈ blanks.reverse, isBlank c = true := fun c hc => h c (List.mem_reverse.mp hc)
    rw [trimEnd, List.reverse_append, List.dropWhile_append_of_pos hrev]
    rfl
  rw [trim, trimStart, List.dropWhile_append]
  by_cases hnone : (t.dropWhile isBlank).isEmpty
  · -- a text of blanks, and more of them behind it
    have hall : blanks.dropWhile isBlank = [] := List.dropWhile_eq_nil_iff.mpr h
    rw [if_pos hnone, hall, trim, trimStart, List.isEmpty_iff.mp hnone]
  · rw [if_neg hnone, hend]
    rfl

/-- Nor do blanks before it. -/
theorem trim_blank_append {blanks : Text} (h : ∀ c ∈ blanks, isBlank c = true) :
    (blanks ++ t).trim = t.trim := by
  rw [trim, trimStart, List.dropWhile_append_of_pos h]
  rfl

theorem trim_cons_of_blank (hc : isBlank c = true) (t : Text) : trim (c :: t) = t.trim := by
  rw [trim, trimStart, List.dropWhile_cons, if_pos hc]
  rfl

@[simp] theorem trim_trimEnd (t : Text) : t.trimEnd.trim = t.trim := by
  have hblank : ∀ c ∈ (t.reverse.takeWhile isBlank).reverse, isBlank c = true := fun c hc =>
    List.all_eq_true.mp List.all_takeWhile c (List.mem_reverse.mp hc)
  have hsplit : t.trimEnd ++ (t.reverse.takeWhile isBlank).reverse = t := by
    rw [trimEnd, ← List.reverse_append, List.takeWhile_append_dropWhile, List.reverse_reverse]
  rw [← trim_append_of_blank hblank, hsplit]

/-- What stands before a character that is not blank is out of reach from the end. -/
theorem trimEnd_append_cons (hc : isBlank c = false) (a b : Text) :
    trimEnd (a ++ c :: b) = a ++ c :: trimEnd b := by
  have hstop : (c :: a.reverse).dropWhile isBlank = c :: a.reverse :=
    dropWhile_eq_self fun d hd => Option.some.inj hd ▸ hc
  have hrev : (a ++ c :: b).reverse = b.reverse ++ c :: a.reverse := by simp
  rw [trimEnd, trimEnd, hrev, List.dropWhile_append, hstop]
  by_cases hnone : (b.reverse.dropWhile isBlank).isEmpty
  · rw [if_pos hnone, List.isEmpty_iff.mp hnone]
    simp
  · rw [if_neg hnone]
    simp

/-- A character that is not blank keeps the two ends apart. -/
theorem trim_append_cons (hc : isBlank c = false) (a b : Text) :
    trim (a ++ c :: b) = trimStart a ++ c :: trimEnd b := by
  have hstart : trimStart (a ++ c :: b) = trimStart a ++ c :: b := by
    rw [trimStart, List.dropWhile_append]
    by_cases hnone : (a.dropWhile isBlank).isEmpty
    · rw [if_pos hnone, dropWhile_eq_self fun d hd => Option.some.inj hd ▸ hc, trimStart,
        List.isEmpty_iff.mp hnone, List.nil_append]
    · rw [if_neg hnone]
      rfl
  rw [trim, hstart, trimEnd_append_cons hc]

end LeadScreen.Text
