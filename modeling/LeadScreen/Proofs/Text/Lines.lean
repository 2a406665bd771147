import LeadScreen.Text.Lines
import Mathlib.Data.List.Basic

set_option autoImplicit false

/-! # The lines of joined texts

Texts that are joined by line feeds are the lines of what they make up (`exists_lines_joinWith`),
unless they have line boundaries themselves. Only an empty text at the end does not come back: the
line feed before it ends the line before it and opens none.
-/

namespace LeadScreen.Text

variable {t line begun rest sep : Text} {ls : List Text} {c : Char}

/-! ## Joining -/

@[simp] theorem joinWith_singleton (sep t : Text) : joinWith sep [t] = t :=
  List.intercalate_singleton

theorem joinWith_cons_cons (sep a b : Text) (ls : List Text) :
    joinWith sep (a :: b :: ls) = a ++ (sep ++ joinWith sep (b :: ls)) := by
  rw [joinWith, List.intercalate_cons_cons, List.append_assoc]
  rfl

theorem mem_joinWith (h : c ∈ joinWith sep ls) : c ∈ sep ∨ ∃ t ∈ ls, c ∈ t := by
  induction ls with
  | nil => cases h
  | cons t ls ih =>
      cases ls with
      | nil =>
          rw [joinWith_singleton] at h
          exact Or.inr ⟨t, List.mem_cons_self, h⟩
      | cons next ls =>
          rw [joinWith_cons_cons, List.mem_append, List.mem_append] at h
          rcases h with h | h | h
          · exact Or.inr ⟨t, List.mem_cons_self, h⟩
          · exact Or.inl h
          · obtain hsep | ⟨u, hu, hc⟩ := ih h
            · exact Or.inl hsep
            · exact Or.inr ⟨u, List.mem_cons_of_mem t hu, hc⟩

theorem mem_joinWith_of_mem (sep : Text) (ht : t ∈ ls) (hc : c ∈ t) : c ∈ joinWith sep ls := by
  induction ls with
  | nil => cases ht
  | cons first ls ih =>
      cases ls with
      | nil =>
          rw [joinWith_singleton, ← List.mem_singleton.mp ht]
          exact hc
      | cons next ls =>
          rw [joinWith_cons_cons, List.mem_append, List.mem_append]
          rcases List.mem_cons.mp ht with rfl | ht
          · exact Or.inl hc
          · exact Or.inr (Or.inr (ih ht))

/-! ## Lines -/

/-- A character goes to the line that has begun, or it ends that line. -/
theorem linesFrom_cons (hc : c ≠ '\r') (begun rest : Text) :
    linesFrom begun (c :: rest)
      = if isLineBoundary c then begun.reverse :: linesFrom [] rest
        else linesFrom (c :: begun) rest := by
  conv_lhs => unfold linesFrom
  split
  · rename_i heq
    cases heq
  · rename_i heq
    exact absurd (List.cons.inj heq).1 hc
  · rename_i heq
    cases heq
    rfl

/-- What has no line boundary goes to the line that has begun. -/
theorem linesFrom_append (hline : ∀ c ∈ line, isLineBoundary c = false) (begun rest : Text) :
    linesFrom begun (line ++ rest) = linesFrom (line.reverse ++ begun) rest := by
  induction line generalizing begun with
  | nil => rfl
  | cons c line ih =>
      have hc := hline c List.mem_cons_self
      have hreturn : c ≠ '\r' := by
        rintro rfl
        cases hc
      rw [List.cons_append, linesFrom_cons hreturn, hc, if_neg Bool.false_ne_true,
        ih (fun d hd => hline d (List.mem_cons_of_mem c hd)), List.reverse_cons,
        List.append_assoc, List.singleton_append]

/-- A text without line boundaries is one line, if there is anything in it. -/
theorem lines_of_forall_not (hline : ∀ c ∈ line, isLineBoundary c = false) (hne : line ≠ []) :
    lines line = [line] := by
  have hend : linesFrom [] line
      = if line.reverse.isEmpty then [] else [line.reverse.reverse] := by
    have happend := linesFrom_append hline [] []
    rwa [List.append_nil, List.append_nil] at happend
  rw [lines, hend, if_neg (by simpa using hne), List.reverse_reverse]

/-- A line feed ends a line. -/
theorem lines_append_cons (hline : ∀ c ∈ line, isLineBoundary c = false) (rest : Text) :
    lines (line ++ '\n' :: rest) = line :: lines rest := by
  rw [lines, linesFrom_append hline, List.append_nil, linesFrom_cons (by decide),
    if_pos (by decide), List.reverse_reverse]
  rfl

/-- **Joined lines are the lines of the text that they make up**, but for an empty one at its
end. -/
theorem exists_lines_joinWith (h : ∀ line ∈ ls, ∀ c ∈ line, isLineBoundary c = false) :
    ∃ lost, ls = lines (joinWith ['\n'] ls) ++ lost ∧ ∀ line ∈ lost, line = [] := by
  induction ls with
  | nil => exact ⟨[], rfl, nofun⟩
  | cons line ls ih =>
      have hline := h line List.mem_cons_self
      cases ls with
      | nil =>
          rw [joinWith_singleton]
          by_cases hne : line = []
          · exact ⟨[line], by rw [hne]; rfl, fun l hl => (List.mem_singleton.mp hl).trans hne⟩
          · exact ⟨[], by rw [lines_of_forall_not hline hne, List.append_nil], nofun⟩
      | cons next ls =>
          obtain ⟨lost, hls, hlost⟩ := ih fun l hl => h l (List.mem_cons_of_mem line hl)
          refine ⟨lost, ?_, hlost⟩
          rw [joinWith_cons_cons, List.singleton_append, lines_append_cons hline,
            List.cons_append, ← hls]

/-! ## Line feeds only -/

theorem withLineFeeds_cons (hc : c ≠ '\r') (t : Text) :
    withLineFeeds (c :: t) = c :: withLineFeeds t := by
  rw [withLineFeeds]
  · exact fun rest hreturn => absurd hreturn hc
  · exact hc

/-- A text without carriage returns stays as it is. -/
theorem withLineFeeds_of_not_mem (h : '\r' ∉ t) : withLineFeeds t = t := by
  induction t with
  | nil => rfl
  | cons c t ih =>
      rw [List.mem_cons, not_or] at h
      rw [withLineFeeds_cons (Ne.symm h.1), ih h.2]

theorem not_mem_withLineFeeds (t : Text) : '\r' ∉ withLineFeeds t := by
  fun_induction withLineFeeds t with
  | case1 => exact List.not_mem_nil
  | case2 rest ih => exact List.not_mem_cons_of_ne_of_not_mem (by decide) ih
  | case3 rest _ ih => exact List.not_mem_cons_of_ne_of_not_mem (by decide) ih
  | case4 c rest _ hc ih => exact List.not_mem_cons_of_ne_of_not_mem (Ne.symm hc) ih

theorem length_withLineFeeds_le (t : Text) : (withLineFeeds t).length ≤ t.length := by
  fun_induction withLineFeeds t with
  | case1 => exact Nat.le_refl 0
  | case2 rest ih =>
      simp only [List.length_cons]
      omega
  | case3 rest _ ih => exact Nat.succ_le_succ ih
  | case4 c rest _ hc ih => exact Nat.succ_le_succ ih

theorem withLineFeeds_eq_nil_iff : withLineFeeds t = [] ↔ t = [] := by
  fun_cases withLineFeeds t with
  | case1 => exact Iff.rfl
  | case2 rest => exact iff_of_false nofun nofun
  | case3 rest => exact iff_of_false nofun nofun
  | case4 c rest => exact iff_of_false nofun nofun

/-- A character that has no part in the end of a line starts the text before and after. -/
theorem head?_withLineFeeds_eq_some_iff (hr : c ≠ '\r') (hn : c ≠ '\n') :
    (withLineFeeds t).head? = some c ↔ t.head? = some c := by
  fun_cases withLineFeeds t with
  | case1 => exact Iff.rfl
  | case2 rest => simp [Ne.symm hr, Ne.symm hn]
  | case3 rest => simp [Ne.symm hr, Ne.symm hn]
  | case4 c' rest => exact Iff.rfl

end LeadScreen.Text
