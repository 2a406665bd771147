import LeadScreen.Proofs.Text.Key
import LeadScreen.Proofs.Text.Lower
import LeadScreen.Proofs.Text.Words
import Mathlib.Logic.Relation

set_option autoImplicit false

/-! # Spellings of a text

A text may be written in other letter case, with other blanks around it and with other gaps between
its words (`Respelled`). All its spellings have one canonical form, the text in lower case, trimmed,
with single spaces between its words (`canonical_eq_of_respelled`). Lower case and trimming alone
undo what is done to case and ends (`Recased`), but they leave gaps as they are; the two forms
are the same only where a text has no gaps (`lower_trim_eq_of_canonical_eq`).
-/

namespace LeadScreen.Text

variable {p : Char → Bool} {mark c : Char} {t a b front back gap gap' : Text} {inRun : Bool}

/-- The text has no blank, so that it is one word or none. -/
def Solid (t : Text) : Prop :=
  ∀ c ∈ t, isBlank c = false

instance (t : Text) : Decidable (Solid t) :=
  decidable_of_iff (t.all (fun c => !isBlank c) = true) (by simp [Solid])

/-- **The canonical form of a text**: in lower case, trimmed, with single spaces inside. -/
def canonical (t : Text) : Text :=
  trim (collapse isBlank ' ' (lower t))

/-! ## Spellings -/

/-- A change to the case of ASCII letters or to the blanks around a text. -/
inductive Recasing : Text → Text → Prop where
  | letters {a b : Text} (h : a.map Char.toLower = b.map Char.toLower) : Recasing a b
  | ends {front t back : Text} (hfront : ∀ c ∈ front, isBlank c = true)
      (hback : ∀ c ∈ back, isBlank c = true) : Recasing t (front ++ t ++ back)

/-- A change to case or ends, or to a gap, which stays one. -/
inductive Respelling : Text → Text → Prop where
  | recasing {a b : Text} (h : Recasing a b) : Respelling a b
  | gap {a gap gap' b : Text} (hgap : ∀ c ∈ gap, isBlank c = true)
      (hgap' : ∀ c ∈ gap', isBlank c = true) (hne : gap ≠ []) (hne' : gap' ≠ []) :
      Respelling (a ++ gap ++ b) (a ++ gap' ++ b)

/-- Two texts differ in case and ends. -/
abbrev Recased : Text → Text → Prop := Relation.EqvGen Recasing

/-- **Two texts are spellings of each other**: they differ in case, in ends and in gaps. -/
abbrev Respelled : Text → Text → Prop := Relation.EqvGen Respelling

/-! ## Collapsing with gaps and ends changed -/

theorem collapseFrom_of_forall_not (h : ∀ c ∈ t, p c = false) (inRun : Bool) :
    collapseFrom p mark inRun t = t := by
  induction t generalizing inRun with
  | nil => rfl
  | cons c rest ih =>
      rw [collapseFrom, h c List.mem_cons_self, if_neg Bool.false_ne_true,
        ih fun d hd => h d (List.mem_cons_of_mem c hd)]

theorem collapseFrom_true_append (h : ∀ c ∈ gap, p c = true) (t : Text) :
    collapseFrom p mark true (gap ++ t) = collapseFrom p mark true t := by
  induction gap with
  | nil => rfl
  | cons c gap ih =>
      rw [List.cons_append, collapseFrom, if_pos (h c List.mem_cons_self), if_pos rfl,
        ih fun d hd => h d (List.mem_cons_of_mem c hd)]

/-- A run becomes one mark, or none where it continues a run. -/
theorem collapseFrom_run_append (h : ∀ c ∈ gap, p c = true) (hne : gap ≠ []) (inRun : Bool)
    (t : Text) : collapseFrom p mark inRun (gap ++ t)
      = (if inRun then [] else [mark]) ++ collapseFrom p mark true t := by
  obtain ⟨c, gap, rfl⟩ := List.exists_cons_of_ne_nil hne
  rw [List.cons_append, collapseFrom, if_pos (h c List.mem_cons_self),
    collapseFrom_true_append fun d hd => h d (List.mem_cons_of_mem c hd)]
  cases inRun <;> rfl

theorem collapseFrom_gap (hgap : ∀ c ∈ gap, p c = true) (hgap' : ∀ c ∈ gap', p c = true)
    (hne : gap ≠ []) (hne' : gap' ≠ []) (inRun : Bool) (a b : Text) :
    collapseFrom p mark inRun (a ++ (gap ++ b)) = collapseFrom p mark inRun (a ++ (gap' ++ b)) := by
  induction a generalizing inRun with
  | nil =>
      rw [List.nil_append, List.nil_append, collapseFrom_run_append hgap hne,
        collapseFrom_run_append hgap' hne']
  | cons c a ih =>
      rw [List.cons_append, List.cons_append, collapseFrom, collapseFrom, ih, ih]

/-- Blanks behind a text leave blanks behind what it collapses to. -/
theorem exists_collapseFrom_append (hback : ∀ c ∈ back, isBlank c = true) (inRun : Bool)
    (t : Text) : ∃ back' : Text, (∀ c ∈ back', isBlank c = true)
      ∧ collapseFrom isBlank ' ' inRun (t ++ back) = collapseFrom isBlank ' ' inRun t ++ back' := by
  induction t generalizing inRun with
  | nil =>
      refine ⟨collapseFrom isBlank ' ' inRun back, fun c hc => ?_, rfl⟩
      rcases mem_collapseFrom hc with rfl | ⟨hmem, hnot⟩
      · decide
      · rw [hback c hmem] at hnot
        cases hnot
  | cons c t ih =>
      rw [List.cons_append, collapseFrom, collapseFrom]
      split
      · obtain ⟨back', hblank, hrest⟩ := ih true
        refine ⟨back', hblank, ?_⟩
        rw [hrest]
        cases inRun <;> rfl
      · obtain ⟨back', hblank, hrest⟩ := ih false
        exact ⟨back', hblank, by rw [hrest, List.cons_append]⟩

theorem trim_collapseFrom_true (t : Text) :
    trim (collapseFrom isBlank ' ' true t) = trim (collapse isBlank ' ' t) := by
  cases t with
  | nil => rfl
  | cons c t =>
      rw [collapse, collapseFrom, collapseFrom]
      split
      · exact (trim_cons_of_blank (by decide) _).symm
      · rfl

/-- Blanks around a text do not show when it is collapsed and trimmed. -/
theorem trim_collapse_ends (hfront : ∀ c ∈ front, isBlank c = true)
    (hback : ∀ c ∈ back, isBlank c = true) (t : Text) :
    trim (collapse isBlank ' ' (front ++ t ++ back)) = trim (collapse isBlank ' ' t) := by
  obtain ⟨back', hblank, happend⟩ := exists_collapseFrom_append hback false (front ++ t)
  rw [collapse, happend, trim_append_of_blank hblank]
  by_cases hne : front = []
  · rw [hne, List.nil_append]
    rfl
  · rw [collapseFrom_run_append hfront hne, if_neg Bool.false_ne_true,
      List.singleton_append, trim_cons_of_blank (by decide), trim_collapseFrom_true]

/-! ## Runs in a collapsed text -/

/-- A run of other characters than blanks is left as it is, and so is where it ends. -/
theorem takeWhile_collapse (hp : ∀ c, isBlank c = true → p c = false) (t : Text) :
    (collapse isBlank ' ' t).takeWhile p = t.takeWhile p := by
  induction t with
  | nil => rfl
  | cons c t ih =>
      rw [collapse, collapseFrom]
      cases hc : isBlank c with
      | true =>
          rw [if_pos rfl, if_neg Bool.false_ne_true, List.takeWhile_cons, hp ' ' (by decide),
            List.takeWhile_cons, hp c hc]
          rfl
      | false =>
          rw [if_neg Bool.false_ne_true, List.takeWhile_cons, List.takeWhile_cons, ← ih]
          rfl

theorem dropWhile_collapse (hp : ∀ c, isBlank c = true → p c = false) (t : Text) :
    (collapse isBlank ' ' t).dropWhile p = collapse isBlank ' ' (t.dropWhile p) := by
  induction t with
  | nil => rfl
  | cons c t ih =>
      rw [List.dropWhile_cons]
      cases hc : isBlank c with
      | true =>
          rw [hp c hc, if_neg Bool.false_ne_true, collapse, collapseFrom, if_pos hc,
            if_neg Bool.false_ne_true, List.dropWhile_cons, hp ' ' (by decide),
            if_neg Bool.false_ne_true]
      | false =>
          rw [collapse, collapseFrom, hc, if_neg Bool.false_ne_true, List.dropWhile_cons]
          split
          · exact ih
          · rw [collapse, collapseFrom, hc, if_neg Bool.false_ne_true]

theorem head?_trimStart_collapseFrom (inRun : Bool) (t : Text) :
    (trimStart (collapseFrom isBlank ' ' inRun t)).head? = (trimStart t).head? := by
  induction t generalizing inRun with
  | nil => rfl
  | cons c t ih =>
      cases hc : isBlank c with
      | true =>
          have hskip : trimStart (c :: t) = trimStart t := by
            rw [trimStart, List.dropWhile_cons, hc, if_pos rfl]
            rfl
          rw [hskip, ← ih true, collapseFrom, if_pos hc]
          cases inRun <;> rfl
      | false =>
          rw [collapseFrom, hc, if_neg Bool.false_ne_true, trimStart, List.dropWhile_cons, hc,
            if_neg Bool.false_ne_true, trimStart, List.dropWhile_cons, hc,
            if_neg Bool.false_ne_true, List.head?_cons, List.head?_cons]

/-! ## The canonical form -/

theorem lower_ends (hfront : ∀ c ∈ front, isBlank c = true) (hback : ∀ c ∈ back, isBlank c = true)
    (t : Text) : lower (front ++ t ++ back) = front ++ lower t ++ back := by
  rw [lower_append_blank _ hback, lower_blank_append hfront]

theorem lower_gap (hgap : ∀ c ∈ gap, isBlank c = true) (hne : gap ≠ []) (a b : Text) :
    lower (a ++ gap ++ b) = lower a ++ (gap ++ lower b) := by
  obtain ⟨c, gap, rfl⟩ := List.exists_cons_of_ne_nil hne
  rw [List.append_assoc, List.cons_append, lower_append_cons (hgap c List.mem_cons_self),
    lower_blank_append fun d hd => hgap d (List.mem_cons_of_mem c hd)]
  rfl

theorem lower_trim_eq_of_recasing (h : Recasing a b) : lower a.trim = lower b.trim := by
  rw [← trim_lower, ← trim_lower]
  cases h with
  | letters h => rw [lower_congr h]
  | ends hfront hback =>
      rw [lower_ends hfront hback, trim_append_of_blank hback, trim_blank_append hfront]

/-- **Case and ends do not show in lower case and trimmed.** -/
theorem lower_trim_eq_of_recased (h : Recased a b) : lower a.trim = lower b.trim :=
  (eq_equivalence.comap fun t : Text => lower t.trim).eqvGen_iff.mp
    (h.mono fun _ _ => lower_trim_eq_of_recasing)

theorem canonical_eq_of_respelling (h : Respelling a b) : canonical a = canonical b := by
  unfold canonical
  cases h with
  | recasing h =>
      cases h with
      | letters h => rw [lower_congr h]
      | ends hfront hback => rw [lower_ends hfront hback, trim_collapse_ends hfront hback]
  | gap hgap hgap' hne hne' =>
      rw [lower_gap hgap hne, lower_gap hgap' hne', collapse, collapse,
        collapseFrom_gap hgap hgap' hne hne']

/-- **All spellings of a text have one canonical form.** -/
theorem canonical_eq_of_respelled (h : Respelled a b) : canonical a = canonical b :=
  (eq_equivalence.comap canonical).eqvGen_iff.mp (h.mono fun _ _ => canonical_eq_of_respelling)

theorem canonical_trim (t : Text) : canonical t.trim = canonical t := by
  obtain ⟨front, back, hsplit, hfront, hback⟩ := exists_stripWhere_eq isBlank t
  have h := canonical_eq_of_respelling (.recasing (.ends (t := t.trim) hfront hback))
  rw [h]
  exact congrArg canonical hsplit.symm

theorem canonical_lower (t : Text) : canonical (lower t) = canonical t := by
  rw [canonical, lower_lower, canonical]

theorem mem_canonical (h : c ∈ canonical t) : Lowered c ∧ (isBlank c = true → c = ' ') := by
  rcases mem_collapseFrom (mem_of_mem_trim h) with rfl | ⟨hmem, hnot⟩
  · exact ⟨CaselessClass.blanks.lowered (by decide), fun _ => rfl⟩
  · refine ⟨lowered_of_mem_lower hmem, fun hblank => ?_⟩
    rw [hblank] at hnot
    cases hnot

/-- **The canonical form is a normal form.** -/
theorem canonical_canonical (t : Text) : canonical (canonical t) = canonical t := by
  have hlower : lower (canonical t) = canonical t :=
    lowerFrom_of_lowered (fun c hc => (mem_canonical hc).1) false
  have hchain : (canonical t).IsChain fun a b => a = ' ' → b ≠ ' ' :=
    List.IsChain.infix (isChain_collapseFrom (by decide) false (lower t)).1 (trim_isInfix _)
  have hcollapse : collapse isBlank ' ' (canonical t) = canonical t :=
    collapseFrom_eq_self (fun c hc => (mem_canonical hc).2) hchain nofun
  rw [canonical, hlower, hcollapse]
  exact trim_trim _

/-- The words of the canonical form are those of the text in lower case. -/
theorem words_canonical (t : Text) : words isBlank (canonical t) = words isBlank (lower t.trim) := by
  rw [← trim_lower, trim_eq_stripWhere, words_stripWhere fun _ => id, canonical,
    trim_eq_stripWhere, words_stripWhere fun _ => id,
    words_collapse (fun _ => id) (show isBlank ' ' = true by decide)]

theorem canonical_eq_nil_iff : canonical t = [] ↔ t.trim = [] := by
  have hnil : ∀ u : Text, Stripped isBlank u → (u = [] ↔ words isBlank u = []) := by
    intro u hu
    rw [words_eq_nil_iff, ← stripWhere_eq_nil_iff, stripWhere_eq_self_iff.mpr hu]
  have hlower : lower t.trim = [] ↔ t.trim = [] := lower_eq_nil_iff
  rw [← hlower, hnil (canonical t) (stripped_stripWhere _ _), words_canonical,
    ← hnil (lower t.trim) (stripped_lower_trim t)]

/-! ## Texts without gaps -/

theorem canonical_of_solid (h : Solid (lower t.trim)) : canonical t = lower t.trim := by
  rw [← canonical_trim, canonical, collapse, collapseFrom_of_forall_not h, trim_lower, trim_trim]

/-- A text with a gap has it in its canonical form. -/
theorem solid_of_solid_canonical (h : Solid (canonical t)) : Solid (lower t.trim) := by
  intro c hc
  by_contra hblank
  rw [Bool.not_eq_false] at hblank
  have hne : canonical t ≠ [] := by
    rw [Ne, canonical_eq_nil_iff, ← lower_eq_nil_iff]
    exact List.ne_nil_of_mem hc
  have htwo := two_le_length_words (stripped_lower_trim t) hc hblank
  rw [← words_canonical, words_of_forall_not h hne, List.length_singleton] at htwo
  omega

/-- **Without gaps, texts of one canonical form are the same in lower case and trimmed.** -/
theorem lower_trim_eq_of_canonical_eq (h : canonical a = canonical b) (hsolid : Solid (lower a.trim)) :
    lower b.trim = lower a.trim := by
  have ha := canonical_of_solid hsolid
  have hb : Solid (lower b.trim) := by
    refine solid_of_solid_canonical ?_
    rw [← h, ha]
    exact hsolid
  rw [← canonical_of_solid hb, ← h, ha]

/-- A demand without gaps is found in all spellings of a text or in none. -/
theorem includes_congr {needle : Text} (hneedle : Solid needle) (h : canonical a = canonical b) :
    includes needle (lower a.trim) = includes needle (lower b.trim) := by
  rw [Bool.eq_iff_iff, includes_iff, includes_iff]
  by_cases hne : needle = []
  · rw [hne]
    exact iff_of_true (List.nil_infix) (List.nil_infix)
  · rw [infix_iff_exists_word hneedle hne, infix_iff_exists_word hneedle hne, ← words_canonical,
      ← words_canonical, h]

end LeadScreen.Text
