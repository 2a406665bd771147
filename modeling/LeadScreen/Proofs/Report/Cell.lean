import LeadScreen.Proofs.Text.Lines
import LeadScreen.Report.Sheet

set_option autoImplicit false

/-! # Texts in the cells of a report

A cell keeps the beginning of a text (`keptCell`) and refuses it only for a control character in
there (`IsWritable`). All of a text is in its cell if it is short enough (`Fits`), and a workbook gives
it back unless it takes it for a formula (`stored_keptCell`). From a file a text comes back as it is
(`backCell_eq_plainCell_iff`) only if it has no carriage return either, and the file can be read only
if what the cells keep can stand in markup (`IsReadable`).
-/

namespace LeadScreen.Report

open Table

variable {t : Text}

/-! ## What a cell keeps -/

def keptCell (t : Text) : Cell :=
  .text (t.take cellLimit)

/-- What a cell keeps of the text holds no control character. -/
def IsWritable (t : Text) : Prop :=
  ∀ c ∈ t.take cellLimit, isRefused c = false

theorem isWritable_iff : IsWritable t ↔ (t.take cellLimit).any isRefused = false := by
  simp [IsWritable]

instance (t : Text) : Decidable (IsWritable t) :=
  decidable_of_iff _ isWritable_iff.symm

theorem writeCell_eq_ok_iff {cell : Cell} :
    writeCell t = .ok cell ↔ IsWritable t ∧ cell = keptCell t := by
  rw [writeCell, isWritable_iff]
  cases (t.take cellLimit).any isRefused with
  | true => simp
  | false => simp [keptCell, eq_comm]

/-- A cell keeps all of a text exactly if it is short enough. -/
theorem keptCell_eq_text_iff : keptCell t = .text t ↔ t.length ≤ cellLimit := by
  rw [keptCell, Cell.text.injEq]
  constructor
  · intro h
    have hlength := congrArg List.length h
    rw [List.length_take] at hlength
    omega
  · exact List.take_of_length_le

/-- The text fits into a cell as it is. -/
structure Fits (t : Text) : Prop where
  short : t.length ≤ cellLimit
  clean : ∀ c ∈ t, isRefused c = false

theorem fits_iff : Fits t ↔ IsWritable t ∧ t.length ≤ cellLimit := by
  constructor
  · intro h
    exact ⟨fun c hc => h.clean c (List.mem_of_mem_take hc), h.short⟩
  · rintro ⟨hwritable, hshort⟩
    rw [IsWritable, List.take_of_length_le hshort] at hwritable
    exact ⟨hshort, hwritable⟩

instance (t : Text) : Decidable (Fits t) :=
  decidable_of_iff (t.length ≤ cellLimit ∧ (t.all fun c => !isRefused c) = true)
    ⟨fun h => ⟨h.1, by simpa using h.2⟩, fun h => ⟨h.short, by simpa using h.clean⟩⟩

/-! ## What a workbook gives back -/

/-- A workbook takes the text for a formula. -/
def IsFormula (t : Text) : Prop :=
  t.head? = some '=' ∧ 1 < t.length

instance (t : Text) : Decidable (IsFormula t) :=
  inferInstanceAs (Decidable (t.head? = some '=' ∧ 1 < t.length))

/-- The cell that shows the text. -/
def plainCell (t : Text) : Cell :=
  if t.isEmpty then .blank else .text t

theorem shown_plainCell (t : Text) : (plainCell t).shown = t.trim := by
  cases t with
  | nil => rfl
  | cons c t => rfl

theorem plainCell_of_isFormula (h : IsFormula t) : plainCell t = .text t := by
  cases t with
  | nil => exact nomatch h.1
  | cons c t => rfl

/-- What is kept of a text is taken for a formula exactly if the text is. -/
theorem isFormula_take_iff : IsFormula (t.take cellLimit) ↔ IsFormula t := by
  rw [IsFormula, IsFormula, List.head?_take, if_neg (by decide), List.length_take]
  have hmin : 1 < min cellLimit t.length ↔ 1 < t.length := by
    rw [cellLimit]
    omega
  rw [hmin]

theorem stored_text_of_isFormula (h : IsFormula t) : Cell.stored (.text t) = .blank := by
  rw [Cell.stored, h.1, decide_eq_true h.2, beq_self_eq_true, Bool.true_and, Bool.or_true,
    if_pos rfl]

theorem stored_text_of_not_isFormula (h : ¬ IsFormula t) :
    Cell.stored (.text t) = plainCell t := by
  have hformula : (t.head? == some '=' && decide (1 < t.length)) = false := by
    rw [← Bool.not_eq_true, Bool.and_eq_true, beq_iff_eq, decide_eq_true_iff]
    exact h
  rw [Cell.stored, hformula, Bool.or_false, plainCell]

/-- A workbook gives back a text that is short enough and no formula. -/
theorem stored_keptCell (hshort : t.length ≤ cellLimit) (hformula : ¬ IsFormula t) :
    Cell.stored (keptCell t) = plainCell t := by
  rw [keptCell, List.take_of_length_le hshort, stored_text_of_not_isFormula hformula]

/-! ## What a file gives back -/

/-- What comes back from a file for the cell of a text. -/
def backCell (t : Text) : Cell :=
  Cell.stored (Cell.parsed (keptCell t))

/-- What a cell keeps of the text can stand in markup, if a cell takes it. -/
def IsReadable (t : Text) : Prop :=
  ∀ c ∈ t.take cellLimit, c ≠ '\uFFFE' ∧ c ≠ '\uFFFF'

/-- No character of the text is lost on the way through a file, or keeps it from being read. -/
structure IsPlain (t : Text) : Prop where
  noReturn : '\r' ∉ t
  readable : ∀ c ∈ t, c ≠ '\uFFFE' ∧ c ≠ '\uFFFF'

theorem isPlain_iff :
    IsPlain t ↔ (t.all fun c => decide (c ∉ ['\r', '\uFFFE', '\uFFFF'])) = true := by
  simp only [List.all_eq_true, decide_eq_true_iff, List.mem_cons, List.not_mem_nil, or_false,
    not_or]
  constructor
  · intro h c hc
    exact ⟨fun hreturn => h.noReturn (hreturn ▸ hc), h.readable c hc⟩
  · intro h
    exact ⟨fun hreturn => (h '\r' hreturn).1 rfl, fun c hc => (h c hc).2⟩

instance (t : Text) : Decidable (IsPlain t) :=
  decidable_of_iff _ isPlain_iff.symm

/-- Markup holds what a cell takes, with two exceptions. -/
theorem isForeign_eq_false_iff {c : Char} :
    Table.isForeign c = false ↔ isRefused c = false ∧ c ≠ '\uFFFE' ∧ c ≠ '\uFFFF' := by
  have hforeign : Table.isForeign c = (isRefused c || c == '\uFFFE' || c == '\uFFFF') := rfl
  simp [hforeign, and_assoc]

/-- What a cell takes up of a text can stand in markup if the text is readable. -/
theorem isForeign_keptCell_iff (h : IsWritable t) :
    (keptCell t).isForeign = false ↔ IsReadable t := by
  show (t.take cellLimit).any Table.isForeign = false ↔ IsReadable t
  rw [List.any_eq_false, IsReadable]
  refine forall₂_congr fun c hc => ?_
  rw [Bool.not_eq_true, isForeign_eq_false_iff]
  exact and_iff_right (h c hc)

theorem isFormula_withLineFeeds_iff : IsFormula t.withLineFeeds ↔ IsFormula t := by
  rw [IsFormula, IsFormula, Text.head?_withLineFeeds_eq_some_iff (by decide) (by decide)]
  refine and_congr_right fun hhead => ?_
  cases t with
  | nil => exact nomatch hhead
  | cons c t =>
      obtain rfl := Option.some.inj hhead
      rw [Text.withLineFeeds_cons (by decide), List.length_cons, List.length_cons,
        Nat.lt_add_left_iff_pos, Nat.lt_add_left_iff_pos, List.length_pos_iff,
        List.length_pos_iff, ne_eq, Text.withLineFeeds_eq_nil_iff]

theorem backCell_of_not_isFormula (h : ¬ IsFormula t) :
    backCell t = plainCell (Text.withLineFeeds (t.take cellLimit)) :=
  stored_text_of_not_isFormula (mt (isFormula_withLineFeeds_iff.trans isFormula_take_iff).mp h)

theorem plainCell_injective : Function.Injective plainCell := by
  intro t t' h
  cases t <;> cases t' <;> simp_all [plainCell]

/-- **From a file a text comes back as it is** exactly if it is short enough, no formula, and without
carriage returns. -/
theorem backCell_eq_plainCell_iff :
    backCell t = plainCell t ↔ t.length ≤ cellLimit ∧ ¬ IsFormula t ∧ '\r' ∉ t := by
  by_cases hformula : IsFormula t
  · have hback : backCell t = .blank := stored_text_of_isFormula
      ((isFormula_withLineFeeds_iff.trans isFormula_take_iff).mpr hformula)
    have hplain : plainCell t = .text t := plainCell_of_isFormula hformula
    rw [hback, hplain]
    exact iff_of_false nofun fun h => h.2.1 hformula
  · rw [backCell_of_not_isFormula hformula, plainCell_injective.eq_iff]
    constructor
    · intro h
      refine ⟨?_, hformula, h ▸ Text.not_mem_withLineFeeds _⟩
      have hlength := Text.length_withLineFeeds_le (t.take cellLimit)
      rw [h, List.length_take] at hlength
      omega
    · rintro ⟨hshort, -, hreturn⟩
      rw [List.take_of_length_le hshort, Text.withLineFeeds_of_not_mem hreturn]

/-- A text comes back as it is, from a file that can be read. -/
theorem isReadable_and_backCell_iff :
    IsReadable t ∧ backCell t = plainCell t
      ↔ t.length ≤ cellLimit ∧ ¬ IsFormula t ∧ IsPlain t := by
  rw [backCell_eq_plainCell_iff]
  constructor
  · rintro ⟨hreadable, hshort, hformula, hreturn⟩
    rw [IsReadable, List.take_of_length_le hshort] at hreadable
    exact ⟨hshort, hformula, hreturn, hreadable⟩
  · rintro ⟨hshort, hformula, hplain⟩
    exact ⟨fun c hc => hplain.readable c (List.mem_of_mem_take hc), hshort, hformula,
      hplain.noReturn⟩

end LeadScreen.Report
