import LeadScreen.Proofs.Report.Sheet

set_option autoImplicit false

/-! # What a saved report gives back

A report can be read again exactly if its title and what the cells keep of its texts can stand in
markup, and then its rows come back one by one (`givenBack?_sheetOf_iff`). A cell of them shows its
text as far as the cell has it, with line feeds for carriage returns, or nothing for a formula
(`backCell`).
-/

namespace LeadScreen.Report

open Table

variable {title : Text} {row : Judged} {rows : List Judged}

def backRow (row : Judged) : Table.Row :=
  (texts row).map backCell

/-- The report on the rows can be read from a file. -/
structure Readable (title : Text) (rows : List Judged) : Prop where
  title : ∀ c ∈ title, isForeign c = false
  texts : ∀ row ∈ rows, ∀ t ∈ texts row, IsReadable t

theorem any_isForeign_shownTitle (title : Text) :
    (shownTitle title).any isForeign = title.any isForeign := by
  rw [shownTitle]
  split
  · rename_i hempty
    rw [List.isEmpty_iff.mp hempty]
    decide
  · rfl

theorem isParsable_sheetOf_iff (hwritable : ∀ row ∈ rows, Writable row) :
    (sheetOf title rows).isParsable = true ↔ Readable title rows := by
  have hnames : ((columnNames.map Cell.text).all fun cell => !cell.isForeign) = true := by
    decide
  have hrow : ∀ row ∈ rows, ((cellsOf row).all fun cell => !cell.isForeign) = true
      ↔ ∀ t ∈ texts row, IsReadable t := by
    intro row hrow
    rw [cellsOf, List.all_map, List.all_eq_true]
    refine forall₂_congr fun t ht => ?_
    rw [Function.comp_apply, Bool.not_eq_true', isForeign_keptCell_iff (hwritable row hrow t ht)]
  have htitle : (shownTitle title).any isForeign = false ↔ ∀ c ∈ title, isForeign c = false := by
    rw [any_isForeign_shownTitle, List.any_eq_false]
    simp
  rw [Sheet.isParsable, Bool.and_eq_true, Bool.not_eq_true', sheetOf, htitle, List.all_cons, hnames,
    Bool.true_and, List.all_map, List.all_eq_true]
  constructor
  · rintro ⟨hclean, hrows⟩
    exact ⟨hclean, fun row hmem => (hrow row hmem).mp (hrows row hmem)⟩
  · rintro ⟨hclean, hrows⟩
    exact ⟨hclean, fun row hmem => (hrow row hmem).mpr (hrows row hmem)⟩

/-- A parser finds the names of the columns as they are, and the cells of each row on its own. -/
theorem parsed_sheetOf (title : Text) (rows : List Judged) :
    (sheetOf title rows).parsed
      = ⟨shownTitle title,
          columnNames.map .text :: rows.map fun row => (cellsOf row).map Cell.parsed⟩ := by
  have hnames : (columnNames.map Cell.text).map Cell.parsed = columnNames.map .text := by
    decide
  rw [Sheet.parsed, sheetOf, List.map_cons, hnames, List.map_map]
  rfl

/-- **What comes back from the file of a report**, if anything. -/
theorem givenBack?_sheetOf_iff (hwritable : ∀ row ∈ rows, Writable row) {back : List Table.Row} :
    (sheetOf title rows).givenBack? = some back
      ↔ Readable title rows ∧ back = columnNames.map .text :: rows.map backRow := by
  have hnames : (columnNames.map Cell.text).map Cell.stored = columnNames.map .text := by
    decide
  have hrow : ∀ row, ((cellsOf row).map Cell.parsed).map Cell.stored = backRow row := by
    intro row
    rw [cellsOf, List.map_map, List.map_map]
    rfl
  have hback : ((sheetOf title rows).parsed.rows.map fun row => row.map Cell.stored)
      = columnNames.map .text :: rows.map backRow := by
    rw [parsed_sheetOf, List.map_cons, hnames, List.map_map]
    exact congrArg _ (List.map_congr_left fun row _ => hrow row)
  rw [Sheet.givenBack?, hback, ← isParsable_sheetOf_iff hwritable]
  cases (sheetOf title rows).isParsable with
  | true => simp [eq_comm]
  | false => simp

/-- Without carriage returns, a file that can be read holds the sheet as it was written. -/
theorem ofSheet_sheetOf (hwritable : ∀ row ∈ rows, Writable row) (hreadable : Readable title rows)
    (hreturn : ∀ row ∈ rows, ∀ t ∈ texts row, '\r' ∉ t) (data : List UInt8) :
    Content.ofSheet (sheetOf title rows) data = .workbook [sheetOf title rows] data := by
  have hcell : ∀ t, '\r' ∉ t → (keptCell t).parsed = keptCell t := fun t ht =>
    congrArg Cell.text (Text.withLineFeeds_of_not_mem (mt List.mem_of_mem_take ht))
  have hrow : ∀ row ∈ rows, (cellsOf row).map Cell.parsed = cellsOf row := by
    intro row hrow
    rw [cellsOf, List.map_map]
    exact List.map_congr_left fun t ht => hcell t (hreturn row hrow t ht)
  have hsheet : (sheetOf title rows).parsed = sheetOf title rows := by
    rw [parsed_sheetOf, List.map_congr_left hrow]
    rfl
  rw [Content.ofSheet, if_pos ((isParsable_sheetOf_iff hwritable).mpr hreadable), hsheet]

end LeadScreen.Report
