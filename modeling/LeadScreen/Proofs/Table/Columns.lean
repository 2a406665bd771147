import LeadScreen.Proofs.Table.Padding
import LeadScreen.Proofs.Table.Source
import LeadScreen.Proofs.Table.Utf8
import Mathlib.Data.List.Count
import Mathlib.Data.List.Forall2
import Mathlib.Logic.Relation

set_option autoImplicit false

/-! # Columns in any order, blank rows anywhere

The first row of a table that is not blank names the columns, and each later one is a lead. So it
does not matter where blank rows are; and as a lead takes its texts by the names of the columns,
it does not matter in which order these are, as long as no column of a lead is named twice
(`leads_of_edited`). Columns that no lead has may have any names.

The order of the columns enters through one list, the pairs of a header and a cell. Put into
another order, the columns give the same pairs in another order (`zip_arranged_perm`), and what is
under a name that is given once depends on the pairs alone (`cellUnder?_eq_some_iff_mem`).
-/

namespace LeadScreen.Table

variable {width : Nat} {order : List Nat} {names : List Text} {header row : Row}
  {rows rows' before after : List Row}

/-! ## The columns of a row in another order -/

/-- The row with its cells in another order; where it has no cell, there is a blank one. -/
def arranged (order : List Nat) (row : Row) : Row :=
  order.map fun i => row.getD i .blank

theorem length_arranged (horder : order.Perm (List.range width)) (row : Row) :
    (arranged order row).length = width := by
  rw [arranged, List.length_map, horder.length_eq, List.length_range]

theorem arranged_range (row : Row) : arranged (List.range row.length) row = row := by
  apply List.ext_getElem
  · simp [arranged]
  · intro i hi hi'
    simp [arranged, hi']

theorem arranged_perm (horder : order.Perm (List.range row.length)) :
    (arranged order row).Perm row := by
  have hmap := horder.map fun i => row.getD i .blank
  rwa [← arranged, ← arranged, arranged_range] at hmap

theorem isBlankRow_arranged (horder : order.Perm (List.range width))
    (hwide : isBlankRow row = false → row.length = width) :
    isBlankRow (arranged order row) = isBlankRow row := by
  cases hrow : isBlankRow row with
  | true =>
      have hcells := List.all_eq_true.mp hrow
      refine List.all_eq_true.mpr fun cell hcell => ?_
      obtain ⟨i, -, rfl⟩ := List.mem_map.mp hcell
      rw [List.getD_eq_getElem?_getD]
      cases hi : row[i]? with
      | none => rfl
      | some cell => exact hcells cell (List.mem_of_getElem? hi)
  | false =>
      obtain rfl := hwide hrow
      rw [← hrow]
      exact (arranged_perm horder).all_eq

/-- **The same pairs of a header and a cell, in another order.** -/
theorem zip_arranged_perm (horder : order.Perm (List.range width)) (hheader : header.length = width)
    (hrow : row.length = width) :
    (((arranged order header).map Cell.header).zip (arranged order row)).Perm
      ((header.map Cell.header).zip row) := by
  have hpairs : ∀ order : List Nat,
      ((arranged order header).map Cell.header).zip (arranged order row)
        = order.map fun i => (Cell.header (header.getD i .blank), row.getD i .blank) := by
    intro order
    rw [arranged, arranged, List.map_map, List.zip_map']
    rfl
  have hrange : (header.map Cell.header).zip row
      = (List.range width).map fun i => (Cell.header (header.getD i .blank), row.getD i .blank) :=
    calc (header.map Cell.header).zip row
        = ((arranged (List.range header.length) header).map Cell.header).zip
            (arranged (List.range row.length) row) := by rw [arranged_range, arranged_range]
      _ = _ := by rw [hheader, hrow, hpairs]
  rw [hpairs, hrange]
  exact horder.map _

/-! ## Tables -/

/-- The names of the columns: the headers in the first row that is not blank. -/
def headersOf (rows : List Row) : List Text :=
  ((filledRows rows).head?.getD []).map Cell.header

/-- **A rectangular table that names no column of a lead twice.** Blank rows may have any width,
and other columns any names. -/
structure IsTable (width : Nat) (rows : List Row) : Prop where
  wide : ∀ row ∈ filledRows rows, row.length = width
  once : ∀ column : Column, (headersOf rows).count column.name ≤ 1

/-- **One change of a table**: a blank row more or less anywhere, or its columns in another order,
the headers together with their cells. -/
inductive Edit (width : Nat) : List Row → List Row → Prop where
  | insert {before after : List Row} {row : Row} (hblank : isBlankRow row = true) :
      Edit width (before ++ after) (before ++ row :: after)
  | remove {before after : List Row} {row : Row} (hblank : isBlankRow row = true) :
      Edit width (before ++ row :: after) (before ++ after)
  | permute {rows : List Row} {order : List Nat} (horder : order.Perm (List.range width)) :
      Edit width rows (rows.map (arranged order))

theorem headersOf_of_cons {body : List Row} (h : filledRows rows = header :: body) :
    headersOf rows = header.map Cell.header := by
  rw [headersOf, h]
  rfl

theorem IsTable.wide_header {body : List Row} (htable : IsTable width rows)
    (h : filledRows rows = header :: body) : header.length = width :=
  htable.wide header (h ▸ List.mem_cons_self)

/-! ## Blank rows -/

theorem filledRows_insert (before after : List Row) (hblank : isBlankRow row = true) :
    filledRows (before ++ row :: after) = filledRows (before ++ after) := by
  rw [filledRows, List.filter_append, List.filter_cons_of_neg (by simp [hblank]),
    ← List.filter_append, ← filledRows]

/-- All that counts of a table are the rows that are not blank. -/
theorem IsTable.congr (h : filledRows rows' = filledRows rows) (htable : IsTable width rows) :
    IsTable width rows' where
  wide := h ▸ htable.wide
  once := by
    rw [headersOf, h]
    exact htable.once

/-! ## Columns in another order -/

theorem filledRows_map_arranged (horder : order.Perm (List.range width))
    (htable : IsTable width rows) :
    filledRows (rows.map (arranged order)) = (filledRows rows).map (arranged order) := by
  refine filledRows_map fun row hrow => isBlankRow_arranged horder fun hfilled => ?_
  exact htable.wide row (List.mem_filter.mpr ⟨hrow, by rw [hfilled]; rfl⟩)

theorem headersOf_map_arranged (horder : order.Perm (List.range width))
    (htable : IsTable width rows) :
    (headersOf (rows.map (arranged order))).Perm (headersOf rows) := by
  rw [headersOf, filledRows_map_arranged horder htable]
  cases hrows : filledRows rows with
  | nil =>
      rw [headersOf, hrows]
      exact .refl _
  | cons header body =>
      rw [headersOf_of_cons hrows]
      exact (arranged_perm (htable.wide_header hrows ▸ horder)).map Cell.header

theorem IsTable.map_arranged (horder : order.Perm (List.range width))
    (htable : IsTable width rows) : IsTable width (rows.map (arranged order)) where
  wide := by
    rw [filledRows_map_arranged horder htable]
    intro row hrow
    obtain ⟨row, -, rfl⟩ := List.mem_map.mp hrow
    exact length_arranged horder row
  once column := by
    rw [(headersOf_map_arranged horder htable).count_eq]
    exact htable.once column

theorem leadOfRow_arranged (horder : order.Perm (List.range width))
    (hheader : header.length = width) (hrow : row.length = width)
    (honce : ∀ column : Column, (header.map Cell.header).count column.name ≤ 1) :
    leadOfRow ((arranged order header).map Cell.header) (arranged order row)
      = leadOfRow (header.map Cell.header) row := by
  have hnames : ((arranged order header).map Cell.header).Perm (header.map Cell.header) :=
    (arranged_perm (hheader.symm ▸ horder)).map Cell.header
  have hpairs := zip_arranged_perm horder hheader hrow
  refine leadOfRow_eq_iff.mpr fun column => ?_
  have honce' : ((arranged order header).map Cell.header).count column.name ≤ 1 := by
    rw [hnames.count_eq]
    exact honce column
  have hunder : cellUnder? ((arranged order header).map Cell.header) (arranged order row)
      column.name = cellUnder? (header.map Cell.header) row column.name := by
    ext cell
    rw [cellUnder?_eq_some_iff_mem (honce column), cellUnder?_eq_some_iff_mem honce']
    exact hpairs.mem_iff
  rw [textUnder, hunder, textUnder]

theorem leadsOf?_map_arranged (horder : order.Perm (List.range width))
    (htable : IsTable width rows) : leadsOf? (rows.map (arranged order)) = leadsOf? rows := by
  rw [leadsOf?, filledRows_map_arranged horder htable, leadsOf?]
  cases hrows : filledRows rows with
  | nil => rfl
  | cons header body =>
      have honce := htable.once
      rw [headersOf_of_cons hrows] at honce
      refine congrArg some ?_
      rw [List.map_map]
      refine List.map_congr_left fun row hrow => ?_
      have hwide := htable.wide row (hrows ▸ List.mem_cons_of_mem header hrow)
      exact leadOfRow_arranged horder (htable.wide_header hrows) hwide honce

/-! ## Changes -/

/-- **One change leaves a table a table, with the same leads.** -/
theorem Edit.step (hedit : Edit width rows rows') (htable : IsTable width rows) :
    IsTable width rows' ∧ leadsOf? rows' = leadsOf? rows := by
  cases hedit with
  | @insert before after row hblank =>
      have hfilled := filledRows_insert before after hblank
      exact ⟨htable.congr hfilled, by rw [leadsOf?, hfilled, leadsOf?]⟩
  | @remove before after row hblank =>
      have hfilled := (filledRows_insert before after hblank).symm
      exact ⟨htable.congr hfilled, by rw [leadsOf?, hfilled, leadsOf?]⟩
  | permute horder => exact ⟨htable.map_arranged horder, leadsOf?_map_arranged horder htable⟩

/-- **Any number of changes leave the leads as they are.** -/
theorem edits_leadsOf? (hedits : Relation.ReflTransGen (Edit width) rows rows')
    (htable : IsTable width rows) : IsTable width rows' ∧ leadsOf? rows' = leadsOf? rows := by
  induction hedits with
  | refl => exact ⟨htable, rfl⟩
  | tail _ hedit ih =>
      obtain ⟨htable', hleads⟩ := ih
      obtain ⟨htable'', hstep⟩ := hedit.step htable'
      exact ⟨htable'', hstep.trans hleads⟩

/-! ## Both formats -/

/-- The rows that a content holds in a format: those in front of a field that is too large, if
there is one, or those of the first sheet, with the cells as they are given back. -/
def Content.rowsAs (content : Content) : Format → List Row
  | .csv => csvRows content.text
  | .workbook =>
    match content with
    | .workbook (sheet :: _) _ _ => sheet.rows.map fun row => row.map Cell.stored
    | _ => []

/-- Why there are no more rows, if it is not the end of the table. -/
def Content.fault? (content : Content) : Format → Option Error
  | .csv => if (Csv.read content.text).tooLarge then some .largeField else none
  | .workbook =>
    match content with
    | .workbook (_ :: _) _ complaint => complaint.map .brokenSheet
    | content => (readWorkbook content).error

/-- Blank cells behind a row and behind the headers above it change nothing: nothing is masked. -/
theorem leadOfRow_append_blanks {m n : Nat} (hlength : row.length = header.length) :
    leadOfRow ((header ++ List.replicate m Cell.blank).map Cell.header)
        (row ++ List.replicate n .blank)
      = leadOfRow (header.map Cell.header) row := by
  refine leadOfRow_eq_iff.mpr fun column => ?_
  have hbeyond : (header.map Cell.header).drop row.length = [] := by
    rw [List.drop_eq_nil_iff, List.length_map]
    omega
  have hwidth : (header.map Cell.header).length ≤ row.length + n := by
    rw [List.length_map]
    omega
  rw [map_header_append_blanks, textUnder, cellUnder?_padded (name_column_ne_nil column) hwidth,
    hbeyond, if_neg List.not_mem_nil, textUnder]

/-- That a workbook gives all rows back as long as the longest one does not show in a table. -/
theorem leadsOf?_padRows (htable : IsTable width rows) :
    leadsOf? (padRows rows) = leadsOf? rows := by
  have hfilled : filledRows (padRows rows) = (filledRows rows).map
      fun row => row ++ List.replicate (tableWidth rows - row.length) .blank :=
    filledRows_map fun row _ => isBlankRow_append_blanks row _
  rw [leadsOf?, hfilled, leadsOf?]
  cases hrows : filledRows rows with
  | nil => rfl
  | cons header body =>
      refine congrArg some ?_
      rw [List.map_map]
      refine List.map_congr_left fun row hrow => ?_
      have hrow := htable.wide row (hrows ▸ List.mem_cons_of_mem header hrow)
      exact leadOfRow_append_blanks (hrow.trans (htable.wide_header hrows).symm)

theorem readAs_eq_readRows (content : Content) (format : Format)
    (htable : IsTable width (content.rowsAs format)) :
    content.readAs format = readRows (content.rowsAs format) (content.fault? format) := by
  cases format with
  | csv => rfl
  | workbook =>
      cases content with
      | bytes data => rfl
      | archive complaint data => rfl
      | workbook sheets data complaint =>
          cases sheets with
          | nil => rfl
          | cons sheet sheets =>
              show readRows (padRows (Content.rowsAs (.workbook (sheet :: sheets) data complaint)
                .workbook)) (complaint.map .brokenSheet) = _
              rw [readRows, leadsOf?_padRows htable]
              rfl

theorem leads_readRows (rows : List Row) (error : Option Error) :
    (readRows rows error).leads = (leadsOf? rows).getD [] := by
  rw [readRows]
  cases leadsOf? rows <;> rfl

/-- **The lead of a row**: its columns have the texts that stand under their names, trimmed, and
those that are not named are empty. -/
structure IsLeadOf (names : List Text) (row : Row) (lead : Lead) : Prop where
  named : ∀ (column : Column) (i : Nat) (cell : Cell), names[i]? = some column.name →
    row[i]? = some cell → lead.get column = cell.shown
  unnamed : ∀ column : Column, column.name ∉ names → lead.get column = []

theorem isLeadOf_leadOfRow (honce : ∀ column : Column, names.count column.name ≤ 1) :
    IsLeadOf names row (leadOfRow names row) where
  named column i cell hname hcell := by
    have hmem : (column.name, cell) ∈ names.zip row :=
      List.mem_of_getElem? (List.getElem?_zip_eq_some.mpr ⟨hname, hcell⟩)
    rw [get_leadOfRow, textUnder, (cellUnder?_eq_some_iff_mem (honce column)).mpr hmem]
    rfl
  unnamed column hnot := by
    rw [get_leadOfRow, textUnder, cellUnder?_of_not_mem hnot]
    rfl

/-- There is one lead for each row behind the headers that is not blank, in the same order. -/
theorem forall₂_isLeadOf (htable : IsTable width rows) :
    List.Forall₂ (IsLeadOf (headersOf rows)) (filledRows rows).tail ((leadsOf? rows).getD []) := by
  have honce := htable.once
  rw [leadsOf?]
  cases hrows : filledRows rows with
  | nil => exact .nil
  | cons header body =>
      rw [headersOf_of_cons hrows] at honce ⊢
      show List.Forall₂ _ body (body.map _)
      refine List.forall₂_map_right_iff.mpr (List.forall₂_same.mpr fun row _ => ?_)
      exact isLeadOf_leadOfRow honce

/-- **Leads do not hang on the layout of a table.** A rectangular table that names no column of a
lead twice is changed, by blank rows that come and go anywhere, and by orders of its columns. In
whatever formats the two tables are, the same leads are read from them; and if their rows end for
the same reason, with the same error, if any. There is one lead for each row that is not blank,
from the second such row on, in this order, with the texts under the names of its columns. -/
theorem leads_of_edited (content content' : Content) (format format' : Format)
    (htable : IsTable width (content.rowsAs format))
    (hedits : Relation.ReflTransGen (Edit width) (content.rowsAs format)
      (content'.rowsAs format')) :
    (content'.readAs format').leads = (content.readAs format).leads
      ∧ (content'.fault? format' = content.fault? format →
        content'.readAs format' = content.readAs format)
      ∧ List.Forall₂ (IsLeadOf (headersOf (content.rowsAs format)))
        (filledRows (content.rowsAs format)).tail (content.readAs format).leads := by
  obtain ⟨htable', hleads⟩ := edits_leadsOf? hedits htable
  rw [readAs_eq_readRows content format htable, readAs_eq_readRows content' format' htable',
    leads_readRows, leads_readRows, hleads]
  refine ⟨rfl, fun hfault => ?_, forall₂_isLeadOf htable⟩
  rw [readRows, readRows, hleads, hfault]

/-- A blank row is taken out, the columns change places, and a blank row is put on top. The notes
have no column in a lead, so that there may be two of them. -/
theorem leads_of_edited_with_two_notes :
    (Content.readAs (.workbook [⟨"S1", [[.blank], [.text "Email ", .text "note", .text "note"],
        [.text "a@b.c", .text "x", .text "y"]]⟩] []) .workbook).leads
      = (Content.readAs (.bytes (asciiBytes "note,Email ,note\n\nx,a@b.c,y\n")) .csv).leads := by
  have hrows : Content.rowsAs (.bytes (asciiBytes "note,Email ,note\n\nx,a@b.c,y\n")) .csv
      = [textRow ["note", "Email ", "note"], [], textRow ["x", "a@b.c", "y"]] := by
    decide +kernel
  have hrows' : Content.rowsAs (.workbook [⟨"S1", [[.blank],
        [.text "Email ", .text "note", .text "note"], [.text "a@b.c", .text "x", .text "y"]]⟩] [])
        .workbook
      = [[.blank], textRow ["Email ", "note", "note"], textRow ["a@b.c", "x", "y"]] := by
    decide +kernel
  refine (@leads_of_edited 3 _ _ _ _ ⟨?_, ?_⟩ ?_).1
  · rw [hrows]
    decide +kernel
  · intro column
    have hall : ∀ column ∈ Column.all,
        (headersOf [textRow ["note", "Email ", "note"], [], textRow ["x", "a@b.c", "y"]]).count
          column.name ≤ 1 := by
      decide +kernel
    rw [hrows]
    exact hall column (Column.mem_all column)
  · rw [hrows, hrows']
    have hremove := @Edit.remove 3 [textRow ["note", "Email ", "note"]]
      [textRow ["x", "a@b.c", "y"]] [] rfl
    have hpermute := @Edit.permute 3 [textRow ["note", "Email ", "note"],
      textRow ["x", "a@b.c", "y"]] [1, 0, 2] (by decide)
    have hinsert := @Edit.insert 3 [] [textRow ["Email ", "note", "note"],
      textRow ["a@b.c", "x", "y"]] [.blank] rfl
    exact .tail (.tail (.single hremove) hpermute) hinsert

end LeadScreen.Table
