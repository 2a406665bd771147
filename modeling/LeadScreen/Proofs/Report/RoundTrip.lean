import LeadScreen.Proofs.Report.GivenBack
import LeadScreen.Proofs.Table.Padding

set_option autoImplicit false

/-! # Reports that are read again

The sheet of a report is itself a table of leads: its columns are named as those of a lead are, and
two more stand behind them. No row of it is blank, whatever the lead is, because the finding stands
in it. So from a report every lead comes back as it was (`exists_report_read_back`), as long as the
workbook keeps its texts: they are trimmed, short, without control characters and no formulas
(`Keepable`). The file that it is saved in has to keep them as well (`readWorkbook_ofSheet`).
-/

namespace LeadScreen.Report

open Table

variable {t title : Text} {row : Judged} {rows : List Judged}

/-- The text is trimmed, and a workbook gives it back as it is. -/
structure Keepable (t : Text) : Prop where
  trimmed : t.trim = t
  short : t.length ≤ cellLimit
  clean : ∀ c ∈ t, isRefused c = false
  noFormula : t.head? = some '=' → t.length ≤ 1

theorem keepable_iff : Keepable t ↔ t.trim = t ∧ t.length ≤ cellLimit
    ∧ (t.all fun c => !isRefused c) = true ∧ (t.head? = some '=' → t.length ≤ 1) := by
  have hclean : (t.all fun c => !isRefused c) = true ↔ ∀ c ∈ t, isRefused c = false := by
    simp
  rw [hclean]
  constructor
  · rintro ⟨htrim, hshort, hclean, hformula⟩
    exact ⟨htrim, hshort, hclean, hformula⟩
  · rintro ⟨htrim, hshort, hclean, hformula⟩
    exact ⟨htrim, hshort, hclean, hformula⟩

instance (t : Text) : Decidable (Keepable t) :=
  decidable_of_iff _ keepable_iff.symm

/-! ## Cells -/

theorem Keepable.isWritable (h : Keepable t) : IsWritable t :=
  (fits_iff.mp ⟨h.short, h.clean⟩).1

theorem Keepable.not_isFormula (h : Keepable t) : ¬ IsFormula t := by
  rintro ⟨hhead, hlength⟩
  exact absurd (h.noFormula hhead) (Nat.not_le.mpr hlength)

/-- A text that a workbook keeps shows again, and an empty one shows nothing. -/
theorem Keepable.shown_stored (h : Keepable t) : (Cell.stored (keptCell t)).shown = t := by
  rw [stored_keptCell h.short h.not_isFormula, shown_plainCell, h.trimmed]

/-- The name of a finding is nothing that a workbook would not keep. -/
theorem keepable_name (f : Finding) : Keepable f.name := by
  cases f <;> decide

/-! ## Rows -/

def givenBack (row : Judged) : Row :=
  (cellsOf row).map Cell.stored

theorem length_givenBack (row : Judged) : (givenBack row).length = columnNames.length := by
  rw [givenBack, cellsOf, List.length_map, List.length_map]
  rfl

/-- **No row of a report is blank**: the finding shows, be the lead as empty as it may. -/
theorem isBlankRow_givenBack (row : Judged) : isBlankRow (givenBack row) = false := by
  have hmem : Cell.stored (keptCell row.verdict.finding.name) ∈ givenBack row := by
    refine List.mem_map_of_mem (List.mem_map_of_mem ?_)
    exact List.mem_append_right _ List.mem_cons_self
  have hshown : (Cell.stored (keptCell row.verdict.finding.name)).shown ≠ [] := by
    rw [(keepable_name row.verdict.finding).shown_stored]
    cases row.verdict.finding <;> decide
  rw [isBlankRow, List.all_eq_false]
  exact ⟨_, hmem, by simpa using hshown⟩

/-- **A column of a report holds the text of that column**, with the other two out of the way. -/
theorem cellUnder?_givenBack (row : Judged) (column : Column) :
    cellUnder? columnNames (givenBack row) column.name
      = some (Cell.stored (keptCell (row.lead.get column))) := by
  -- result and comment stand behind the columns of a lead and have other names
  have hnodup : columnNames.Nodup := by decide
  have hrow : givenBack row
      = Column.all.map (fun column => Cell.stored (keptCell (row.lead.get column)))
        ++ [row.verdict.finding.name, row.verdict.comment.getD []].map
          (fun t => Cell.stored (keptCell t)) := by
    rw [givenBack, cellsOf, texts, List.map_map, List.map_append, List.map_map]
    rfl
  refine (cellUnder?_eq_some_iff_mem (List.nodup_iff_count.mp hnodup _)).mpr ?_
  rw [hrow, columnNames, List.zip_append (by rw [List.length_map, List.length_map]),
    List.zip_map']
  exact List.mem_append_left _ (List.mem_map_of_mem (Column.mem_all column))

theorem leadOfRow_givenBack (h : ∀ column, Keepable (row.lead.get column)) :
    leadOfRow columnNames (givenBack row) = row.lead := by
  refine Lead.ext_get fun column => ?_
  rw [get_leadOfRow, textUnder, cellUnder?_givenBack, Option.getD_some]
  exact (h column).shown_stored

/-! ## Sheets -/

/-- Rows of one length need no padding. -/
theorem padRows_eq_self {n : Nat} {rows : List Row} (h : ∀ row ∈ rows, row.length = n) :
    padRows rows = rows := by
  have hwidth : ∀ (sizes : List Nat) (start : Nat), start ≤ n → (∀ size ∈ sizes, size = n) →
      sizes.foldl max start ≤ n := by
    intro sizes
    induction sizes with
    | nil => exact fun start hstart _ => hstart
    | cons size sizes ih =>
        intro start hstart hsizes
        have hsize := hsizes size List.mem_cons_self
        exact ih (max start size) (by omega) fun s hs => hsizes s (List.mem_cons_of_mem size hs)
  have hmax : (rows.map List.length).foldl max 0 ≤ n := by
    refine hwidth _ 0 (Nat.zero_le n) fun size hsize => ?_
    obtain ⟨row, hrow, rfl⟩ := List.mem_map.mp hsize
    exact h row hrow
  show rows.map _ = rows
  refine (List.map_congr_left fun row hrow => ?_).trans (List.map_id rows)
  have hlength := h row hrow
  have hnone : (rows.map List.length).foldl max 0 - row.length = 0 := by omega
  rw [hnone, List.replicate_zero, List.append_nil, id]

def headerRow : Row :=
  (columnNames.map Cell.text).map Cell.stored

/-- It names the columns as it should. -/
theorem header_headerRow : headerRow.map Cell.header = columnNames := by
  decide +kernel

theorem isBlankRow_headerRow : isBlankRow headerRow = false := by
  decide

theorem readSheets_sheetOf (title : Text) (rows : List Judged) :
    readSheets [sheetOf title rows]
      = ⟨rows.map fun row => leadOfRow columnNames (givenBack row), none⟩ := by
  have hcells : (sheetOf title rows).rows.map (fun row => row.map Cell.stored)
      = headerRow :: rows.map givenBack := by
    show headerRow :: (rows.map cellsOf).map (fun row => row.map Cell.stored) = _
    rw [List.map_map]
    rfl
  have hlength : ∀ row ∈ headerRow :: rows.map givenBack, row.length = columnNames.length := by
    intro row hrow
    rcases List.mem_cons.mp hrow with rfl | hrow
    · rw [headerRow, List.length_map, List.length_map]
    · obtain ⟨judged, -, rfl⟩ := List.mem_map.mp hrow
      exact length_givenBack judged
  -- no row is passed over as blank
  have hfilled : filledRows (headerRow :: rows.map givenBack)
      = headerRow :: rows.map givenBack := by
    refine List.filter_eq_self.mpr fun row hrow => ?_
    rcases List.mem_cons.mp hrow with rfl | hrow
    · rw [isBlankRow_headerRow]
      rfl
    · obtain ⟨judged, -, rfl⟩ := List.mem_map.mp hrow
      rw [isBlankRow_givenBack]
      rfl
  show readRows (padRows ((sheetOf title rows).rows.map fun row => row.map Cell.stored)) none = _
  rw [hcells, padRows_eq_self hlength, readRows, leadsOf?, hfilled]
  show Reading.mk ((rows.map givenBack).map (leadOfRow (headerRow.map Cell.header))) none = _
  rw [header_headerRow, List.map_map]
  rfl

/-! ## Reading a report -/

theorem readSheets_sheetOf_of_keepable
    (hleads : ∀ row ∈ rows, ∀ column, Keepable (row.lead.get column)) :
    readSheets [sheetOf title rows] = ⟨rows.map Judged.lead, none⟩ := by
  rw [readSheets_sheetOf]
  refine congrArg (Reading.mk · none) (List.map_congr_left fun row hrow => ?_)
  exact leadOfRow_givenBack (hleads row hrow)

/-- From the file of a report that has no carriage return the same leads are read, if it can be read
at all. -/
theorem readWorkbook_ofSheet (hleads : ∀ row ∈ rows, ∀ column, Keepable (row.lead.get column))
    (hwritable : ∀ row ∈ rows, Writable row) (hreadable : Readable title rows)
    (hreturn : ∀ row ∈ rows, ∀ t ∈ texts row, '\r' ∉ t) (data : List UInt8) :
    readWorkbook (.ofSheet (sheetOf title rows) data) = ⟨rows.map Judged.lead, none⟩ := by
  rw [ofSheet_sheetOf hwritable hreadable hreturn]
  exact readSheets_sheetOf_of_keepable hleads

/-- **The leads of a report come back.** For all judged leads whose texts a workbook keeps, and
whose comments it can take up, the report is written, with as many rows as there are leads, and from
a workbook that holds it as it was written the same leads are read in the same order. -/
theorem exists_report_read_back (htitle : IsTitle title)
    (hleads : ∀ row ∈ rows, ∀ column, Keepable (row.lead.get column))
    (hcomments : ∀ row ∈ rows, ∀ comment ∈ row.verdict.comment,
      ∃ cell, writeCell comment = .ok cell) :
    ∃ sheet, write title rows = .ok (sheet, rows.length)
      ∧ ∀ data, readWorkbook (.workbook [sheet] data) = ⟨rows.map Judged.lead, none⟩ := by
  have hwritable : ∀ row ∈ rows, Writable row := by
    intro row hrow t ht
    rcases List.mem_append.mp ht with hfield | hverdict
    · obtain ⟨column, -, rfl⟩ := List.mem_map.mp hfield
      exact (hleads row hrow column).isWritable
    · rcases List.mem_pair.mp hverdict with rfl | rfl
      · exact (keepable_name row.verdict.finding).isWritable
      · cases hcomment : row.verdict.comment with
        | none => exact fun c hc => absurd hc List.not_mem_nil
        | some comment =>
            obtain ⟨cell, hcell⟩ := hcomments row hrow comment hcomment
            exact (writeCell_eq_ok_iff.mp hcell).1
  exact ⟨sheetOf title rows, write_eq_ok_iff.mpr ⟨htitle, hwritable, rfl⟩,
    fun _ => readSheets_sheetOf_of_keepable hleads⟩

/-- A lead that is empty comes back as well, and so does one with an equality sign by itself; a
comment that looks like a formula does no harm. -/
theorem report_read_back_with_empty_lead :
    ∃ sheet, write "Result" [⟨{}, .valid⟩, ⟨{ title := "=", req := "a\nb" }, .recheck "=1"⟩]
        = .ok (sheet, 2)
      ∧ ∀ data, readWorkbook (.workbook [sheet] data)
        = ⟨[{}, { title := "=", req := "a\nb" }], none⟩ := by
  have hleads : ∀ row ∈ ([⟨{}, .valid⟩, ⟨{ title := "=", req := "a\nb" }, .recheck "=1"⟩] :
      List Judged), ∀ column ∈ Column.all, Keepable (row.lead.get column) := by
    decide +kernel
  refine exists_report_read_back ?_ (fun row hrow column =>
    hleads row hrow column (Column.mem_all column)) ?_
  · simp [IsTitle, titleMarks]
  · intro row hrow comment hcomment
    refine ⟨keptCell comment, writeCell_eq_ok_iff.mpr ⟨?_, rfl⟩⟩
    rcases List.mem_pair.mp hrow with rfl | rfl
    · cases hcomment
    · obtain rfl := Option.some.inj hcomment
      simp [IsWritable, cellLimit, isRefused]

end LeadScreen.Report
