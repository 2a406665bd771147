import LeadScreen.Proofs.Table.Csv
import LeadScreen.Proofs.Text.Strip
import LeadScreen.Table.Source

set_option autoImplicit false

/-! # One table in two formats

A table of texts can be read as comma-separated values and as a sheet of a workbook. A workbook
gives blank cells back for empty texts, which nobody sees, and it gives all rows back as long as
the longest one. That can be seen in one case: a short row ends before a column whose name an
earlier column has as well, and then the blank cell counts, and the cell under the earlier one does
not (`Masked`). In all other cases the two formats are read alike (`readings_agree_iff`).
-/

namespace LeadScreen.Table

variable {headers : List Text} {row : Row} {name : Text} {cell : Cell}

/-! ## The cell under a name -/

@[simp] theorem cellUnder?_nil_right (headers : List Text) (name : Text) :
    cellUnder? headers [] name = none := by
  rw [cellUnder?, List.zip_nil_right]
  rfl

/-- A later cell under the name counts before an earlier one. -/
theorem cellUnder?_cons_cons (header : Text) (headers : List Text) (cell : Cell) (row : Row)
    (name : Text) :
    cellUnder? (header :: headers) (cell :: row) name
      = (cellUnder? headers row name).or (if header = name then some cell else none) := by
  rw [cellUnder?, List.zip_cons_cons, List.reverse_cons, List.find?_append, Option.map_or,
    ← cellUnder?]
  congr 1
  by_cases h : header = name <;> simp [h]

/-- The cell stands under the name, and behind it there is none that does. -/
def IsUnder (headers : List Text) (row : Row) (name : Text) (cell : Cell) : Prop :=
  ∃ before after, headers.zip row = before ++ (name, cell) :: after
    ∧ ∀ entry ∈ after, entry.1 ≠ name

theorem cellUnder?_eq_some_iff :
    cellUnder? headers row name = some cell ↔ IsUnder headers row name cell := by
  rw [cellUnder?, Option.map_eq_some_iff, IsUnder]
  constructor
  · rintro ⟨⟨header, cell'⟩, hfind, rfl⟩
    obtain ⟨hname, after, before, hsplit, hnot⟩ := List.find?_eq_some_iff_append.mp hfind
    obtain rfl : header = name := by simpa using hname
    refine ⟨before.reverse, after.reverse, ?_, fun entry hentry => ?_⟩
    · rw [← List.reverse_reverse (headers.zip row), hsplit]
      simp
    · simpa using hnot entry (List.mem_reverse.mp hentry)
  · rintro ⟨before, after, hsplit, hnot⟩
    refine ⟨(name, cell), List.find?_eq_some_iff_append.mpr
      ⟨by simp, after.reverse, before.reverse, ?_, fun entry hentry => ?_⟩, rfl⟩
    · rw [hsplit]
      simp
    · simpa using hnot entry (List.mem_reverse.mp hentry)

theorem mem_zip_of_cellUnder? (h : cellUnder? headers row name = some cell) :
    (name, cell) ∈ headers.zip row := by
  obtain ⟨before, after, hsplit, -⟩ := cellUnder?_eq_some_iff.mp h
  rw [hsplit]
  exact List.mem_append_right _ List.mem_cons_self

theorem mem_of_cellUnder? (h : cellUnder? headers row name = some cell) :
    name ∈ headers ∧ cell ∈ row :=
  List.of_mem_zip (mem_zip_of_cellUnder? h)

theorem cellUnder?_of_not_mem (h : name ∉ headers) : cellUnder? headers row name = none :=
  Option.eq_none_iff_forall_ne_some.mpr fun _ hsome => h (mem_of_cellUnder? hsome).1

/-- Where the name is given once, the cell that it is given to is under it. -/
theorem cellUnder?_eq_some_iff_mem (honce : headers.count name ≤ 1) :
    cellUnder? headers row name = some cell ↔ (name, cell) ∈ headers.zip row := by
  refine ⟨mem_zip_of_cellUnder?, fun h => ?_⟩
  induction headers generalizing row with
  | nil => exact absurd h List.not_mem_nil
  | cons header headers ih =>
      cases row with
      | nil => exact absurd h List.not_mem_nil
      | cons other row =>
          rw [List.count_cons] at honce
          rw [List.zip_cons_cons] at h
          rw [cellUnder?_cons_cons]
          rcases List.mem_cons.mp h with heq | hlater
          · obtain ⟨rfl, rfl⟩ := Prod.mk.inj heq
            -- the name is used up
            have hnot : name ∉ headers := by
              rw [beq_self_eq_true, if_pos rfl] at honce
              exact List.count_eq_zero.mp (by omega)
            rw [cellUnder?_of_not_mem hnot, if_pos rfl, Option.none_or]
          · rw [ih (by omega) hlater, Option.some_or]

theorem cellUnder?_map (f : Cell → Cell) (headers : List Text) (row : Row) (name : Text) :
    cellUnder? headers (row.map f) name = (cellUnder? headers row name).map f := by
  induction headers generalizing row with
  | nil => rfl
  | cons header headers ih =>
      cases row with
      | nil => simp
      | cons cell row =>
          rw [List.map_cons, cellUnder?_cons_cons, cellUnder?_cons_cons, ih, Option.map_or]
          by_cases h : header = name <;> simp [h]

/-! ## Padding -/

theorem not_mem_replicate_nil (hname : name ≠ []) (m : Nat) : name ∉ List.replicate m [] :=
  fun hmem => hname (List.eq_of_mem_replicate hmem)

/-- Among blank cells that reach as far as the headers do, a blank cell is under every header. -/
theorem cellUnder?_blanks {m n : Nat} (hname : name ≠ []) (hwidth : headers.length ≤ n) :
    cellUnder? (headers ++ List.replicate m []) (List.replicate n .blank) name
      = if name ∈ headers then some .blank else none := by
  induction headers generalizing n with
  | nil =>
      rw [List.nil_append, cellUnder?_of_not_mem (not_mem_replicate_nil hname m)]
      rfl
  | cons header headers ih =>
      obtain ⟨n, rfl⟩ : ∃ k, n = k + 1 := ⟨n - 1, by rw [List.length_cons] at hwidth; omega⟩
      rw [List.length_cons] at hwidth
      rw [List.cons_append, List.replicate_succ, cellUnder?_cons_cons, ih (by omega)]
      by_cases hlater : name ∈ headers
      · rw [if_pos hlater, if_pos (List.mem_cons_of_mem header hlater), Option.some_or]
      · rw [if_neg hlater, Option.none_or]
        by_cases hhere : header = name
        · rw [if_pos hhere, if_pos (hhere ▸ List.mem_cons_self)]
        · have hnot : name ∉ header :: headers := fun hmem =>
            (List.mem_cons.mp hmem).elim (fun heq => hhere heq.symm) hlater
          rw [if_neg hhere, if_neg hnot]

/-- **What padding shows**: a blank cell under every header beyond the row, and under all others the
cell that was there. -/
theorem cellUnder?_padded {m n : Nat} (hname : name ≠ [])
    (hwidth : headers.length ≤ row.length + n) :
    cellUnder? (headers ++ List.replicate m []) (row ++ List.replicate n .blank) name
      = if name ∈ headers.drop row.length then some .blank else cellUnder? headers row name := by
  -- column by column; where the row ends, blank cells are all there is
  induction headers generalizing row with
  | nil =>
      rw [List.nil_append, cellUnder?_of_not_mem (not_mem_replicate_nil hname m), List.drop_nil]
      rfl
  | cons header headers ih =>
      cases row with
      | nil =>
          rw [List.length_nil, Nat.zero_add] at hwidth
          rw [List.nil_append, cellUnder?_blanks hname hwidth, List.length_nil, List.drop_zero,
            cellUnder?_nil_right]
      | cons cell row =>
          rw [List.length_cons, List.length_cons] at hwidth
          rw [List.cons_append, List.cons_append, cellUnder?_cons_cons, ih (by omega),
            List.length_cons, List.drop_succ_cons, cellUnder?_cons_cons]
          by_cases hbeyond : name ∈ headers.drop row.length
          · rw [if_pos hbeyond, if_pos hbeyond, Option.some_or]
          · rw [if_neg hbeyond, if_neg hbeyond]

/-! ## Leads from padded rows -/

/-- **A cell is masked by padding**: a header beyond the row names the column again, while the last
cell of the row under that name shows something. -/
structure Masked (headers : List Text) (row : Row) (column : Column) : Prop where
  beyond : column.name ∈ headers.drop row.length
  shows : ∃ cell, IsUnder headers row column.name cell ∧ cell.shown ≠ []

/-- What a lead takes from the row for a column. -/
def textUnder (headers : List Text) (row : Row) (column : Column) : Text :=
  ((cellUnder? headers row column.name).getD .blank).shown

theorem get_leadOfRow (headers : List Text) (row : Row) (column : Column) :
    (leadOfRow headers row).get column = textUnder headers row column :=
  Lead.get_ofColumns _ column

theorem leadOfRow_eq_iff {others : List Text} {other : Row} :
    leadOfRow headers row = leadOfRow others other
      ↔ ∀ column, textUnder headers row column = textUnder others other column := by
  constructor
  · intro h column
    rw [← get_leadOfRow, h, get_leadOfRow]
  · intro h
    refine Lead.ext_get fun column => ?_
    rw [get_leadOfRow, get_leadOfRow, h column]

theorem name_column_ne_nil (column : Column) : column.name ≠ [] := by
  cases column <;> decide

/-- A masked cell is one that the lead would take its text from. -/
theorem masked_iff {column : Column} : Masked headers row column
    ↔ column.name ∈ headers.drop row.length ∧ textUnder headers row column ≠ [] := by
  constructor
  · rintro ⟨hbeyond, cell, hcell, hshows⟩
    rw [textUnder, cellUnder?_eq_some_iff.mpr hcell]
    exact ⟨hbeyond, hshows⟩
  · rintro ⟨hbeyond, htext⟩
    rw [textUnder] at htext
    cases hunder : cellUnder? headers row column.name with
    | none =>
        rw [hunder] at htext
        exact absurd rfl htext
    | some cell =>
        rw [hunder] at htext
        exact ⟨hbeyond, cell, cellUnder?_eq_some_iff.mp hunder, htext⟩

instance (headers : List Text) (row : Row) (column : Column) :
    Decidable (Masked headers row column) :=
  decidable_of_iff _ masked_iff.symm

theorem textUnder_map {f : Cell → Cell} {column : Column}
    (hf : ∀ cell ∈ row, (f cell).shown = cell.shown) :
    textUnder headers (row.map f) column = textUnder headers row column := by
  rw [textUnder, cellUnder?_map, textUnder]
  cases hunder : cellUnder? headers row column.name with
  | none => rfl
  | some cell => exact hf cell (mem_of_cellUnder? hunder).2

/-- On the padded row, a column has the same text exactly if it is not masked. -/
theorem textUnder_padded_eq_iff {m n : Nat} {f : Cell → Cell} {column : Column}
    (hf : ∀ cell ∈ row, (f cell).shown = cell.shown) (hwidth : headers.length ≤ row.length + n) :
    textUnder headers row column
        = textUnder (headers ++ List.replicate m []) (row.map f ++ List.replicate n .blank) column
      ↔ ¬ Masked headers row column := by
  have hwidth' : headers.length ≤ (row.map f).length + n := by rwa [List.length_map]
  have hpadded : textUnder (headers ++ List.replicate m []) (row.map f ++ List.replicate n .blank)
      column
        = if column.name ∈ headers.drop row.length then [] else textUnder headers row column := by
    rw [textUnder, cellUnder?_padded (name_column_ne_nil column) hwidth', List.length_map]
    split
    · rfl
    · exact textUnder_map hf
  rw [hpadded, masked_iff]
  by_cases hbeyond : column.name ∈ headers.drop row.length
  · rw [if_pos hbeyond]
    simp [hbeyond]
  · rw [if_neg hbeyond]
    exact iff_of_true rfl fun h => hbeyond h.1

/-! ## Padded tables -/

def paddedRow (width : Nat) (row : Row) : Row :=
  row.map Cell.stored ++ List.replicate (width - row.length) .blank

def tableWidth (rows : List Row) : Nat :=
  (rows.map List.length).foldl max 0

theorem padRows_map_stored (rows : List Row) :
    padRows (rows.map fun row => row.map Cell.stored) = rows.map (paddedRow (tableWidth rows)) := by
  have hlengths : (rows.map fun row => row.map Cell.stored).map List.length
      = rows.map List.length := by
    rw [List.map_map]
    exact List.map_congr_left fun row _ => List.length_map _
  rw [padRows, hlengths, List.map_map]
  refine List.map_congr_left fun row _ => ?_
  show _ ++ List.replicate (tableWidth rows - (row.map Cell.stored).length) _ = _
  rw [List.length_map, paddedRow]

theorem length_le_tableWidth {rows : List Row} (h : row ∈ rows) : row.length ≤ tableWidth rows := by
  have hmax : ∀ (sizes : List Nat) (start : Nat),
      start ≤ sizes.foldl max start ∧ ∀ n ∈ sizes, n ≤ sizes.foldl max start := by
    intro sizes
    induction sizes with
    | nil => exact fun start => ⟨Nat.le_refl start, nofun⟩
    | cons size sizes ih =>
        intro start
        obtain ⟨hstart, hsizes⟩ := ih (max start size)
        refine ⟨Nat.le_trans (Nat.le_max_left start size) hstart, fun n hn => ?_⟩
        rcases List.mem_cons.mp hn with rfl | hn
        · exact Nat.le_trans (Nat.le_max_right start n) hstart
        · exact hsizes n hn
  exact (hmax (rows.map List.length) 0).2 _ (List.mem_map_of_mem h)

/-- A workbook keeps what the cells of the row show. -/
def IsKept (row : Row) : Prop :=
  ∀ cell ∈ row, (Cell.stored cell).shown = cell.shown

theorem isBlankRow_append_blanks (row : Row) (n : Nat) :
    isBlankRow (row ++ List.replicate n .blank) = isBlankRow row := by
  have hblanks : (List.replicate n Cell.blank).all (fun c => c.shown.isEmpty) = true :=
    List.all_eq_true.mpr fun cell hcell => by rw [List.eq_of_mem_replicate hcell]; rfl
  rw [isBlankRow, List.all_append, hblanks, Bool.and_true, isBlankRow]

theorem isBlankRow_paddedRow (width : Nat) (h : IsKept row) :
    isBlankRow (paddedRow width row) = isBlankRow row := by
  rw [paddedRow, isBlankRow_append_blanks, isBlankRow, isBlankRow, List.all_map, Bool.eq_iff_iff,
    List.all_eq_true, List.all_eq_true]
  refine forall₂_congr fun cell hcell => ?_
  rw [Function.comp_apply, h cell hcell]

/-- Blank cells have empty headers. -/
theorem map_header_append_blanks (row : Row) (n : Nat) :
    (row ++ List.replicate n Cell.blank).map Cell.header
      = row.map Cell.header ++ List.replicate n [] := by
  have hblank : Cell.header .blank = [] := rfl
  rw [List.map_append, List.map_replicate, hblank]

/-- The headers of a padded row are its headers, and empty ones behind them. -/
theorem header_paddedRow (width : Nat) (h : IsKept row) :
    (paddedRow width row).map Cell.header
      = row.map Cell.header ++ List.replicate (width - row.length) [] := by
  rw [paddedRow, map_header_append_blanks, List.map_map]
  refine congrArg (· ++ _) (List.map_congr_left fun cell hcell => ?_)
  show Cell.header (Cell.stored cell) = Cell.header cell
  rw [Cell.header, h cell hcell, Cell.header]

/-- What leaves blank rows blank, and no others, can be done before they are passed over. -/
theorem filledRows_map {f : Row → Row} {rows : List Row}
    (h : ∀ row ∈ rows, isBlankRow (f row) = isBlankRow row) :
    filledRows (rows.map f) = (filledRows rows).map f := by
  rw [filledRows, List.filter_map, filledRows]
  refine congrArg _ (List.filter_congr fun row hrow => ?_)
  show (!isBlankRow (f row)) = !isBlankRow row
  rw [h row hrow]

/-- **What padding does to a table**: the same error, if any, and the same leads exactly if it masks
no cell. -/
theorem readRows_padded_iff {rows : List Row} (h : ∀ row ∈ rows, IsKept row) :
    (readRows rows none).error
        = (readRows (padRows (rows.map fun row => row.map Cell.stored)) none).error
      ∧ ((readRows rows none).leads
          = (readRows (padRows (rows.map fun row => row.map Cell.stored)) none).leads
        ↔ ∀ header body, filledRows rows = header :: body →
          ∀ row ∈ body, ∀ column, ¬ Masked (header.map Cell.header) row column) := by
  have hfilled := filledRows_map fun row hrow =>
    isBlankRow_paddedRow (tableWidth rows) (h row hrow)
  rw [padRows_map_stored, readRows, readRows, leadsOf?, leadsOf?, hfilled]
  cases hrows : filledRows rows with
  | nil => exact ⟨rfl, iff_of_true rfl nofun⟩
  | cons header body =>
      have hmem : ∀ row ∈ header :: body, row ∈ rows := fun row hrow => by
        rw [← hrows, filledRows] at hrow
        exact List.mem_of_mem_filter hrow
      refine ⟨rfl, ?_⟩
      have hlead : ∀ row ∈ body, leadOfRow (header.map Cell.header) row
          = leadOfRow ((paddedRow (tableWidth rows) header).map Cell.header)
            (paddedRow (tableWidth rows) row)
          ↔ ∀ column, ¬ Masked (header.map Cell.header) row column := by
        intro row hrow
        have hheader := hmem header List.mem_cons_self
        have hwidth : (header.map Cell.header).length
            ≤ row.length + (tableWidth rows - row.length) := by
          have hlonger := length_le_tableWidth hheader
          rw [List.length_map]
          omega
        rw [header_paddedRow _ (h header hheader), leadOfRow_eq_iff]
        exact forall_congr' fun column =>
          textUnder_padded_eq_iff (h row (hmem row (List.mem_cons_of_mem header hrow))) hwidth
      show body.map _ = (body.map _).map _ ↔ _
      rw [List.map_map, List.map_inj_left]
      constructor
      · intro hsame header' body' heq row hrow
        obtain ⟨rfl, rfl⟩ := List.cons.inj heq
        exact (hlead row hrow).mp (hsame row hrow)
      · intro hmasked row hrow
        exact (hlead row hrow).mpr (hmasked header body rfl row hrow)

/-! ## One table in both formats -/

def textRow (cells : List Text) : Row :=
  cells.map .text

/-- A workbook keeps a text that is no formula, though not as an empty text. -/
theorem isKept_textRow {cells : List Text} (h : ∀ t ∈ cells, t.head? ≠ some '=') :
    IsKept (textRow cells) := by
  intro cell hcell
  obtain ⟨t, ht, rfl⟩ := List.mem_map.mp hcell
  have hformula : (t.head? == some '=') = false := beq_eq_false_iff_ne.mpr (h t ht)
  rw [Cell.stored, hformula, Bool.false_and, Bool.or_false]
  split
  · rename_i hempty
    rw [List.isEmpty_iff.mp hempty]
    rfl
  · rfl

/-- **Both formats are read alike unless padding masks a cell.** Every table of texts that are no
formulas and not too large can be written as comma-separated values. Read from any text that
holds it, and from any workbook with it on the first sheet, it has the same error, if any; and it
has the same leads exactly if no row ends before the repeated name of a column for which it shows
something. -/
theorem readings_agree_iff (rows : List (List Text))
    (hcells : ∀ row ∈ rows, ∀ t ∈ row, t.length ≤ Csv.fieldLimit ∧ t.head? ≠ some '=') :
    (∃ t, Csv.read t = ⟨rows, false⟩)
      ∧ ∀ t sheet sheets, Csv.read t = ⟨rows, false⟩ → Sheet.rows sheet = rows.map textRow →
        (readCsv t).error = (readSheets (sheet :: sheets)).error
          ∧ ((readCsv t).leads = (readSheets (sheet :: sheets)).leads
            ↔ ∀ header body, filledRows (rows.map textRow) = header :: body →
              ∀ row ∈ body, ∀ column, ¬ Masked (header.map Cell.header) row column) := by
  refine ⟨⟨Csv.write rows, Csv.read_write fun row hrow t ht => (hcells row hrow t ht).1⟩, ?_⟩
  intro t sheet sheets ht hsheet
  have hkept : ∀ row ∈ rows.map textRow, IsKept row := by
    intro row hrow
    obtain ⟨cells, hmem, rfl⟩ := List.mem_map.mp hrow
    exact isKept_textRow fun t ht => (hcells cells hmem t ht).2
  have hcsv : readCsv t = readRows (rows.map textRow) none := by
    rw [readCsv, ht]
    rfl
  have hworkbook : readSheets (sheet :: sheets)
      = readRows (padRows ((rows.map textRow).map fun row => row.map Cell.stored)) none := by
    rw [← hsheet]
    rfl
  rw [hcsv, hworkbook]
  exact readRows_padded_iff hkept

/-- A short row without a repeated name behind it is read alike, though others are longer. -/
theorem readings_agree_on_short_row :
    (∀ row ∈ [["email".toList, "company".toList], ["a@b.c".toList]], ∀ t ∈ row,
        t.length ≤ Csv.fieldLimit ∧ t.head? ≠ some '=')
      ∧ (readCsv "email,company\na@b.c\n").leads
        = (readSheets [⟨"S1", [["email".toList, "company".toList],
          ["a@b.c".toList]].map textRow⟩]).leads := by
  have hcells : ∀ row ∈ [["email".toList, "company".toList], ["a@b.c".toList]], ∀ t ∈ row,
      t.length ≤ Csv.fieldLimit ∧ t.head? ≠ some '=' := by decide +kernel
  have hcsv : Csv.read "email,company\na@b.c\n".toList
      = ⟨[["email".toList, "company".toList], ["a@b.c".toList]], false⟩ := by decide +kernel
  refine ⟨hcells, ((readings_agree_iff _ hcells).2 _ _ [] hcsv rfl).2.mpr ?_⟩
  intro header body hrows row hrow column
  obtain ⟨rfl, rfl⟩ := List.cons.inj hrows
  have hnone : ∀ row ∈ [textRow ["a@b.c".toList]], ∀ column ∈ Column.all,
      ¬ Masked ((textRow ["email".toList, "company".toList]).map Cell.header) row column := by
    decide +kernel
  exact hnone row hrow column (Column.mem_all column)

/-- **With a repeated name behind a short row the formats disagree**: one keeps the address and the
other loses it. -/
theorem repeated_header_disagrees :
    Csv.read "email,email\na@b.c\n".toList
        = ⟨[["email".toList, "email".toList], ["a@b.c".toList]], false⟩
      ∧ (readCsv "email,email\na@b.c\n").leads = [{ email := "a@b.c" }]
      ∧ (readSheets [⟨"S1", [["email".toList, "email".toList],
        ["a@b.c".toList]].map textRow⟩]).leads = [{}] := by
  decide +kernel

end LeadScreen.Table
