import LeadScreen.Proofs.Report.Cell
import LeadScreen.Settings.Basic

set_option autoImplicit false

/-! # What is written into a report

A report comes about exactly if its title holds no mark of a reference and every text of every row
can be written, and then its sheet is determined: the names of the columns, and one row for each
judged lead in their order (`write_eq_ok_iff`).
-/

namespace LeadScreen.Report

variable {t title : Text} {row : Judged} {rows : List Judged} {draft after : Draft}

/-! ## Steps that may fail -/

/-- Two steps succeed if the first does, and the second with what comes of it. -/
theorem bind_eq_ok_iff {α β ε : Type} {x : Except ε α} {f : α → Except ε β} {b : β} :
    (x >>= f) = .ok b ↔ ∃ a, x = .ok a ∧ f a = .ok b := by
  cases x with
  | error e =>
      constructor
      · exact nofun
      · rintro ⟨a, ha, -⟩
        exact nomatch ha
  | ok a =>
      constructor
      · intro h
        exact ⟨a, rfl, h⟩
      · rintro ⟨a', ha, h⟩
        cases ha
        exact h

/-- Where it is known of each step when it succeeds and what comes of it, it is known of all. -/
theorem mapM_eq_ok_iff {α β ε : Type} {f : α → Except ε β} {P : α → Prop} {g : α → β}
    (hf : ∀ a b, f a = .ok b ↔ P a ∧ b = g a) (l : List α) (bs : List β) :
    l.mapM f = .ok bs ↔ (∀ a ∈ l, P a) ∧ bs = l.map g := by
  induction l generalizing bs with
  | nil => simp [pure, Except.pure, eq_comm]
  | cons a l ih =>
      rw [List.mapM_cons, List.forall_mem_cons, List.map_cons, bind_eq_ok_iff]
      simp only [bind_eq_ok_iff, hf, ih]
      constructor
      · rintro ⟨b, ⟨ha, rfl⟩, cs, ⟨hl, rfl⟩, hbs⟩
        exact ⟨⟨ha, hl⟩, (Except.ok.inj hbs).symm⟩
      · rintro ⟨⟨ha, hl⟩, rfl⟩
        exact ⟨g a, ⟨ha, rfl⟩, l.map g, ⟨hl, rfl⟩, rfl⟩

/-! ## Rows -/

def cellsOf (row : Judged) : Table.Row :=
  (texts row).map keptCell

def Writable (row : Judged) : Prop :=
  ∀ t ∈ texts row, IsWritable t

instance (row : Judged) : Decidable (Writable row) :=
  inferInstanceAs (Decidable (∀ t ∈ texts row, IsWritable t))

theorem writeRow_eq_ok_iff {cells : Table.Row} :
    writeRow row = .ok cells ↔ Writable row ∧ cells = cellsOf row :=
  mapM_eq_ok_iff (fun _ _ => writeCell_eq_ok_iff) (texts row) cells

/-! ## The report under way -/

def Draft.added (draft : Draft) (row : Judged) : Draft :=
  { draft with body := cellsOf row :: draft.body, written := draft.written + 1 }

theorem append_eq_ok_iff :
    draft.append row = .ok after ↔ Writable row ∧ after = draft.added row := by
  rw [Draft.append, bind_eq_ok_iff]
  simp only [writeRow_eq_ok_iff]
  constructor
  · rintro ⟨cells, ⟨hwritable, rfl⟩, hafter⟩
    exact ⟨hwritable, (Except.ok.inj hafter).symm⟩
  · rintro ⟨hwritable, rfl⟩
    exact ⟨cellsOf row, ⟨hwritable, rfl⟩, rfl⟩

/-- **Row after row is written**, as long as each of them can be. -/
theorem foldlM_append_eq_ok_iff :
    rows.foldlM Draft.append draft = .ok after
      ↔ (∀ row ∈ rows, Writable row) ∧ after = rows.foldl Draft.added draft := by
  induction rows generalizing draft with
  | nil => simp [pure, Except.pure, eq_comm]
  | cons row rows ih =>
      rw [List.foldlM_cons, List.forall_mem_cons, List.foldl_cons, bind_eq_ok_iff]
      simp only [append_eq_ok_iff, ih]
      constructor
      · rintro ⟨next, ⟨hrow, rfl⟩, hrows, rfl⟩
        exact ⟨⟨hrow, hrows⟩, rfl⟩
      · rintro ⟨⟨hrow, hrows⟩, rfl⟩
        exact ⟨draft.added row, ⟨hrow, rfl⟩, hrows, rfl⟩

/-- What a draft has after some rows: their cells, in their order, and their number. -/
theorem foldl_added (draft : Draft) (rows : List Judged) :
    rows.foldl Draft.added draft
      = { draft with
          body := (rows.map cellsOf).reverse ++ draft.body
          written := draft.written + rows.length } := by
  induction rows generalizing draft with
  | nil => rfl
  | cons row rows ih =>
      rw [List.foldl_cons, ih, Draft.added, List.map_cons, List.reverse_cons, List.append_assoc,
        List.singleton_append, List.length_cons, Nat.add_assoc, Nat.add_comm 1]

/-! ## The whole report -/

def IsTitle (title : Text) : Prop :=
  ∀ c ∈ title, titleMarks.elem c = false

/-- The title of report sheets that nobody has set can be one. -/
theorem isTitle_default : IsTitle ({} : Settings).sheetName := by
  simp [IsTitle, titleMarks]

def shownTitle (title : Text) : Text :=
  if title.isEmpty then "Sheet" else title

theorem writeTitle_eq_ok_iff {shown : Text} :
    writeTitle title = .ok shown ↔ IsTitle title ∧ shown = shownTitle title := by
  have hnone : title.find? titleMarks.elem = none ↔ IsTitle title := by
    simp [List.find?_eq_none, IsTitle]
  rw [writeTitle, ← hnone]
  cases title.find? titleMarks.elem with
  | none =>
      show Except.ok (shownTitle title) = .ok shown ↔ _
      simp [eq_comm]
  | some mark => simp

theorem start_eq_ok_iff :
    Draft.start title = .ok draft ↔ IsTitle title ∧ draft = { title := shownTitle title } := by
  rw [Draft.start, bind_eq_ok_iff]
  simp only [writeTitle_eq_ok_iff]
  constructor
  · rintro ⟨shown, ⟨htitle, rfl⟩, hdraft⟩
    exact ⟨htitle, (Except.ok.inj hdraft).symm⟩
  · rintro ⟨htitle, rfl⟩
    exact ⟨shownTitle title, ⟨htitle, rfl⟩, rfl⟩

def sheetOf (title : Text) (rows : List Judged) : Table.Sheet :=
  ⟨shownTitle title, columnNames.map .text :: rows.map cellsOf⟩

theorem sheet_foldl_added (title : Text) (rows : List Judged) :
    (rows.foldl Draft.added { title := shownTitle title }).sheet = sheetOf title rows := by
  rw [foldl_added, Draft.sheet, sheetOf, List.append_nil, List.reverse_reverse]

/-- **When there is a report, and what is in it.** -/
theorem write_eq_ok_iff {report : Table.Sheet × Nat} :
    write title rows = .ok report
      ↔ IsTitle title ∧ (∀ row ∈ rows, Writable row)
        ∧ report = (sheetOf title rows, rows.length) := by
  have hwritten : (rows.foldl Draft.added { title := shownTitle title }).written = rows.length := by
    rw [foldl_added, Nat.zero_add]
  rw [write, bind_eq_ok_iff]
  simp only [start_eq_ok_iff, bind_eq_ok_iff, foldlM_append_eq_ok_iff]
  constructor
  · rintro ⟨draft, ⟨htitle, rfl⟩, after, ⟨hrows, rfl⟩, hreport⟩
    refine ⟨htitle, hrows, ?_⟩
    rw [← Except.ok.inj hreport, sheet_foldl_added, hwritten]
  · rintro ⟨htitle, hrows, rfl⟩
    refine ⟨_, ⟨htitle, rfl⟩, _, ⟨hrows, rfl⟩, ?_⟩
    rw [sheet_foldl_added, hwritten]
    rfl

theorem sheet_eq_ok_iff {s : Table.Sheet} :
    sheet title rows = .ok s
      ↔ IsTitle title ∧ (∀ row ∈ rows, Writable row) ∧ s = sheetOf title rows := by
  rw [sheet]
  constructor
  · intro h
    cases hwrite : write title rows with
    | error e =>
        rw [hwrite] at h
        exact nomatch h
    | ok report =>
        obtain ⟨htitle, hrows, rfl⟩ := write_eq_ok_iff.mp hwrite
        rw [hwrite] at h
        exact ⟨htitle, hrows, (Except.ok.inj h).symm⟩
  · rintro ⟨htitle, hrows, rfl⟩
    rw [write_eq_ok_iff.mpr ⟨htitle, hrows, rfl⟩]
    rfl

end LeadScreen.Report
