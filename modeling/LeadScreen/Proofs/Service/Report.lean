import LeadScreen.Proofs.Report.GivenBack
import LeadScreen.Proofs.Service.Table
import LeadScreen.Proofs.Table.Utf8
import Mathlib.Data.List.TakeWhile

set_option autoImplicit false

/-! # The report and the verdicts

The verdicts on a table and the report on it are requested apart. Where there are verdicts there is a
report only if every text can be written and the name of the file into a header; the report has
the same rows only if the texts fit into cells (`Fits`), and it gives them back only if none of them
is taken for a formula, or has a character that a file does not keep (`validate_report_agrees_iff`).
-/

namespace LeadScreen.Service

open Report

variable {settings : Settings} {body : Body} {u : Upload} {response : Response} {t : Text}
  {rows : List Judged}

/-! ## The name of a report -/

theorem header_eq_ok_iff {shown : Text} :
    header t = .ok shown ↔ (∀ c ∈ t, isNarrow c = true) ∧ shown = t := by
  rw [header, ← List.dropWhile_eq_nil_iff]
  cases t.dropWhile isNarrow with
  | nil => simp [eq_comm]
  | cons first rest => simp

/-- A report on a file can be named after it: no character of its stem is too wide. -/
def HasNarrowStem (fileName : Text) : Prop :=
  ∀ c ∈ Path.stem fileName, isNarrow c = true

def dispositionFront : Text :=
  "attachment; filename=\""

def dispositionBack : Text :=
  "_result.xlsx\""

/-- The stem of the name of a report, where the name of the file has none. -/
def spareStem : Text :=
  "leads"

def dispositionOf (fileName : Text) : Text :=
  dispositionFront
    ++ (if (Path.stem fileName).isEmpty then spareStem else Path.stem fileName) ++ dispositionBack

theorem isNarrow_fixed :
    (∀ c ∈ dispositionFront, isNarrow c = true) ∧ (∀ c ∈ dispositionBack, isNarrow c = true)
      ∧ ∀ c ∈ spareStem, isNarrow c = true :=
  ⟨List.all_eq_true.mp (by decide), List.all_eq_true.mp (by decide),
    List.all_eq_true.mp (by decide)⟩

theorem isNarrow_dispositionOf_iff {fileName : Text} :
    (∀ c ∈ dispositionOf fileName, isNarrow c = true) ↔ HasNarrowStem fileName := by
  obtain ⟨hfront, hback, hspare⟩ := isNarrow_fixed
  rw [dispositionOf, HasNarrowStem, List.forall_mem_append, List.forall_mem_append]
  split
  · rename_i hempty
    rw [List.isEmpty_iff.mp hempty]
    exact ⟨fun _ => nofun, fun _ => ⟨⟨hfront, hspare⟩, hback⟩⟩
  · exact ⟨fun h => h.1.2, fun h => ⟨⟨hfront, h⟩, hback⟩⟩

theorem reportDisposition_eq_ok_iff {fileName shown : Text} :
    reportDisposition fileName = .ok shown
      ↔ HasNarrowStem fileName ∧ shown = dispositionOf fileName := by
  have hheader : reportDisposition fileName = header (dispositionOf fileName) := rfl
  rw [hheader, header_eq_ok_iff, isNarrow_dispositionOf_iff]

/-! ## What an answer says -/

/-- From the data of a verdict the verdict can be told. -/
theorem verdictData_injective : Function.Injective verdictData := by
  rintro ⟨finding, comment⟩ ⟨finding', comment'⟩ h
  simp only [verdictData, Json.Value.object.injEq, List.cons.injEq, Prod.mk.injEq,
    Json.Value.text.injEq, true_and, and_true] at h
  obtain ⟨hname, hcomment⟩ := h
  rw [Finding.name_inj.mp hname, Verdict.mk.injEq]
  refine ⟨rfl, ?_⟩
  cases comment with
  | none =>
      cases comment' with
      | none => rfl
      | some t' => exact nomatch hcomment
  | some t =>
      cases comment' with
      | none => exact nomatch hcomment
      | some t' => exact congrArg some (Json.Value.text.inj hcomment)

theorem leadData_injective : Function.Injective leadData := by
  intro lead lead' h
  have hcolumns := List.map_inj_left.mp (Json.Value.object.inj h)
  refine Lead.ext_get fun column => ?_
  exact Json.Value.text.inj (Prod.mk.inj (hcolumns column (Column.mem_all column))).2

theorem judgedData_injective : Function.Injective judgedData := by
  rintro ⟨lead, verdict⟩ ⟨lead', verdict'⟩ h
  simp only [judgedData, Json.Value.object.injEq, List.cons.injEq, Prod.mk.injEq, true_and,
    and_true] at h
  rw [leadData_injective h.1, verdictData_injective h.2]

/-- **The rows can be told from the answer.** -/
theorem tableData_injective : Function.Injective tableData := by
  intro rows rows' h
  have hrows := (Prod.mk.inj (List.cons.inj (Json.Value.object.inj h)).1).2
  exact judgedData_injective.list_map (Json.Value.array.inj hrows)

/-! ## When there is a report -/

theorem mapError_eq_ok_iff {α ε ε' : Type} {x : Except ε α} {f : ε → ε'} {a : α} :
    x.mapError f = .ok a ↔ x = .ok a := by
  cases x with
  | error e => exact ⟨nofun, nofun⟩
  | ok b => rw [Except.mapError, Except.ok.injEq, Except.ok.injEq]

def reportOf (title fileName : Text) (rows : List Judged) : Response where
  status := 200
  contentType := Table.workbookType
  disposition := some (dispositionOf fileName)
  content := .workbook (sheetOf title rows)

/-- **When there is a report**, and what is in it. -/
theorem respond_report_eq_ok_iff (hu : uploadOf body = .ok u) (h : u.reading.error = none)
    (hrows : rows = judgeAll settings.titleDemand u.reading.leads) :
    respond settings (reportRequest body) = .ok response
      ↔ (IsTitle settings.sheetName ∧ (∀ row ∈ rows, Writable row) ∧ HasNarrowStem u.fileName)
        ∧ response = reportOf settings.sheetName u.fileName rows := by
  have hsteps : respondWithReport settings body
      = ((sheet settings.sheetName rows).mapError .report >>= fun sheet =>
          (reportDisposition u.fileName).mapError .header >>= fun disposition =>
            .ok { status := 200, contentType := Table.workbookType,
                  disposition := some disposition, content := .workbook sheet }) := by
    rw [respondWithReport, judgedUpload_of_rows hu h, hrows]
    rfl
  rw [respond_reportRequest, hsteps, bind_eq_ok_iff]
  simp only [bind_eq_ok_iff, mapError_eq_ok_iff, sheet_eq_ok_iff, reportDisposition_eq_ok_iff]
  constructor
  · rintro ⟨sheet, ⟨htitle, hwritable, rfl⟩, shown, ⟨hnarrow, rfl⟩, hresponse⟩
    exact ⟨⟨htitle, hwritable, hnarrow⟩, (Except.ok.inj hresponse).symm⟩
  · rintro ⟨⟨htitle, hwritable, hnarrow⟩, rfl⟩
    exact ⟨_, ⟨htitle, hwritable, rfl⟩, _, ⟨hnarrow, rfl⟩, rfl⟩

/-! ## When it has the same rows -/

/-- All texts of the rows fit exactly if they can be written and are short enough. -/
theorem forall_fits_iff :
    (∀ row ∈ rows, ∀ t ∈ texts row, Fits t)
      ↔ (∀ row ∈ rows, Writable row) ∧ ∀ row ∈ rows, ∀ t ∈ texts row, t.length ≤ cellLimit := by
  simp only [fits_iff, forall_and, Writable]

/-- The response is a workbook with the rows under the names of their columns. -/
def IsReportOf (response : Response) (rows : List Judged) : Prop :=
  response.status = 200 ∧ ∃ title, response.content
    = .workbook ⟨title, columnNames.map .text :: rows.map fun row => (texts row).map .text⟩

/-- The response is a workbook, and its file gives back the rows under the names of their columns. -/
def GivesBack (response : Response) (rows : List Judged) : Prop :=
  response.status = 200 ∧ ∃ sheet, response.content = .workbook sheet
    ∧ sheet.givenBack? = some ((columnNames :: rows.map texts).map fun row => row.map plainCell)

theorem isReportOf_reportOf_iff {title fileName : Text} :
    IsReportOf (reportOf title fileName rows) rows
      ↔ ∀ row ∈ rows, ∀ t ∈ texts row, t.length ≤ cellLimit := by
  have hrow : ∀ row, cellsOf row = (texts row).map .text
      ↔ ∀ t ∈ texts row, t.length ≤ cellLimit := by
    intro row
    rw [cellsOf, List.map_inj_left]
    exact forall₂_congr fun t _ => keptCell_eq_text_iff
  have hrows : rows.map cellsOf = rows.map (fun row => (texts row).map .text)
      ↔ ∀ row ∈ rows, ∀ t ∈ texts row, t.length ≤ cellLimit := by
    rw [List.map_inj_left]
    exact forall₂_congr fun row _ => hrow row
  rw [← hrows]
  constructor
  · rintro ⟨-, title', hcontent⟩
    have hsheet := Content.workbook.inj hcontent
    exact (List.cons.inj (Table.Sheet.mk.inj hsheet).2).2
  · intro h
    refine ⟨rfl, shownTitle title, ?_⟩
    show Content.workbook ⟨_, columnNames.map .text :: rows.map cellsOf⟩ = _
    rw [h]

theorem givesBack_reportOf_iff {title fileName : Text} (hwritable : ∀ row ∈ rows, Writable row)
    (htitle : ∀ c ∈ title, Table.isForeign c = false) :
    GivesBack (reportOf title fileName rows) rows
      ↔ ∀ row ∈ rows, ∀ t ∈ texts row, t.length ≤ cellLimit ∧ ¬ IsFormula t ∧ IsPlain t := by
  have hnames : columnNames.map plainCell = columnNames.map .text := by
    decide
  -- row by row and text by text: it can be read, and comes back
  have hrows : (rows.map texts).map (fun row => row.map plainCell) = rows.map backRow
      ↔ ∀ row ∈ rows, ∀ t ∈ texts row, backCell t = plainCell t := by
    rw [List.map_map, List.map_inj_left]
    refine forall₂_congr fun row _ => ?_
    rw [Function.comp_apply, backRow, List.map_inj_left]
    exact forall₂_congr fun t _ => eq_comm
  have hback : GivesBack (reportOf title fileName rows) rows
      ↔ Readable title rows ∧ ∀ row ∈ rows, ∀ t ∈ texts row, backCell t = plainCell t := by
    rw [← hrows, GivesBack]
    constructor
    · rintro ⟨-, sheet, hcontent, hgiven⟩
      obtain rfl := Content.workbook.inj hcontent
      obtain ⟨hreadable, hsame⟩ := (givenBack?_sheetOf_iff hwritable).mp hgiven
      exact ⟨hreadable, (List.cons.inj hsame).2⟩
    · rintro ⟨hreadable, hsame⟩
      refine ⟨rfl, sheetOf title rows, rfl, (givenBack?_sheetOf_iff hwritable).mpr
        ⟨hreadable, ?_⟩⟩
      rw [List.map_cons, hnames, hsame]
  rw [hback]
  constructor
  · rintro ⟨hreadable, hsame⟩ row hrow t ht
    exact isReadable_and_backCell_iff.mp ⟨hreadable.texts row hrow t ht, hsame row hrow t ht⟩
  · intro h
    have hboth := fun row hrow t ht => isReadable_and_backCell_iff.mpr (h row hrow t ht)
    exact ⟨⟨htitle, fun row hrow t ht => (hboth row hrow t ht).1⟩,
      fun row hrow t ht => (hboth row hrow t ht).2⟩

/-- The title of report sheets that nobody has set can stand in markup. -/
theorem not_isForeign_default : ∀ c ∈ ({} : Settings).sheetName, Table.isForeign c = false := by
  have hall : (({} : Settings).sheetName.all fun c => !Table.isForeign c) = true := by decide
  simpa using hall

/-- A file arrives under a name of its own. -/
theorem fileName_of_uploadOf {v : Upload} (h : uploadOf (.upload u) = .ok v) :
    v.fileName = arrivedName u.fileName := by
  rw [uploadOf] at h
  split at h
  · exact nomatch h
  · split at h
    · exact nomatch h
    · exact congrArg Upload.fileName (Except.ok.inj h).symm

/-- **When a report has a property**: it is answered, and what is answered has it. -/
theorem exists_report_iff (settings : Settings) (htitle : IsTitle settings.sheetName) {v : Upload}
    (hv : uploadOf (.upload u) = .ok v) (h : v.reading.error = none) (P : Response → Prop)
    (hrows : rows = judgeAll settings.titleDemand v.reading.leads) :
    (∃ report, respond settings (reportRequest (.upload u)) = .ok report ∧ P report)
      ↔ ((∀ row ∈ rows, Writable row) ∧ HasNarrowStem (arrivedName u.fileName))
        ∧ P (reportOf settings.sheetName v.fileName rows) := by
  rw [← fileName_of_uploadOf hv]
  constructor
  · rintro ⟨report, hreport, hP⟩
    obtain ⟨⟨-, hwritable⟩, rfl⟩ := (respond_report_eq_ok_iff hv h hrows).mp hreport
    exact ⟨hwritable, hP⟩
  · rintro ⟨hwritable, hP⟩
    exact ⟨_, (respond_report_eq_ok_iff hv h hrows).mpr ⟨⟨htitle, hwritable⟩, rfl⟩, hP⟩

/-- **Where there are verdicts, when is there a report of the same rows?** For every file for which
the verdicts are answered, with the rows that the answer has: the report is answered exactly if
every text of them can be written and the stem of the name of the file is narrow; it has the same rows
exactly if, besides, every text of them fits into a cell; and its file gives them back exactly if,
besides, none of the texts is a formula, and none has a carriage return, which would come back as a
line feed, or one of the characters with which no parser reads the file. -/
theorem validate_report_agrees_iff (h : respond {} (tableRequest (.upload u)) = .ok response)
    (hstatus : response.status = 200) :
    ∃ rows, (∀ rows', response = .ofData 200 (tableData rows') ↔ rows' = rows)
      ∧ ((∃ report, respond {} (reportRequest (.upload u)) = .ok report ∧ report.status = 200)
        ↔ (∀ row ∈ rows, ∀ t ∈ texts row, IsWritable t)
          ∧ HasNarrowStem (arrivedName u.fileName))
      ∧ ((∃ report, respond {} (reportRequest (.upload u)) = .ok report ∧ IsReportOf report rows)
        ↔ (∀ row ∈ rows, ∀ t ∈ texts row, Fits t) ∧ HasNarrowStem (arrivedName u.fileName))
      ∧ ((∃ report, respond {} (reportRequest (.upload u)) = .ok report ∧ GivesBack report rows)
        ↔ (∀ row ∈ rows, ∀ t ∈ texts row, Fits t ∧ ¬ IsFormula t ∧ IsPlain t)
          ∧ HasNarrowStem (arrivedName u.fileName)) := by
  obtain ⟨v, hv, herror, rfl⟩ := respond_table_ok_iff.mp ⟨h, hstatus⟩
  -- from here on the rows are any rows of which the two answers are made
  generalize hrows : judgeAll ({} : Settings).titleDemand v.reading.leads = rows
  have hreport := fun P => exists_report_iff {} isTitle_default hv herror P hrows.symm
  refine ⟨rows, ?_, ?_, ?_, ?_⟩
  · intro rows'
    constructor
    · intro hdata
      have hcontent := (Response.mk.inj hdata).2.2.2
      exact (tableData_injective (Content.data.inj hcontent)).symm
    · rintro rfl
      rfl
  · rw [hreport]
    exact and_iff_left rfl
  · rw [hreport, isReportOf_reportOf_iff, forall_fits_iff]
    exact and_right_comm
  · rw [hreport]
    simp only [forall_and, forall_fits_iff]
    constructor
    · rintro ⟨⟨hwritable, hnarrow⟩, hback⟩
      have hkept := (givesBack_reportOf_iff hwritable not_isForeign_default).mp hback
      simp only [forall_and] at hkept
      exact ⟨⟨⟨hwritable, hkept.1⟩, hkept.2⟩, hnarrow⟩
    · rintro ⟨⟨⟨hwritable, hshort⟩, hkept⟩, hnarrow⟩
      refine ⟨⟨hwritable, hnarrow⟩, (givesBack_reportOf_iff hwritable not_isForeign_default).mpr ?_⟩
      simp only [forall_and]
      exact ⟨hshort, hkept⟩

/-- Comma-separated values with one column, the companies of the leads. -/
def companiesUpload (companies : List Text) : Upload where
  field := uploadField
  fileName := "leads.csv"
  contentType := some "text/csv"
  content := .bytes (Table.asciiBytes (Text.joinWith ['\n'] ("company" :: companies)))

theorem uploadOf_companiesUpload (companies : List Text) :
    uploadOf (.upload (companiesUpload companies)) = .ok (companiesUpload companies) :=
  rfl

theorem respond_companiesUpload {companies : List Text} {leads : List Lead}
    (h : (companiesUpload companies).reading = ⟨leads, none⟩) :
    respond {} (tableRequest (.upload (companiesUpload companies)))
      = .ok (.ofData 200 (tableData (judgeAll {} leads))) := by
  have hrespond : respond {} (tableRequest (.upload (companiesUpload companies)))
      = .ok (.ofData 200 (tableData (judgeAll {} (companiesUpload companies).reading.leads))) :=
    respond_table_of_rows (uploadOf_companiesUpload companies) (congrArg Table.Reading.error h)
  rw [hrespond, h]

/-- A company with a plain name comes back from the report. -/
theorem validate_report_agrees_on_company :
    ∃ report, respond {} (reportRequest (.upload (companiesUpload ["Acme"]))) = .ok report
      ∧ GivesBack report (judgeAll {} [{ company := "Acme" }]) := by
  have hreading : (companiesUpload ["Acme"]).reading = ⟨[{ company := "Acme" }], none⟩ := by
    decide +kernel
  obtain ⟨rows, hrows, -, -, hgives⟩ :=
    validate_report_agrees_iff (respond_companiesUpload hreading) rfl
  obtain rfl := (hrows _).mp rfl
  refine hgives.mpr ⟨?_, ?_⟩
  · decide +kernel
  · exact List.all_eq_true.mp (by decide +kernel)

/-- **A control character in a lead leaves no report** where there are verdicts. -/
theorem control_character_without_report :
    respond {} (tableRequest (.upload (companiesUpload ["A\x01"])))
        = .ok (.ofData 200 (tableData (judgeAll {} [{ company := "A\x01" }])))
      ∧ ¬ ∃ report, respond {} (reportRequest (.upload (companiesUpload ["A\x01"]))) = .ok report := by
  have hreading : (companiesUpload ["A\x01"]).reading = ⟨[{ company := "A\x01" }], none⟩ := by
    decide +kernel
  refine ⟨respond_companiesUpload hreading, ?_⟩
  rintro ⟨report, hreport⟩
  obtain ⟨⟨-, hwritable, -⟩, -⟩ := (respond_report_eq_ok_iff
    (uploadOf_companiesUpload ["A\x01"]) (congrArg Table.Reading.error hreading) rfl).mp hreport
  rw [hreading] at hwritable
  have hrefused : isRefused '\x01' = false :=
    hwritable _ List.mem_cons_self "A\x01" (by decide +kernel) '\x01' (by decide +kernel)
  exact nomatch hrefused

end LeadScreen.Service
