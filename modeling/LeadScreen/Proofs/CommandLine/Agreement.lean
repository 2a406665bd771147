import LeadScreen.Proofs.CommandLine.Screen
import LeadScreen.Proofs.Report.GivenBack
import LeadScreen.Proofs.Service.Table
import LeadScreen.Proofs.Table.Padding
import LeadScreen.Proofs.Rule.Dispatch
import Mathlib.Data.List.Forall2

set_option autoImplicit false

/-! # Screening and the service

A screening either fails and leaves the folder as it was, or the report has one row for each lead of
the table, in its order, and the counts are those of these rows. They are also the counts that the
service answers for the same file. What a row of the saved report shows of the verdict is the finding,
and the comment as far as it comes back from a file (`showsVerdict_backRow_iff`).
-/

namespace LeadScreen.CommandLine

open Report

variable {settings : Settings} {folder after : Folder} {input output : Text} {tally : Tally}
  {row : Judged} {rows : List Judged}

/-! ## What a row shows -/

/-- The row of a report shows the finding, behind the columns of the lead. -/
def ShowsFinding (cells : Table.Row) (f : Finding) : Prop :=
  (cells.drop Column.all.length).head? = some (.text f.name)

instance (cells : Table.Row) (f : Finding) : Decidable (ShowsFinding cells f) :=
  inferInstanceAs (Decidable ((cells.drop Column.all.length).head? = some (.text f.name)))

/-- The row of a report shows the finding and the whole comment, behind the columns of the lead. -/
def ShowsVerdict (cells : Table.Row) (v : Verdict) : Prop :=
  cells.drop Column.all.length = [.text v.finding.name, plainCell (v.comment.getD [])]

theorem drop_backRow (row : Judged) :
    (backRow row).drop Column.all.length
      = [backCell row.verdict.finding.name, backCell (row.verdict.comment.getD [])] := by
  have hlength : (Column.all.map row.lead.get).length = Column.all.length := List.length_map _
  rw [backRow, ← List.map_drop, texts, ← hlength, List.drop_left]
  rfl

theorem backCell_name (f : Finding) : backCell f.name = .text f.name := by
  cases f <;> decide

theorem showsFinding_backRow_iff {f : Finding} :
    ShowsFinding (backRow row) f ↔ row.verdict.finding = f := by
  rw [ShowsFinding, drop_backRow, List.head?_cons, backCell_name, Option.some.injEq,
    Table.Cell.text.injEq, Finding.name_inj]

/-- **A verdict shows** exactly if its comment comes back from a file. -/
theorem showsVerdict_backRow_iff :
    ShowsVerdict (backRow row) row.verdict
      ↔ ∀ comment ∈ row.verdict.comment, backCell comment = plainCell comment := by
  rw [ShowsVerdict, drop_backRow, backCell_name, List.cons.injEq, List.cons.injEq]
  cases row.verdict.comment with
  | none =>
      have hempty : backCell [] = plainCell [] := rfl
      simp [hempty]
  | some comment => simp

/-! ## Counting -/

/-- Each count is the number of the rows of the report that show the finding. -/
theorem get_ofRows_eq_countP_backRow (rows : List Judged) (f : Finding) :
    (Tally.ofRows rows).get f
      = (rows.map backRow).countP fun cells => decide (ShowsFinding cells f) := by
  rw [Tally.get_ofRows, List.countP_map]
  refine List.countP_congr fun row _ => ?_
  simp [showsFinding_backRow_iff]

/-! ## The same file elsewhere -/

/-- A file that can be read to its end is read likewise where it is uploaded under its name. -/
theorem reading_of_readTable {u : Service.Upload} (hname : u.fileName = Path.name input)
    (hcontent : folder.files.get? (Path.normal input) = some u.content)
    (h : (folder.readTable input).error = none) : u.reading = folder.readTable input := by
  rw [Folder.readTable] at h ⊢
  split at h
  · cases h
  · rename_i hup
    rw [if_neg hup]
    rw [hcontent] at h ⊢
    rw [Service.Upload.reading, hname]
    exact Table.read_content_of_path h u.contentType

/-- The data on a table are its rows and the counts of them. -/
theorem get?_tableData (rows : List Judged) :
    (Service.tableData rows).get? "rows".toList = some (.array (rows.map Service.judgedData))
      ∧ (Service.tableData rows).get? "counts".toList
        = some (Service.tallyData (.ofRows rows)) :=
  ⟨rfl, rfl⟩

/-! ## What a screening leaves -/

/-- A file that something is saved in is the one that the path names. -/
theorem eq_of_target_eq_file {name : Text} (h : folder.target output = .file name) :
    name = Path.normal output := by
  unfold Folder.target at h
  split at h
  · cases h
  · split at h
    · cases h
    · split at h
      · split at h
        · cases h
        · exact (Folder.Target.file.inj h).symm
      · split at h
        · cases h
        · split at h
          · cases h
          · cases h

/-- Where something is saved: in a file, and then nothing else changes, or above the folder. -/
theorem save_eq_ok_iff {sheet : Table.Sheet} :
    folder.save output sheet = .ok after
      ↔ (folder.target output = .file (Path.normal output)
          ∧ after = { folder with
              files := folder.files.set (Path.normal output)
                (.ofSheet sheet (folder.pack sheet)) })
        ∨ folder.target output = .above ∧ after = folder := by
  rw [Folder.save]
  cases htarget : folder.target output with
  | file name =>
      obtain rfl := eq_of_target_eq_file htarget
      simp [eq_comm]
  | above => simp [eq_comm]
  | fault f => simp

/-- **What the saved report gives back.** -/
structure GivenBack (settings : Settings) (tally : Tally) (leads : List Lead)
    (back : List Table.Row) : Prop where
  /-- Under the names of the columns there is one row for each lead, in their order. -/
  rows : back = columnNames.map .text
    :: leads.map fun lead => backRow ⟨lead, Rule.judge settings.titleDemand lead⟩
  /-- Each row shows what is found about its lead. -/
  findings : List.Forall₂
    (fun cells lead => ShowsFinding cells (Rule.judge settings.titleDemand lead).finding)
    back.tail leads
  /-- Each count is the number of the rows with that finding. -/
  counts : ∀ f, tally.get f = back.tail.countP fun cells => decide (ShowsFinding cells f)
  /-- The counts add up to the number of rows. -/
  total : tally.total = back.tail.length

/-- **Everything is in the report.** -/
structure Completed (settings : Settings) (folder : Folder) (input output : Text) (after : Folder)
    (tally : Tally) (leads : List Lead) (sheet : Table.Sheet) : Prop where
  /-- The table is read to its end. -/
  read : folder.readTable input = ⟨leads, none⟩
  /-- The report is saved, and nothing else changes. -/
  saved : (folder.target output = .file (Path.normal output)
      ∧ after = { folder with
          files := folder.files.set (Path.normal output) (.ofSheet sheet (folder.pack sheet)) })
    ∨ folder.target output = .above ∧ after = folder
  /-- The sheet is that of the judged leads, and the tally counts them. -/
  written : sheet = sheetOf settings.sheetName (judgeAll settings.titleDemand leads)
    ∧ tally = .ofRows (judgeAll settings.titleDemand leads)
  /-- Its file can be read exactly if the title and what the cells keep can stand in markup. -/
  readable : (∃ back, sheet.givenBack? = some back)
    ↔ Readable settings.sheetName (judgeAll settings.titleDemand leads)
  /-- If it can, all the rows come back. -/
  givenBack : ∀ back, sheet.givenBack? = some back → GivenBack settings tally leads back
  /-- Rows that show the whole verdicts come back exactly if the file can be read, every comment fits
  into a cell, and none is a formula or has a carriage return. -/
  verdicts : (∃ back, sheet.givenBack? = some back
      ∧ List.Forall₂ (fun cells lead => ShowsVerdict cells (Rule.judge settings.titleDemand lead))
        back.tail leads)
    ↔ Readable settings.sheetName (judgeAll settings.titleDemand leads)
      ∧ ∀ lead ∈ leads, ∀ comment ∈ (Rule.judge settings.titleDemand lead).comment,
        comment.length ≤ cellLimit ∧ ¬ IsFormula comment ∧ '\r' ∉ comment
  /-- For the same file under its name the service answers the same verdicts and counts. -/
  service : ∀ body u, Service.uploadOf body = .ok u → u.fileName = Path.name input →
    folder.files.get? (Path.normal input) = some u.content →
      ∃ data, Service.respond settings (Service.tableRequest body) = .ok (.ofData 200 data)
        ∧ data.get? "rows".toList
          = some (.array ((judgeAll settings.titleDemand leads).map Service.judgedData))
        ∧ data.get? "counts".toList = some (Service.tallyData tally)

/-- The rows of a report come back with what was counted. -/
theorem givenBack_ofRows (settings : Settings) (leads : List Lead) :
    GivenBack settings (.ofRows (judgeAll settings.titleDemand leads)) leads
      (columnNames.map .text :: (judgeAll settings.titleDemand leads).map backRow) where
  rows := by
    rw [judgeAll, List.map_map]
    rfl
  -- the rows behind the names of the columns are those of the leads, one by one
  findings := by
    rw [List.tail_cons, judgeAll, List.map_map, List.forall₂_map_left_iff, List.forall₂_same]
    exact fun lead _ => showsFinding_backRow_iff.mpr rfl
  counts := get_ofRows_eq_countP_backRow _
  total := by
    rw [List.tail_cons, List.length_map]
    exact Tally.total_ofRows _

theorem forall₂_showsVerdict_iff (demand : Rule.TitleDemand) (leads : List Lead) :
    List.Forall₂ (fun cells lead => ShowsVerdict cells (Rule.judge demand lead))
        ((judgeAll demand leads).map backRow) leads
      ↔ ∀ lead ∈ leads, ∀ comment ∈ (Rule.judge demand lead).comment,
        comment.length ≤ cellLimit ∧ ¬ IsFormula comment ∧ '\r' ∉ comment := by
  rw [judgeAll, List.map_map, List.forall₂_map_left_iff, List.forall₂_same]
  refine forall₂_congr fun lead _ => showsVerdict_backRow_iff.trans ?_
  exact forall₂_congr fun comment _ => backCell_eq_plainCell_iff

theorem completed_of_screen_eq_ok (h : screen settings folder input output = (after, .ok tally)) :
    ∃ leads sheet, Completed settings folder input output after tally leads sheet := by
  obtain ⟨herror, -, hwritable, hsave, rfl⟩ := (screen_eq_ok_iff rfl).mp h
  obtain ⟨leads, hread⟩ : ∃ leads, folder.readTable input = ⟨leads, none⟩ :=
    ⟨(folder.readTable input).leads, by rw [← herror]⟩
  rw [hread] at hsave hwritable ⊢
  dsimp only at hsave hwritable ⊢
  have hback : ∀ back, (sheetOf settings.sheetName (judgeAll settings.titleDemand leads)).givenBack?
        = some back
      ↔ Readable settings.sheetName (judgeAll settings.titleDemand leads)
        ∧ back = columnNames.map .text :: (judgeAll settings.titleDemand leads).map backRow :=
    fun _ => givenBack?_sheetOf_iff hwritable
  refine ⟨leads, sheetOf settings.sheetName (judgeAll settings.titleDemand leads), ?_⟩
  constructor
  case read => exact hread
  case saved => exact save_eq_ok_iff.mp hsave
  case written => exact ⟨rfl, rfl⟩
  case readable => simp [hback]
  case givenBack =>
    intro back hsome
    obtain ⟨-, rfl⟩ := (hback back).mp hsome
    exact givenBack_ofRows settings leads
  case verdicts =>
    rw [← forall₂_showsVerdict_iff]
    constructor
    · rintro ⟨back, hsome, hshows⟩
      obtain ⟨hreadable, rfl⟩ := (hback back).mp hsome
      exact ⟨hreadable, hshows⟩
    · rintro ⟨hreadable, hshows⟩
      exact ⟨_, (hback _).mpr ⟨hreadable, rfl⟩, hshows⟩
  case service =>
    intro body u hu hname hcontent
    have hreading : u.reading = ⟨leads, none⟩ :=
      (reading_of_readTable hname hcontent herror).trans hread
    refine ⟨_, Service.respond_table_of_rows hu (congrArg Table.Reading.error hreading), ?_⟩
    rw [hreading]
    exact get?_tableData _

/-- **All or nothing.** Every screening either fails and leaves the folder as it was, whatever rows it
has gone through, or everything is in the report. And however many rows have been taken from judged
leads that are counted as they come, they are the first ones, and the tally is the one of these. -/
theorem screen_all_or_nothing (settings : Settings) (folder : Folder) (input output : Text) :
    ((∃ failure, screen settings folder input output = (folder, .error failure))
      ∨ ∃ after tally leads sheet,
        screen settings folder input output = (after, .ok tally)
          ∧ Completed settings folder input output after tally leads sheet)
    ∧ ∀ reading k,
      let taken := Flow.take settings.titleDemand k ⟨reading, {}⟩
      taken.1 = (judgeAll settings.titleDemand reading.leads).take k
        ∧ taken.2.tally = .ofRows taken.1
        ∧ ∀ f, taken.2.tally.get f = taken.1.countP fun row => decide (row.verdict.finding = f) := by
  constructor
  · cases houtcome : screen settings folder input output with
    | mk after outcome =>
        cases outcome with
        | error failure =>
            obtain rfl := folder_of_screen_eq_error houtcome
            exact Or.inl ⟨failure, rfl⟩
        | ok tally =>
            obtain ⟨leads, sheet, hcompleted⟩ := completed_of_screen_eq_ok houtcome
            exact Or.inr ⟨after, tally, leads, sheet, rfl, hcompleted⟩
  · intro reading k
    rw [Flow.take_eq]
    exact ⟨rfl, rfl, Tally.get_ofRows _⟩

/-! ## Leads with a status of their own -/

/-- A workbook with one lead, of which the status is given. -/
def statusFolder (t : Text) : Folder :=
  { files := [("leads.xlsx", .workbook [⟨"S1", [[.text "sub_status"], [.text t]]⟩] [])] }

/-- Nobody knows the status, and a workbook keeps it. -/
structure IsOddStatus (t : Text) : Prop where
  trimmed : t.trim = t
  unknown : ∀ s : SubStatus, t ≠ s.text
  stored : Table.Cell.stored (.text t) = .text t
  clean : ∀ c ∈ t, Table.isForeign c = false

section

variable {t : Text} (ht : IsOddStatus t)
include ht

theorem readSheets_status (title : Text) :
    Table.readSheets [⟨title, [[.text "sub_status"], [.text t]]⟩]
      = ⟨[{ subStatus := t }], none⟩ := by
  have hsome : t ≠ [] := by
    rintro rfl
    exact nomatch ht.stored
  have hname : Table.isBlankRow [Table.Cell.stored (.text "sub_status")] = false := by
    decide
  have hstatus : Table.isBlankRow [.text t] = false := by
    show (t.trim.isEmpty && true) = false
    rw [ht.trimmed, List.isEmpty_eq_false_iff.mpr hsome, Bool.false_and]
  have hheader : Table.Cell.header (Table.Cell.stored (.text "sub_status"))
      = Column.subStatus.name := by
    decide
  have hrows : Table.readSheets [⟨title, [[.text "sub_status"], [.text t]]⟩]
      = Table.readRows [[Table.Cell.stored (.text "sub_status")], [Table.Cell.stored (.text t)]]
        none := rfl
  have hlead : Table.leadOfRow [Column.subStatus.name] [.text t] = { subStatus := t } := by
    refine Lead.ext_get fun column => ?_
    rw [Table.get_leadOfRow, Table.textUnder, Table.cellUnder?_cons_cons,
      Table.cellUnder?_nil_right, Option.none_or]
    cases column with
    | subStatus => exact ht.trimmed
    | _ => rfl
  rw [hrows, ht.stored, Table.readRows, Table.leadsOf?, Table.filledRows, List.filter_cons,
    hname, List.filter_cons, hstatus]
  show Table.Reading.mk [Table.leadOfRow [Table.Cell.header _] [.text t]] none = _
  rw [hheader, hlead]

theorem readTable_statusFolder :
    (statusFolder t).readTable "leads.xlsx" = ⟨[{ subStatus := t }], none⟩ := by
  have hup : Path.isUpward "leads.xlsx" = false := by decide
  have hnormal : Path.normal "leads.xlsx" = "leads.xlsx".toList := by decide
  have hname : Path.name "leads.xlsx" = "leads.xlsx".toList := by decide
  have hformat : Table.formatOf? ((some "leads.xlsx".toList).getD []) ((none : Option Text).getD [])
      = some .workbook := by
    decide
  have hext : Table.workbookExtensions.elem (Text.lower (Table.extensionOf "leads.xlsx")) = true := by
    decide
  have hfile : (statusFolder t).files.get? "leads.xlsx".toList
      = some (.workbook [⟨"S1", [[.text "sub_status"], [.text t]]⟩] []) := rfl
  rw [Folder.readTable, hup, if_neg Bool.false_ne_true, hnormal, hname, hfile,
    Table.read_path_of_workbook _ _ hformat hext]
  exact readSheets_status ht "S1"

theorem judge_of_isOddStatus {demand : Rule.TitleDemand} :
    Rule.judge demand { subStatus := t } = .recheck ("Unknown sub_status: ".toList ++ t) :=
  Rule.judge_of_unknown fun s => ht.trimmed.symm ▸ ht.unknown s

/-- Whatever its row shows can stand in markup. -/
theorem not_isForeign_of_isOddStatus {demand : Rule.TitleDemand} :
    ∀ shown ∈ texts ⟨{ subStatus := t }, Rule.judge demand { subStatus := t }⟩,
      ∀ c ∈ shown, Table.isForeign c = false := by
  rw [judge_of_isOddStatus ht]
  intro shown hshown c hc
  rcases List.mem_append.mp hshown with hfield | hverdict
  · obtain ⟨column, -, rfl⟩ := List.mem_map.mp hfield
    cases column with
    | subStatus => exact ht.clean c hc
    | _ => exact absurd hc List.not_mem_nil
  · rcases List.mem_pair.mp hverdict with rfl | rfl
    · have hname : Finding.recheck.name.any Table.isForeign = false := by decide
      exact Bool.eq_false_iff.mpr (List.any_eq_false.mp hname c hc)
    · have hfront : "Unknown sub_status: ".toList.any Table.isForeign = false := by decide
      rcases List.mem_append.mp hc with hc | hc
      · exact Bool.eq_false_iff.mpr (List.any_eq_false.mp hfront c hc)
      · exact ht.clean c hc

theorem writable_of_isOddStatus {demand : Rule.TitleDemand} :
    ∀ row ∈ judgeAll demand [{ subStatus := t }], Writable row := by
  refine List.forall_mem_singleton.mpr fun shown hshown c hc => ?_
  exact (isForeign_eq_false_iff.mp
    (not_isForeign_of_isOddStatus ht shown hshown c (List.mem_of_mem_take hc))).1

theorem readable_of_isOddStatus {demand : Rule.TitleDemand} :
    Readable "Result" (judgeAll demand [{ subStatus := t }]) where
  title := by simp [Table.isForeign]
  texts := by
    refine List.forall_mem_singleton.mpr fun shown hshown c hc => ?_
    exact (isForeign_eq_false_iff.mp
      (not_isForeign_of_isOddStatus ht shown hshown c (List.mem_of_mem_take hc))).2

/-- Of a status that is long enough the comment does not show. -/
theorem not_showsVerdict_of_isOddStatus {demand : Rule.TitleDemand}
    (hlong : cellLimit < "Unknown sub_status: ".toList.length + t.length) :
    ¬ ShowsVerdict (backRow ⟨{ subStatus := t }, Rule.judge demand { subStatus := t }⟩)
      (Rule.judge demand { subStatus := t }) := by
  intro hshows
  rw [judge_of_isOddStatus ht] at hshows
  have hshort := (backCell_eq_plainCell_iff.mp (showsVerdict_backRow_iff.mp hshows _ rfl)).1
  rw [List.length_append] at hshort
  omega

theorem screen_statusFolder :
    screen {} (statusFolder t) "leads.xlsx" "output.xlsx"
      = ({ statusFolder t with
            files := (statusFolder t).files.set "output.xlsx"
              (.ofSheet (sheetOf "Result" (judgeAll {} [{ subStatus := t }])) []) },
          .ok (.ofRows (judgeAll {} [{ subStatus := t }]))) := by
  have hread := readTable_statusFolder ht
  refine (screen_eq_ok_iff rfl).mpr ?_
  rw [hread]
  refine ⟨rfl, isTitle_default, writable_of_isOddStatus ht, ?_, rfl⟩
  have hnormal : Path.normal "output.xlsx" = "output.xlsx".toList := by decide
  rw [save_eq_ok_iff, hnormal]
  exact Or.inl ⟨rfl, rfl⟩

end

/-- A screening of one lead comes through. -/
theorem screen_all_or_nothing_of_odd_status :
    ∃ after tally leads sheet,
      screen {} (statusFolder "N9: Ghost") "leads.xlsx" "output.xlsx" = (after, .ok tally)
        ∧ Completed {} (statusFolder "N9: Ghost") "leads.xlsx" "output.xlsx" after tally leads
          sheet := by
  have hodd : IsOddStatus "N9: Ghost" := by
    constructor
    case trimmed => decide +kernel
    case unknown => exact fun s => by cases s <;> decide +kernel
    case stored => decide +kernel
    case clean =>
      have hclean : "N9: Ghost".toList.any Table.isForeign = false := by decide +kernel
      exact fun c hc => Bool.eq_false_iff.mpr (List.any_eq_false.mp hclean c hc)
  obtain ⟨⟨failure, hfailure⟩ | hcompleted, -⟩ :=
    screen_all_or_nothing {} (statusFolder "N9: Ghost") "leads.xlsx" "output.xlsx"
  · rw [screen_statusFolder hodd] at hfailure
    exact nomatch (Prod.mk.inj hfailure).2
  · exact hcompleted

/-- A status as long as a cell may be. -/
def longStatus : Text :=
  List.replicate cellLimit 'x'

theorem isOddStatus_longStatus : IsOddStatus longStatus := by
  have hchar : ∀ c ∈ longStatus, c = 'x' := fun c hc => List.eq_of_mem_replicate hc
  have hlength : longStatus.length = cellLimit := List.length_replicate
  constructor
  case trimmed =>
    rw [Text.trim_eq_stripWhere, Text.stripWhere_eq_self_iff]
    constructor
    · intro c hc
      rw [hchar c (List.mem_of_mem_head? hc)]
      decide
    · intro c hc
      rw [hchar c (List.mem_of_mem_getLast? hc)]
      decide
  case unknown =>
    intro s hs
    have hshort : s.text.length < cellLimit := by cases s <;> decide
    rw [← hs, hlength] at hshort
    exact Nat.lt_irrefl cellLimit hshort
  case stored =>
    rw [longStatus, cellLimit, List.replicate_succ]
    rfl
  case clean =>
    intro c hc
    rw [hchar c hc]
    rfl

/-- **A long comment is cut**: the report is saved and can be read, and the row that comes back does
not show the verdict. -/
theorem long_comment_cut :
    ∃ after tally sheet cells,
      screen {} (statusFolder longStatus) "leads.xlsx" "output.xlsx" = (after, .ok tally)
        ∧ (statusFolder longStatus).readTable "leads.xlsx" = ⟨[{ subStatus := longStatus }], none⟩
        ∧ after.files.get? "output.xlsx".toList = some (.ofSheet sheet [])
        ∧ sheet.givenBack? = some [columnNames.map .text, cells]
        ∧ ¬ ShowsVerdict cells (Rule.judge {} { subStatus := longStatus }) := by
  have hodd := isOddStatus_longStatus
  refine ⟨_, _, _, backRow ⟨{ subStatus := longStatus }, Rule.judge {} { subStatus := longStatus }⟩,
    screen_statusFolder hodd, readTable_statusFolder hodd, Assoc.get?_set_self _ _ _,
    (givenBack?_sheetOf_iff (writable_of_isOddStatus hodd)).mpr
      ⟨readable_of_isOddStatus hodd, rfl⟩, ?_⟩
  refine not_showsVerdict_of_isOddStatus hodd ?_
  have hfront : "Unknown sub_status: ".toList.length = 20 := by decide
  rw [hfront, longStatus, List.length_replicate]
  omega

end LeadScreen.CommandLine
