import LeadScreen.Report.Tally
import LeadScreen.Table.Source

set_option autoImplicit false

/-!
# Report sheets

A report is a workbook with one sheet: a row of column names, then a row for each judged lead, with
the columns of the lead, the finding and the comment. A cell keeps the first characters of a long
text and refuses control characters; the title of a sheet refuses the marks that stand in
references to cells. Either all rows can be written or there is no report. The sheet is what is
written: what a reader gets of it from a file is `Table.Sheet.givenBack?`.
-/

namespace LeadScreen.Report

inductive Error where
  /-- The title holds a mark that it must not hold. -/
  | title (mark : Char)
  /-- A text, as far as a cell keeps it, holds a control character. -/
  | control (kept : Text)
deriving DecidableEq, Repr

namespace Error

def message : Error → Text
  | .title mark => "Invalid character ".toList ++ mark :: " found in sheet title".toList
  | .control kept => kept ++ " cannot be used in worksheets.".toList

end Error

/-! ## Cells -/

/-- How many characters of a text a cell keeps. -/
def cellLimit : Nat := 32767

/-- Whether a cell refuses a text with the character: the controls of ASCII but the tabulator, the
line feed and the carriage return. -/
def isRefused (c : Char) : Bool :=
  c.toNat < 32 && !(c == '\t' || c == '\n' || c == '\r')

/-- The cell that is written for a text, which it holds up to its limit. -/
def writeCell (t : Text) : Except Error Table.Cell :=
  let kept := t.take cellLimit
  if kept.any isRefused then .error (.control kept) else .ok (.text kept)

/-! ## Rows -/

def columnNames : List Text :=
  Column.all.map Column.name ++ ["result".toList, "comment".toList]

/-- The texts of a judged lead, a missing comment being empty. -/
def texts (row : Judged) : List Text :=
  Column.all.map row.lead.get ++ [row.verdict.finding.name, row.verdict.comment.getD []]

def writeRow (row : Judged) : Except Error Table.Row :=
  (texts row).mapM writeCell

/-! ## The sheet -/

def titleMarks : List Char :=
  ['\\', '*', '?', ':', '/', '[', ']']

/-- The title of a sheet; an empty one is replaced. -/
def writeTitle (title : Text) : Except Error Text :=
  match title.find? titleMarks.elem with
  | some mark => .error (.title mark)
  | none => .ok (if title.isEmpty then "Sheet" else title)

structure Draft where
  title : Text
  /-- The rows so far, the last one first. -/
  body : List Table.Row := []
  /-- How many rows there are so far. -/
  written : Nat := 0
deriving DecidableEq, Repr

namespace Draft

def start (title : Text) : Except Error Draft := do
  let title ← writeTitle title
  return { title := title }

def append (draft : Draft) (row : Judged) : Except Error Draft := do
  let cells ← writeRow row
  return { draft with body := cells :: draft.body, written := draft.written + 1 }

def sheet (draft : Draft) : Table.Sheet :=
  ⟨draft.title, columnNames.map .text :: draft.body.reverse⟩

end Draft

/-- The sheet of a report, and how many rows were written for it. -/
def write (title : Text) (rows : List Judged) : Except Error (Table.Sheet × Nat) := do
  let draft ← rows.foldlM Draft.append (← Draft.start title)
  return (draft.sheet, draft.written)

def sheet (title : Text) (rows : List Judged) : Except Error Table.Sheet :=
  (write title rows).map (·.1)

example : writeTitle "a:b/c".toList = .error (.title ':') := rfl

end LeadScreen.Report
