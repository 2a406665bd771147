import LeadScreen.Table.Cell
import LeadScreen.Text.Lines

set_option autoImplicit false

/-!
# Sheets

A sheet is put together from rows of cells and goes into a file as markup. A parser of the file finds
the texts with line feeds as their only line ends; and of a sheet with a character that markup cannot
hold there is nothing to be read.
-/

namespace LeadScreen.Table

structure Sheet where
  title : Text
  rows : List Row
deriving DecidableEq, Repr

/-- Markup holds no controls but the tabulator and the ends of lines, and not the last two characters
of the first plane. -/
def isForeign (c : Char) : Bool :=
  (c.toNat < 32 && !(c == '\t' || c == '\n' || c == '\r')) || c == '\uFFFE' || c == '\uFFFF'

namespace Cell

def isForeign : Cell → Bool
  | .text t => t.any Table.isForeign
  | _ => false

/-- The cell as a parser of its file finds it. -/
def parsed : Cell → Cell
  | .text t => .text t.withLineFeeds
  | cell => cell

end Cell

namespace Sheet

/-- Whether the file of the sheet can be parsed. -/
def isParsable (s : Sheet) : Bool :=
  !s.title.any isForeign && s.rows.all fun row => row.all fun cell => !cell.isForeign

/-- The sheet as a parser of its file finds it. -/
def parsed (s : Sheet) : Sheet :=
  { s with rows := s.rows.map fun row => row.map Cell.parsed }

/-- What a reader of values is given back for the rows of the sheet, if anything. -/
def givenBack? (s : Sheet) : Option (List Row) :=
  if s.isParsable then some (s.parsed.rows.map fun row => row.map Cell.stored) else none

end Sheet

example : Sheet.givenBack? ⟨"S1", [[.text "a\r\nb", .text "=1", .text "\uFFFD"]]⟩
    = some [[.text "a\nb", .blank, .text "\uFFFD"]] := by
  decide +kernel

end LeadScreen.Table
