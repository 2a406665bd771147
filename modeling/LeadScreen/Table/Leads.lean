import LeadScreen.Lead.Record
import LeadScreen.Table.Cell

set_option autoImplicit false

/-!
# The leads of a table

The first row that is not blank names the columns; every later row that is not blank is a lead.
Columns that are no columns of a lead are passed over, and of two columns with one name the later
one counts. A row may be shorter or longer than the header row.
-/

namespace LeadScreen.Table

/-- Whether no cell of a row shows anything. -/
def isBlankRow (row : Row) : Bool :=
  row.all fun c => c.shown.isEmpty

/-- The cell under a header: the last one, if several columns have it. -/
def cellUnder? (headers : List Text) (row : Row) (name : Text) : Option Cell :=
  ((headers.zip row).reverse.find? fun entry => decide (entry.1 = name)).map (·.2)

/-- The lead with the texts that `f` gives for the names of the columns, trimmed. -/
def leadFrom (f : Text → Option Cell) : Lead :=
  Lead.ofColumns fun column => ((f column.name).getD .blank).shown

def leadOfRow (headers : List Text) (row : Row) : Lead :=
  leadFrom (cellUnder? headers row)

def filledRows (rows : List Row) : List Row :=
  rows.filter fun row => !isBlankRow row

/-- The leads of a table; nothing when every row is blank. -/
def leadsOf? (rows : List Row) : Option (List Lead) :=
  match filledRows rows with
  | [] => none
  | header :: body => some (body.map (leadOfRow (header.map Cell.header)))

/-- The rows, each with blank cells up to the length of the longest one. -/
def padRows (rows : List Row) : List Row :=
  let width := (rows.map List.length).foldl max 0
  rows.map fun row => row ++ List.replicate (width - row.length) .blank

end LeadScreen.Table
