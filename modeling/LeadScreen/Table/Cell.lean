import LeadScreen.Number.Decimal
import LeadScreen.Table.Moment
import LeadScreen.Text.Blank
import LeadScreen.Text.Case

set_option autoImplicit false

/-!
# Cells

A cell of a table holds a text or another value, or nothing. A lead takes the text of a cell, and
what a workbook gives back for a cell is not always what was put into it.
-/

namespace LeadScreen.Table

inductive Cell where
  | blank
  | text (t : Text)
  | truth (b : Bool)
  | whole (n : Int)
  | number (x : Binary64)
  | day (d : Day)
  | clock (c : Clock)
  | moment (d : Day) (c : Clock)
deriving DecidableEq, Repr

abbrev Row := List Cell

namespace Cell

/-- A cell as text; a blank one is empty. -/
def toText : Cell → Text
  | .blank => []
  | .text t => t
  | .truth b => if b then "True" else "False"
  | .whole n => intText n
  | .number x => x.toText
  | .day d => d.toText
  | .clock c => c.toText
  | .moment d c => d.toText ++ ' ' :: c.toText

/-- The trimmed text of a cell, which a lead takes from it. -/
def shown (c : Cell) : Text :=
  c.toText.trim

/-- The column that a cell of the header row names: its text in lower case, trimmed, each run of
blanks an underscore. -/
def header (c : Cell) : Text :=
  Text.collapse isBlank '_' (Text.lower c.shown)

/-! ## Workbooks -/

/-- How many significant digits of a number a workbook keeps. -/
def storedDigits : Nat := 16

/-- What a workbook gives back for a decimal of as many digits as it keeps: an integer, if the
decimal is written without point and exponent, else the number nearest to it. -/
def storedDecimal (negative : Bool) (d : Decimal) : Cell :=
  let d := d.strip
  let leading := d.exponent + Decimal.width d.digits - 1
  if 0 ≤ d.exponent && leading < storedDigits then
    .whole (Binary64.signed negative (d.digits * Nat.pow 10 d.exponent.toNat))
  else .number (d.toBinary64 negative)

/-- What a workbook gives back for a number. What is no number, or infinite, is not kept. -/
def storedNumber : Binary64 → Cell
  | .nan => .blank
  | .infinite _ => .blank
  | .finite negative m e =>
    if m = 0 then .whole 0
    else
      let (num, den) := Decimal.ratioOf m e
      storedDecimal negative (Decimal.significant storedDigits num den)

/-- What a workbook gives back for a cell, a text being as it stands in the file. A text of several
characters that starts with an equality sign is a formula, whose value is not kept; an integer with
more digits than are kept is treated as a number; a day becomes its first moment. -/
def stored : Cell → Cell
  | .blank => .blank
  | .text t =>
    if t.isEmpty || (t.head? == some '=' && decide (1 < t.length)) then .blank else .text t
  | .truth b => .truth b
  | .whole n =>
    if decide (n.natAbs < Nat.pow 10 storedDigits) then .whole n else storedNumber (Binary64.ofInt n)
  | .number x => storedNumber x
  | .day d => .moment d .midnight
  | .clock c => .clock c
  | .moment d c => .moment d c

example : stored (.number (.ofRatio false 1 1)) = .whole 1 := by decide +kernel

example : stored (.number (.ofRatio false 3 2)) = .number (.ofRatio false 3 2) := by
  decide +kernel

end Cell

end LeadScreen.Table
