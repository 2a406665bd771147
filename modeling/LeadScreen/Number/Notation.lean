import LeadScreen.Number.Decimal
import LeadScreen.Text.Blank
import LeadScreen.Text.Case

set_option autoImplicit false

/-!
# Notation of numbers

Numbers as they are written in ASCII: digits, perhaps a point, perhaps a power of ten behind the
letter *e*. The whole text has to be a number. Whole numbers may also be written in the digits of
any script, with blanks around them and single underscores between the digits.
-/

namespace LeadScreen

def splitDigits (t : Text) : Text × Text :=
  (t.takeWhile isAsciiDigit, t.dropWhile isAsciiDigit)

/-- Nothing is lost when the digits are split off. -/
theorem splitDigits_append (t : Text) : (splitDigits t).1 ++ (splitDigits t).2 = t :=
  List.takeWhile_append_dropWhile

/-- Whether a text starts with a minus sign, and the text without its sign. -/
def splitSign : Text → Bool × Text
  | '-' :: rest => (true, rest)
  | '+' :: rest => (false, rest)
  | t => (false, t)

/-- Whether a text consists of digits, of one at least. -/
def isDigits (t : Text) : Bool :=
  !t.isEmpty && t.all isAsciiDigit

/-- The power of ten that stands behind the digits of a number; none is the power zero. -/
def readPower? : Text → Option Int
  | [] => some 0
  | c :: rest =>
    let (negative, digits) := splitSign rest
    if (c = 'e' || c = 'E') && isDigits digits then
      some (Binary64.signed negative (spelledNumber digits))
    else none

/-- Reads a whole number; nothing when it has too many digits. -/
def readWhole? (t : Text) : Option Int :=
  let (negative, body) := splitSign t.trim
  let groups := Text.splitOn '_' body
  if groups.all fun group => !group.isEmpty && group.all isDigit then
    (readDigits groups.flatten).toOption.map fun n => Binary64.signed negative n
  else none

example : readWhole? " -1_0 ".toList = some (-10) := by decide +kernel

example : readWhole? "1__0".toList = none := by decide +kernel

namespace Decimal

/-- Reads a decimal without a sign. The point may stand before, between or behind the digits. -/
def read? (t : Text) : Option Decimal :=
  let (whole, behind) := splitDigits t
  let (fraction, power) :=
    match behind with
    | '.' :: rest => splitDigits rest
    | rest => ([], rest)
  if whole.isEmpty && fraction.isEmpty then none
  else
    (readPower? power).map fun p => ⟨spelledNumber (whole ++ fraction), p - fraction.length⟩

example : read? "12.50e-1".toList = some ⟨1250, -3⟩ := by decide +kernel

example : read? ".".toList = none := by decide +kernel

end Decimal

namespace Binary64

/-- Reads a number: a decimal or a name of what is infinite or no number, in any case. -/
def read? (t : Text) : Option Binary64 :=
  let (negative, body) := splitSign t
  let word := Text.lower body
  if word = "inf".toList || word = "infinity".toList then some (.infinite negative)
  else if word = "nan".toList then some .nan
  else (Decimal.read? body).map (·.toBinary64 negative)

example : read? "-2.5".toList = some (ofRatio true 5 2) := by decide +kernel

end Binary64

end LeadScreen
