import LeadScreen.Text.Case
import LeadScreen.Text.Quoted.Table

set_option autoImplicit false

/-!
# Quoted text

Messages show a text between quotes on one line: single quotes, or double quotes when the text
holds a single quote and no double one. The quote, the backslash, the common controls and whatever
is not printable are written as escapes of two, four or eight hexadecimal digits.
-/

namespace LeadScreen

def isPrintable (c : Char) : Bool :=
  if c.toNat < 128 then 32 ≤ c.toNat && c.toNat < 127 else inRanges printableRanges c.toNat

/-- The last `width` hexadecimal digits of a number, in lower case. -/
def hexDigits : Nat → Nat → Text
  | 0, _ => []
  | width + 1, n => hexDigits width (n / 16) ++ [Nat.digitChar (n % 16)]

theorem length_hexDigits (width n : Nat) : (hexDigits width n).length = width := by
  induction width generalizing n with
  | zero => rfl
  | succ width ih => simp [hexDigits, ih]

/-- A character written by its number: two, four or eight hexadecimal digits, the fewest that
suffice. -/
def numericEscape (c : Char) : Text :=
  if c.toNat < 0x100 then '\\' :: 'x' :: hexDigits 2 c.toNat
  else if c.toNat < 0x10000 then '\\' :: 'u' :: hexDigits 4 c.toNat
  else '\\' :: 'U' :: hexDigits 8 c.toNat

/-- A character as it stands between two of the given quotes. -/
def quoteChar (quote c : Char) : Text :=
  if c = quote || c = '\\' then ['\\', c]
  else if c = '\t' then "\\t"
  else if c = '\n' then "\\n"
  else if c = '\r' then "\\r"
  else if isPrintable c then [c]
  else numericEscape c

namespace Text

def quoted (t : Text) : Text :=
  let quote := if t.elem '\'' && !t.elem '"' then '"' else '\''
  quote :: t.flatMap (quoteChar quote) ++ [quote]

example : quoted "it's \n\u00A0".toList = "\"it's \\n\\xa0\"".toList := by decide +kernel

end Text

end LeadScreen
