import LeadScreen.Text.Case
import LeadScreen.Text.Word.Table

set_option autoImplicit false

/-!
# Words

A word character is a letter, a number or the underscore. A word stands alone in a text when the
characters on either side of it, if any, are not word characters.
-/

namespace LeadScreen

def isWordChar (c : Char) : Bool :=
  if c.toNat < 128 then c.isAlphanum || c == '_' else inRanges alphanumericRanges c.toNat

namespace Text

def startsWord : Text → Bool
  | [] => false
  | c :: _ => isWordChar c

end Text

end LeadScreen
