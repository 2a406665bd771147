import LeadScreen.Text.Blank
import LeadScreen.Text.Word

set_option autoImplicit false

/-!
# Regions

The regions that a requisition asks for stand between colons, ampersands and commas. The word
*only*, standing alone, says nothing.
-/

namespace LeadScreen.Rule

/-- The text without the word *only*, in any case, where it stands alone; `afterWord` tells
whether a word character stands before the text and `skip` how much of a word found is still to be
left out. -/
def dropOnlyFrom : Bool → Nat → Text → Text
  | _, _, [] => []
  | _, skip + 1, c :: rest => dropOnlyFrom (isWordChar c) skip rest
  | afterWord, 0, c :: rest =>
    match Text.afterWord? "only" (c :: rest) with
    | some behind =>
      if !afterWord && !Text.startsWord behind then dropOnlyFrom (isWordChar c) 3 rest
      else c :: dropOnlyFrom (isWordChar c) 0 rest
    | none => c :: dropOnlyFrom (isWordChar c) 0 rest

/-- The text without the word *only*, in any case, where it stands alone. -/
def dropOnly (t : Text) : Text :=
  dropOnlyFrom false 0 t

def separatesRegions (c : Char) : Bool :=
  c == ':' || c == '&' || c == ','

def regions (t : Text) : List Text :=
  (((Text.splitWhere separatesRegions (dropOnly t)).map Text.trim).filter
    fun region => !region.isEmpty).map Text.lower

end LeadScreen.Rule
