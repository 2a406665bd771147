import LeadScreen.Text.Key

set_option autoImplicit false

/-!
# Word tokens

Titles are compared token by token. A token is made of lower-case letters, digits and the four
characters `+`, `/`, `.` and `-`; everything else separates tokens.
-/

namespace LeadScreen

def isTokenChar (c : Char) : Bool :=
  isKeyChar c || c == '+' || c == '/' || c == '.' || c == '-'

namespace Text

/-- The text in lower case with single spaces between its tokens and none around them. -/
def plain (t : Text) : Text :=
  trim (collapse isBlank ' ' (collapse (fun c => !(isTokenChar c || isBlank c)) ' ' (folded t)))

def tokens (t : Text) : List Text :=
  (splitOn ' ' (plain t)).filter fun token => !token.isEmpty

example : tokens "Sr. R&D Manager, C++".toList
    = ["sr.".toList, "r".toList, "and".toList, "d".toList, "manager".toList, "c++".toList] := by
  decide +kernel

end Text

end LeadScreen
