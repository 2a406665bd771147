import LeadScreen.Text.Blank
import LeadScreen.Text.Case

set_option autoImplicit false

/-!
# Keys

A key names a requirement, a section or a value list. Two spellings name the same key when they
have the same normal form: groups of lower-case letters and digits joined by single underscores,
the ampersand read as the word *and*.
-/

namespace LeadScreen

def isKeyChar (c : Char) : Bool :=
  ('a' ≤ c && c ≤ 'z') || ('0' ≤ c && c ≤ '9')

namespace Text

/-- Lower case, trimmed, with every ampersand spelled out: the form in which texts are compared. -/
def folded (t : Text) : Text :=
  replace '&' " and " (lower (trim t))

def key (t : Text) : Text :=
  stripWhere (· == '_') (collapse (fun c => !isKeyChar c) '_' (folded t))

example : key "(Custom) Industries:".toList = "custom_industries".toList := by decide +kernel

example : key "Sales & Marketing".toList = "sales_and_marketing".toList := by decide +kernel

end Text

end LeadScreen
