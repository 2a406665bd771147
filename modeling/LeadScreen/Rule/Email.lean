import LeadScreen.Text.Blank

set_option autoImplicit false

/-!
# Email addresses

An address is a local part and a domain around the only at sign, without blanks. The domain has a
point that is neither its first character nor its last. One line feed may follow the address.
-/

namespace LeadScreen.Rule

/-- Whether the character can stand on either side of the at sign. -/
def isAddressChar (c : Char) : Bool :=
  !(isBlank c || c == '@')

/-- Whether a point stands within the text, with something on either side. -/
def hasInnerPoint (domain : Text) : Bool :=
  (domain.drop 1).dropLast.elem '.'

/-- Whether the text is an address with nothing behind it. -/
def isAddress (t : Text) : Bool :=
  match t.dropWhile isAddressChar with
  | '@' :: domain =>
    !(t.takeWhile isAddressChar).isEmpty && domain.all isAddressChar && hasInnerPoint domain
  | _ => false

/-- Whether the text is an address, with or without a line feed behind it. -/
def isEmail (t : Text) : Bool :=
  isAddress (if t.getLast? = some '\n' then t.dropLast else t)

end LeadScreen.Rule
