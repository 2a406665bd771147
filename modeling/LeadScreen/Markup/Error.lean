import LeadScreen.Text.Quoted
import LeadScreen.Number.Whole

set_option autoImplicit false

/-!
# Markup that is refused

Markup is read leniently: what is not well formed counts as text. Three things are refused
nonetheless, and with them the whole text they stand in.
-/

namespace LeadScreen.Markup

inductive Error where
  /-- A marked section starts with a keyword that is none of the known ones. -/
  | unknownSection (keyword : Text)
  /-- A marked section starts with something that is no name; the context is its beginning. -/
  | nameExpected (context : Text)
  /-- A character reference has too many digits. -/
  | oversizedReference (number : TooManyDigits)
deriving DecidableEq, Repr

namespace Error

/-- The opening of the message for a marked section that is refused. -/
def rejection : Text :=
  "The markup you provided was rejected by the parser. ".toList
    ++ "Trying a different parser or a different encoding may help.\n\n".toList
    ++ "Original exception(s) from parser:\n AssertionError: ".toList

def message : Error → Text
  | .unknownSection keyword =>
    rejection ++ "unknown status keyword ".toList ++ keyword.quoted ++ " in marked section".toList
  | .nameExpected context => rejection ++ "expected name token at ".toList ++ context.quoted
  | .oversizedReference number => number.message

end Error

end LeadScreen.Markup
