import LeadScreen.Text.Basic

set_option autoImplicit false

/-!
# Markup tokens

Markup is read as a sequence of tokens: stretches of text, tags, character data sections, and
things without visible text. A token carries what the tree of elements needs and no more, so the
attributes of a tag are gone here.
-/

namespace LeadScreen.Markup

inductive Token where
  /-- A stretch of text, its references resolved. Neighbouring stretches belong together. -/
  | text (content : Text)
  /-- The start of an element; a self-closing tag is its end too. -/
  | startTag (name : Text) (selfClosing : Bool)
  /-- The end of an element. -/
  | endTag (name : Text)
  /-- A character data section. -/
  | cdata (content : Text)
  /-- A comment, a declaration or an instruction. -/
  | hidden (content : Text)
deriving DecidableEq, Repr

namespace Token

/-- The elements whose content is raw: nothing in it is markup but their end tag. -/
def rawElements : List Text :=
  ["script", "style"]

/-- The element whose raw content starts behind a token, if any. -/
def opensRaw? : Token → Option Text
  | .startTag name false => if rawElements.elem name then some name else none
  | _ => none

end Token

end LeadScreen.Markup
