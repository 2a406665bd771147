import LeadScreen.Requisition.Classifier
import LeadScreen.Requisition.Node

set_option autoImplicit false

/-!
# Reading a requisition

The two parts of a requisition are separated by the first marker: a vertical bar, the word
*comments* in any case and a colon, with blanks between them or not.
-/

namespace LeadScreen

namespace Requisition

/-- The text behind the marker that a text starts with. -/
def afterMarker? (t : Text) : Option Text :=
  match t with
  | '|' :: rest =>
    match (Text.afterWord? "comments" (Text.trimStart rest)).map Text.trimStart with
    | some (':' :: behind) => some behind
    | _ => none
  | _ => none

/-- The part before the first marker, and the part behind it if there is a marker. -/
def splitAtMarker : Text → Text × Option Text
  | [] => ([], none)
  | c :: rest =>
    match afterMarker? (c :: rest) with
    | some behind => ([], some behind)
    | none => let parts := splitAtMarker rest; (c :: parts.1, parts.2)

def readComments (t : Text) : Except Markup.Error Comments :=
  (commentNodes t).map Classifier.classify

/-- Reads a requisition. Comments of blanks only are as good as none. -/
def read (t : Text) : Except Markup.Error Requisition :=
  let parts := splitAtMarker t
  let narrative := (parts.2.getD []).trim
  if narrative.isEmpty then .ok ⟨readTerms parts.1.trim, []⟩
  else (readComments narrative).map fun comments => ⟨readTerms parts.1.trim, comments⟩

end Requisition

end LeadScreen
