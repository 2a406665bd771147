import LeadScreen.Requisition.Basic

set_option autoImplicit false

/-!
# The terms of a requisition

The first part of a requisition is a list of segments between vertical bars. A segment with a colon
sets the key before its first colon to the text behind it; segments without one say nothing. A
later segment overrules an earlier one with the same key.
-/

namespace LeadScreen

/-- The trimmed texts on either side of the first colon. -/
def splitAtColon? (t : Text) : Option (Text × Text) :=
  (t.cut? ':').map fun parts => (parts.1.trim, parts.2.trim)

namespace Requisition

def term? (segment : Text) : Option (Text × Text) :=
  (splitAtColon? segment.trim).map fun parts => (parts.1.key, parts.2)

def readTerms (t : Text) : Assoc Text Text :=
  ((Text.splitOn '|' t).filterMap term?).foldl (fun m kv => m.set kv.1 kv.2) []

example : readTerms "Level: VP | geo : US | note | LEVEL:CTO".toList
    = [("level".toList, "CTO".toList), ("geo".toList, "US".toList)] := by decide +kernel

end Requisition

end LeadScreen
