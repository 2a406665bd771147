import LeadScreen.Assoc
import LeadScreen.Number.Decimal
import LeadScreen.Text.Quoted

set_option autoImplicit false

/-!
# JSON values

The values of the data format of the service. As the text of a field, a value that is no text is
shown in a form of its own: truth values and nothing by a word with a capital, texts within arrays
and objects between quotes.
-/

namespace LeadScreen.Json

/-- A value. The entries of an object have different names. -/
inductive Value where
  | null
  | truth (b : Bool)
  | whole (n : Int)
  | number (x : Binary64)
  | text (t : Text)
  | array (items : List Value)
  | object (entries : List (Text × Value))
deriving Repr

namespace Value

/-- The value of an object under a name; nothing for other values. -/
def get? (name : Text) : Value → Option Value
  | .object entries => (entries.find? fun entry => decide (entry.1 = name)).map (·.2)
  | _ => none

mutual

/-- A value as it is shown within others. -/
def shown : Value → Text
  | .null => "None"
  | .truth b => if b then "True" else "False"
  | .whole n => intText n
  | .number x => x.toText
  | .text t => t.quoted
  | .array items => '[' :: Text.joinWith ", " (shownItems items) ++ [']']
  | .object entries => '\x7b' :: Text.joinWith ", " (shownEntries entries) ++ ['\x7d']

def shownItems : List Value → List Text
  | [] => []
  | item :: items => shown item :: shownItems items

def shownEntries : List (Text × Value) → List Text
  | [] => []
  | (name, value) :: entries =>
    (name.quoted ++ ": ".toList ++ shown value) :: shownEntries entries

end

/-- The text that a field takes from a value: a text as it is, nothing as an empty text. -/
def fieldText : Value → Text
  | .null => []
  | .text t => t
  | value => value.shown

example : fieldText (.array [.whole 1, .null, .text "a"]) = "[1, None, 'a']".toList := by
  decide +kernel

end Value

end LeadScreen.Json
