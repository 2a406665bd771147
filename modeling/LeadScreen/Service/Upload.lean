import LeadScreen.Number.Whole
import LeadScreen.Path
import LeadScreen.Service.Message
import LeadScreen.Text.Quoted

set_option autoImplicit false

/-!
# Names of uploaded files

The name of a file travels in a header of the form that it is uploaded in, where double quotes and
controls are coded; of a name with a drive or a share only the part behind the last backslash
arrives. The name of a report is made from it and travels in a header of the response, which holds
characters of eight bits only.
-/

namespace LeadScreen.Service

/-! ## On the way in -/

/-- A character as it travels in the header of a form. -/
def formChar (c : Char) : Text :=
  if c = '"' || (c.toNat < 32 && c.toNat != 27) then
    '%' :: (hexDigits 2 c.toNat).map Char.toUpper
  else [c]

/-- Whether a name starts with a drive or with a share. -/
def startsWithDrive (name : Text) : Bool :=
  match name with
  | '\\' :: '\\' :: _ => true
  | _ :: ':' :: '\\' :: _ => true
  | _ => false

def arrivedName (name : Text) : Text :=
  let coded := name.flatMap formChar
  if startsWithDrive coded then (coded.reverse.takeWhile (· != '\\')).reverse else coded

/-! ## On the way out -/

structure HeaderFault where
  /-- Where the first of them stands. -/
  position : Nat
  /-- The first of them. -/
  first : Char
  /-- How many of them follow it at once. -/
  more : Nat
deriving DecidableEq, Repr

namespace HeaderFault

def message (f : HeaderFault) : Text :=
  let place :=
    if f.more = 0 then
      " '".toList ++ numericEscape f.first ++ "' in position ".toList ++ natText f.position
    else
      "s in position ".toList ++ natText f.position ++ '-' :: natText (f.position + f.more)
  "'latin-1' codec can't encode character".toList ++ place
    ++ ": ordinal not in range(256)".toList

end HeaderFault

def isNarrow (c : Char) : Bool :=
  c.toNat < 256

def header (t : Text) : Except HeaderFault Text :=
  match t.dropWhile isNarrow with
  | [] => .ok t
  | first :: rest =>
    .error ⟨(t.takeWhile isNarrow).length, first,
      (rest.takeWhile fun c => !isNarrow c).length⟩

/-- How the report on a file is to be saved: under the name of the file without its ending, and
with a mark. -/
def reportDisposition (fileName : Text) : Except HeaderFault Text :=
  let stem := Path.stem fileName
  let stem := if stem.isEmpty then "leads".toList else stem
  header ("attachment; filename=\"".toList ++ stem ++ "_result.xlsx\"".toList)

example : (header "a日本b".toList) = .error ⟨1, '日', 1⟩ := rfl

end LeadScreen.Service
