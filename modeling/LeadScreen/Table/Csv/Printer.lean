import LeadScreen.Table.Csv

set_option autoImplicit false

/-!
# Writing comma-separated values

A field that holds a separator, a line end or a double quote is written between double quotes, its
own ones twice. A record of one empty field is written with quotes, so that it is no empty record.
-/

namespace LeadScreen.Table.Csv

def needsQuotes (c : Char) : Bool :=
  c == ',' || c == '"' || c == '\n' || c == '\r'

def quotedField (t : Text) : Text :=
  '"' :: Text.replace '"' ['"', '"'] t ++ ['"']

def writeField (t : Text) : Text :=
  if t.any needsQuotes then quotedField t else t

/-- A record as it is written, with the end of its line. -/
def writeRecord (fields : List Text) : Text :=
  (match fields with
    | [[]] => quotedField []
    | _ => Text.joinWith [','] (fields.map writeField))
    ++ ['\r', '\n']

def write (records : List (List Text)) : Text :=
  records.flatMap writeRecord

example : read (write [["a,".toList, "\"".toList], [[]], ["x".toList, []]])
    = ⟨[["a,".toList, "\"".toList], [[]], ["x".toList, []]], false⟩ := by decide +kernel

end LeadScreen.Table.Csv
