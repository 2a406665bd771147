import LeadScreen.Text.Basic

set_option autoImplicit false

/-!
# Comma-separated values

A text is read as records of fields, character by character. Commas separate fields; a line feed, a
carriage return or both in this order end a record. A field that starts with a double quote goes on
to the next single one: commas and line ends belong to it, and two double quotes are one. What
follows the closing quote up to the next separator still belongs to the field. A line end where a
record would begin makes an empty record.

No field may hold more than 131072 characters; at the first that would, reading stops.
-/

namespace LeadScreen.Table.Csv

/-- The most characters that a field may hold. -/
def fieldLimit : Nat := 131072

/-- Where in a record the reader is. -/
inductive Place where
  /-- Before the first field of a record. -/
  | recordStart
  /-- Behind a carriage return that ended a record. -/
  | afterReturn
  /-- At the start of a field that is not the first. -/
  | fieldStart
  /-- In a field without quotes, or behind the closing quote of one with quotes. -/
  | unquoted
  /-- Between the quotes of a field. -/
  | quoted
  /-- Behind a double quote within a quoted field. -/
  | quoteInQuoted
deriving DecidableEq, Repr

/-- What is read so far. All lists have their last member first. -/
structure Reader where
  place : Place := .recordStart
  field : Text := []
  size : Nat := 0
  record : List Text := []
  records : List (List Text) := []
  /-- Whether a field was too large. -/
  failed : Bool := false
deriving DecidableEq, Repr

namespace Reader

def addChar (r : Reader) (place : Place) (c : Char) : Reader :=
  if fieldLimit ≤ r.size then { r with failed := true }
  else { r with place := place, field := c :: r.field, size := r.size + 1 }

def endField (r : Reader) (place : Place) : Reader :=
  { r with place := place, field := [], size := 0, record := r.field.reverse :: r.record }

def endRecord (r : Reader) (place : Place) : Reader :=
  { r with place := place, record := [], records := r.record.reverse :: r.records }

def behindLineEnd (c : Char) : Place :=
  if c = '\r' then .afterReturn else .recordStart

def isLineEnd (c : Char) : Bool :=
  c == '\n' || c == '\r'

def startField (r : Reader) (c : Char) : Reader :=
  if isLineEnd c then (r.endField .fieldStart).endRecord (behindLineEnd c)
  else if c = '"' then { r with place := .quoted }
  else if c = ',' then r.endField .fieldStart
  else r.addChar .unquoted c

def startRecord (r : Reader) (c : Char) : Reader :=
  if isLineEnd c then r.endRecord (behindLineEnd c) else r.startField c

def step (r : Reader) (c : Char) : Reader :=
  if r.failed then r
  else
    match r.place with
    | .recordStart => r.startRecord c
    | .afterReturn => if c = '\n' then { r with place := .recordStart } else r.startRecord c
    | .fieldStart => r.startField c
    | .unquoted =>
      if isLineEnd c then (r.endField .fieldStart).endRecord (behindLineEnd c)
      else if c = ',' then r.endField .fieldStart
      else r.addChar .unquoted c
    | .quoted =>
      if c = '"' then { r with place := .quoteInQuoted } else r.addChar .quoted c
    | .quoteInQuoted =>
      if c = '"' then r.addChar .quoted c
      else if c = ',' then r.endField .fieldStart
      else if isLineEnd c then (r.endField .fieldStart).endRecord (behindLineEnd c)
      else r.addChar .unquoted c

def finish (r : Reader) : Reader :=
  if r.failed then r
  else
    match r.place with
    | .recordStart => r
    | .afterReturn => r
    | _ => (r.endField .fieldStart).endRecord .recordStart

end Reader

/-- The records of a text up to a field that is too large, and whether there is one. -/
structure Contents where
  records : List (List Text)
  tooLarge : Bool
deriving DecidableEq, Repr

def read (t : Text) : Contents :=
  let r := (t.foldl Reader.step {}).finish
  ⟨r.records.reverse, r.failed⟩

example : read "a,\"b\"\"c\"\r\n\n\"x\ny\"z,".toList
    = ⟨[["a".toList, "b\"c".toList], [], ["x\nyz".toList, []]], false⟩ := by decide +kernel

end LeadScreen.Table.Csv
