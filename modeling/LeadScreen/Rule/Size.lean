import LeadScreen.Number.Whole
import LeadScreen.Text.Blank

set_option autoImplicit false

/-!
# Company sizes

A size is stated by its lower bound, as in `500+`, and a lead's size by a bucket, as in
`1,000-5,000` or `10,000+`. A bound is the first run of digits and commas that starts with a digit
and is followed by the mark of a bound, blanks between them or not.
-/

namespace LeadScreen.Rule

def isNumberChar (c : Char) : Bool :=
  isDigit c || c == ','

/-- The first number in the text that the mark follows, as it is written. -/
def findBound? (mark : Char) : Text → Option Text
  | [] => none
  | c :: rest =>
    if isDigit c
        && (Text.trimStart (rest.dropWhile isNumberChar)).head? == some mark then
      some (c :: rest.takeWhile isNumberChar)
    else findBound? mark rest

/-- The number of a written number: its digits, without the commas. -/
def writtenNumber (t : Text) : Except TooManyDigits Nat :=
  readDigits (t.filter (· != ','))

/-- The number before the first mark of a bound, if there is one. -/
def readBound (mark : Char) (t : Text) : Except TooManyDigits (Option Nat) :=
  match findBound? mark t with
  | none => .ok none
  | some written => (writtenNumber written).map some

/-- The lower bound of a size that is asked for. -/
def minimumSize (t : Text) : Except TooManyDigits (Option Nat) :=
  readBound '+' t

/-- The lower bound of a lead's size. -/
def bucketSize (t : Text) : Except TooManyDigits (Option Nat) :=
  if (findBound? '+' t).isSome then readBound '+' t else readBound '-' t

end LeadScreen.Rule
