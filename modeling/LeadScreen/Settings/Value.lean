import LeadScreen.Number.Notation
import LeadScreen.Text.Blank

set_option autoImplicit false

/-!
# Values of settings

The value of a setting is a text. A truth value is one of a few words, in any case. A number may
have blanks around it. Single underscores may stand between its characters, and a whole number may
have a point and zeros behind it.
-/

namespace LeadScreen.Settings

inductive Fault where
  /-- It is no truth value. -/
  | truth
  /-- It is no whole number. -/
  | whole
  /-- It is a whole number of too many digits. -/
  | wholeSize
  /-- It is no number. -/
  | number
deriving DecidableEq, Repr

namespace Fault

/-- The name by which a fault is reported. -/
def name : Fault → Text
  | .truth => "bool_parsing"
  | .whole => "int_parsing"
  | .wholeSize => "int_parsing_size"
  | .number => "float_parsing"

end Fault

/-! ## Truth values -/

def trueWords : List Text :=
  ["1", "on", "t", "true", "y", "yes"]

def falseWords : List Text :=
  ["0", "off", "f", "false", "n", "no"]

def lowerAscii (t : Text) : Text :=
  t.map Char.toLower

def readTruth (t : Text) : Except Fault Bool :=
  if trueWords.elem (lowerAscii t) then .ok true
  else if falseWords.elem (lowerAscii t) then .ok false
  else .error .truth

/-! ## Numbers -/

def trimmed (t : Text) : Text :=
  Text.stripWhere isUnicodeSpace t

def doublesUnderscore : Text → Bool
  | '_' :: '_' :: _ => true
  | _ :: rest => doublesUnderscore rest
  | [] => false

/-- The text without its underscores, if there are some, each between two other characters. -/
def withoutUnderscores? (t : Text) : Option Text :=
  if t.elem '_' && t.head? != some '_' && t.getLast? != some '_' && !doublesUnderscore t then
    some (t.filter (· != '_'))
  else none

def readNumber (t : Text) : Except Fault Binary64 :=
  match Binary64.read? (trimmed t) with
  | some x => .ok x
  | none =>
    match (withoutUnderscores? t).bind fun t => Binary64.read? (trimmed t) with
    | some x => .ok x
    | none => .error .number

/-- Whether the character may stand behind a zero at the start of a number. -/
def isFiller (c : Char) : Bool :=
  c == '0' || c == '_'

/-- The text without the zeros and underscores that it starts with, the first of them a zero. The
last of them stays when no digit follows. Nothing when something else follows than a digit or a
point. -/
def withoutLeadingZeros? : Text → Option Text
  | '0' :: rest =>
    let last := (rest.takeWhile isFiller).getLastD '0'
    match rest.dropWhile isFiller with
    | [] => some [last]
    | c :: behind =>
      if c = '.' then some (last :: c :: behind)
      else if isAsciiDigit c then some (c :: behind)
      else none
  | c :: rest => if isAsciiDigit c || c = '-' then some (c :: rest) else none
  | [] => none

/-- The text without a point behind which there are only zeros. -/
def withoutZeroFraction (t : Text) : Text :=
  match Text.cut? '.' t with
  | some (whole, fraction) => if fraction.all (· == '0') then whole else t
  | none => t

/-- Reads a whole number in plain notation: digits without leading zeros, a minus sign before them
or none. -/
def readPlain (t : Text) : Except Fault Int :=
  let (negative, digits) :=
    match t with
    | '-' :: rest => (true, rest)
    | _ => (false, t)
  if !isDigits digits || (digits.head? == some '0' && decide (1 < digits.length)) then
    .error .whole
  else if digitLimit < digits.length then .error .wholeSize
  else .ok (Binary64.signed negative (spelledNumber digits))

/-- The whole number in plain notation that a text stands for, if its beginning fits one. -/
def plainForm? (t : Text) : Option Text :=
  let body :=
    match trimmed t with
    | '+' :: '-' :: _ => none
    | '+' :: rest => some rest
    | t => some t
  ((body.bind withoutLeadingZeros?).map withoutZeroFraction).map fun t =>
    (withoutUnderscores? t).getD t

def readWhole (t : Text) : Except Fault Int :=
  match plainForm? t with
  | some t => readPlain t
  | none => .error .whole

example : (readWhole " +1_000.00 ".toList).toOption = some 1000 := by decide +kernel

example : (readWhole "1.5".toList).toOption = none := by decide +kernel

end LeadScreen.Settings
