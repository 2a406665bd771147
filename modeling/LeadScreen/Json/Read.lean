import LeadScreen.Json.Value
import LeadScreen.Number.Notation

set_option autoImplicit false

/-!
# Reading JSON

A text is read as one value with blanks around it. Where it is none, the fault tells how much of the
text was left where reading failed. Of several entries with one name the last value counts. What is
infinite and what is no number may be named.
-/

namespace LeadScreen.Json

inductive Fault where
  /-- It is no value; so many characters were left where that showed. -/
  | malformed (left : Nat)
  /-- A number in it has too many digits. -/
  | digits (e : TooManyDigits)
deriving DecidableEq, Repr

/-- What is read, and the text that is left. -/
abbrev Parsed (α : Type) := Except Fault (α × Text)

def isSpace (c : Char) : Bool :=
  c == ' ' || c == '\t' || c == '\n' || c == '\r'

def skip (t : Text) : Text :=
  t.dropWhile isSpace

/-! ## Texts -/

/-- What a character behind a backslash stands for. -/
def escaped? (c : Char) : Option Nat :=
  ([('"', 0x22), ('\\', 0x5C), ('/', 0x2F), ('b', 0x08), ('f', 0x0C), ('n', 0x0A), ('r', 0x0D),
    ('t', 0x09)].find? fun entry => decide (entry.1 = c)).map (·.2)

def hexDigit? (c : Char) : Option Nat :=
  if isAsciiDigit c then some (c.toNat - '0'.toNat)
  else if 'a'.toNat ≤ c.toNat && c.toNat ≤ 'f'.toNat then some (c.toNat - 'a'.toNat + 10)
  else if 'A'.toNat ≤ c.toNat && c.toNat ≤ 'F'.toNat then some (c.toNat - 'A'.toNat + 10)
  else none

def hexNumber? (digits : List Char) : Option Nat :=
  (digits.mapM hexDigit?).map fun values => values.foldl (fun n d => 16 * n + d) 0

/-- Reads the codes of a text up to its closing quote. `start` is what was left at the opening
one. Behind the digits of a code there has to be something. -/
def readCodes (start : Nat) : Text → Parsed (List Nat)
  | [] => .error (.malformed start)
  | '"' :: rest => .ok ([], rest)
  | '\\' :: 'u' :: a :: b :: c :: d :: rest =>
    match hexNumber? [a, b, c, d], rest with
    | some code, _ :: _ => (readCodes start rest).map fun r => (code :: r.1, r.2)
    | _, _ => .error (.malformed (rest.length + 5))
  | ['\\'] => .error (.malformed start)
  | '\\' :: c :: rest =>
    if c = 'u' then .error (.malformed (rest.length + 1))
    else
      match escaped? c with
      | some code => (readCodes start rest).map fun r => (code :: r.1, r.2)
      | none => .error (.malformed (rest.length + 2))
  | c :: rest =>
    if c.toNat < 32 then .error (.malformed (rest.length + 1))
    else (readCodes start rest).map fun r => (c.toNat :: r.1, r.2)

/-- The characters of codes. Two codes of a pair make one character; a code of a pair that stands
alone is replaced. -/
def charsOf : List Nat → Text
  | [] => []
  | [code] => [if 0xD800 ≤ code && code < 0xE000 then '\uFFFD' else Char.ofNat code]
  | code :: next :: rest =>
    if 0xD800 ≤ code && code < 0xDC00 && 0xDC00 ≤ next && next < 0xE000 then
      Char.ofNat (0x10000 + (code - 0xD800) * 0x400 + (next - 0xDC00)) :: charsOf rest
    else (if 0xD800 ≤ code && code < 0xE000 then '\uFFFD' else Char.ofNat code)
      :: charsOf (next :: rest)

def readText (t : Text) : Parsed Text :=
  (readCodes (t.length + 1) t).map fun r => (charsOf r.1, r.2)

/-! ## Numbers -/

/-- The digits behind a point, if a text starts with these. -/
def splitFraction (t : Text) : Text × Text :=
  match t with
  | '.' :: rest =>
    let (digits, behind) := splitDigits rest
    if digits.isEmpty then ([], t) else (digits, behind)
  | _ => ([], t)

/-- The power of ten, if a text starts with one. -/
def splitPower (t : Text) : Option Int × Text :=
  match t with
  | c :: rest =>
    let (negative, body) := splitSign rest
    let (digits, behind) := splitDigits body
    if (c = 'e' || c = 'E') && !digits.isEmpty then
      (some (Binary64.signed negative (spelledNumber digits)), behind)
    else (none, t)
  | [] => (none, t)

/-- The digits before the point: a zero alone, or all there are. -/
def splitWhole (t : Text) : Text × Text :=
  match t with
  | '0' :: rest => (['0'], rest)
  | _ => splitDigits t

def namedValues : List (Text × Value) :=
  [("null", .null), ("true", .truth true), ("false", .truth false), ("NaN", .number .nan),
   ("Infinity", .number (.infinite false)), ("-Infinity", .number (.infinite true))]

def readNamed? (t : Text) : Option (Value × Text) :=
  namedValues.findSome? fun entry => (Text.afterPrefix? entry.1 t).map fun rest => (entry.2, rest)

/-- Reads a number. One without point and power is whole. -/
def readNumber (t : Text) : Parsed Value :=
  let (negative, body) :=
    match t with
    | '-' :: rest => (true, rest)
    | _ => (false, t)
  let (whole, behindWhole) := splitWhole body
  let (fraction, behindFraction) := splitFraction behindWhole
  let (power, rest) := splitPower behindFraction
  if whole.isEmpty then .error (.malformed t.length)
  else if fraction.isEmpty && power.isNone then
    match readDigits whole with
    | .ok n => .ok (.whole (Binary64.signed negative n), rest)
    | .error e => .error (.digits e)
  else
    let d : Decimal := ⟨spelledNumber (whole ++ fraction), power.getD 0 - fraction.length⟩
    .ok (.number (d.toBinary64 negative), rest)

def readScalar (t : Text) : Parsed Value :=
  match readNamed? t with
  | some r => .ok r
  | none => readNumber t

/-! ## Values -/

/-- Reads the name of an entry and the colon behind it. -/
def readName (t : Text) : Except Fault (Text × Text) :=
  match t with
  | '"' :: rest => do
    let (name, rest) ← readText rest
    match skip rest with
    | ':' :: rest => .ok (name, skip rest)
    | rest => .error (.malformed rest.length)
  | _ => .error (.malformed t.length)

mutual

/-- Reads a value; `fuel` bounds the depth and the number of its parts. -/
def readValue : Nat → Text → Except Fault (Value × Text)
  | 0, t => .error (.malformed t.length)
  | fuel + 1, t =>
    match t with
    | '"' :: rest => (readText rest).map fun r => (.text r.1, r.2)
    | '[' :: rest =>
      match skip rest with
      | ']' :: rest => .ok (.array [], rest)
      | rest => readItems fuel [] rest
    | '\x7b' :: rest =>
      match skip rest with
      | '\x7d' :: rest => .ok (.object [], rest)
      | rest => readEntries fuel [] rest
    | t => readScalar t

/-- Reads the items of an array that follow `items`. -/
def readItems : Nat → List Value → Text → Except Fault (Value × Text)
  | 0, _, t => .error (.malformed t.length)
  | fuel + 1, items, t => do
    let (item, rest) ← readValue fuel t
    match skip rest with
    | ',' :: rest => readItems fuel (items ++ [item]) (skip rest)
    | ']' :: rest => .ok (.array (items ++ [item]), rest)
    | rest => .error (.malformed rest.length)

/-- Reads the entries of an object that follow `entries`. -/
def readEntries : Nat → Assoc Text Value → Text → Except Fault (Value × Text)
  | 0, _, t => .error (.malformed t.length)
  | fuel + 1, entries, t => do
    let (name, rest) ← readName t
    let (value, rest) ← readValue fuel rest
    match skip rest with
    | ',' :: rest => readEntries fuel (entries.set name value) (skip rest)
    | '\x7d' :: rest => .ok (.object (entries.set name value), rest)
    | rest => .error (.malformed rest.length)

end

/-- Reads a text as a value. Every step reads a character, so its length bounds the steps. -/
def read (t : Text) : Except Fault Value :=
  match readValue (t.length + 1) (skip t) with
  | .error fault => .error fault
  | .ok (value, rest) =>
    match skip rest with
    | [] => .ok value
    | rest => .error (.malformed rest.length)

example : (read "[1, \"\\ud83d\\ude00\", -1.5e1]".toList).toOption.map Value.fieldText
    = some "[1, '😀', -15.0]".toList := by decide +kernel

end LeadScreen.Json
