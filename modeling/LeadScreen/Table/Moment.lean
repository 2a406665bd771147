import LeadScreen.Number.Whole

set_option autoImplicit false

/-!
# Dates and times of day

A date is written as `2024-01-05`, a time of day as `09:05:00`, with the microseconds behind a
point unless there are none. The seconds may be left out when a time is read.
-/

namespace LeadScreen.Table

/-- A natural number with zeros in front, up to the given width. -/
def padded (width n : Nat) : Text :=
  let digits := natText n
  List.replicate (width - digits.length) '0' ++ digits

/-- The number that a text of digits spells; nothing for any other text. -/
def readDigitsOnly? (t : Text) : Option Nat :=
  if t.isEmpty || !t.all isAsciiDigit then none else some (spelledNumber t)

structure Day where
  year : Nat
  month : Nat
  day : Nat
deriving DecidableEq, Repr

structure Clock where
  hour : Nat
  minute : Nat
  second : Nat
  microsecond : Nat := 0
deriving DecidableEq, Repr

namespace Day

def toText (d : Day) : Text :=
  padded 4 d.year ++ '-' :: padded 2 d.month ++ '-' :: padded 2 d.day

def read? (t : Text) : Option Day :=
  match (Text.splitOn '-' t).mapM readDigitsOnly? with
  | some [year, month, day] => some ⟨year, month, day⟩
  | _ => none

example : read? "2024-01-05".toList = some ⟨2024, 1, 5⟩ := by decide +kernel

end Day

namespace Clock

def midnight : Clock :=
  ⟨0, 0, 0, 0⟩

def toText (c : Clock) : Text :=
  padded 2 c.hour ++ ':' :: padded 2 c.minute ++ ':' :: padded 2 c.second
    ++ if c.microsecond = 0 then [] else '.' :: padded 6 c.microsecond

/-- The microseconds that the digits behind the point of a second make up. -/
def readMicroseconds? (t : Text) : Option Nat :=
  readDigitsOnly? ((t ++ List.replicate 6 '0').take 6)

def read? (t : Text) : Option Clock :=
  let (whole, fraction) := (Text.cut? '.' t).getD (t, [])
  match (Text.splitOn ':' whole).mapM readDigitsOnly?, readMicroseconds? fraction with
  | some [hour, minute], some _ => some ⟨hour, minute, 0, 0⟩
  | some [hour, minute, second], some microsecond => some ⟨hour, minute, second, microsecond⟩
  | _, _ => none

example : read? "10:20:30.25".toList = some ⟨10, 20, 30, 250000⟩ := by decide +kernel

example : toText ⟨9, 5, 0, 0⟩ = "09:05:00".toList := by decide +kernel

end Clock

end LeadScreen.Table
