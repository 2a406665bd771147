import LeadScreen.Text.Digit

set_option autoImplicit false

/-!
# Whole numbers

Writing whole numbers in decimal, and reading the digits of any script. A number of more than 4300
digits is refused, leading zeros counted: long digit strings take quadratic time to read.
-/

namespace LeadScreen

/-- The decimal digits of a natural number, without leading zeros. -/
def natText (n : Nat) : Text :=
  Nat.toDigits 10 n

/-- An integer in decimal, with a minus sign when it is negative. -/
def intText (n : Int) : Text :=
  if n < 0 then '-' :: natText n.natAbs else natText n.natAbs

def digitLimit : Nat := 4300

structure TooManyDigits where
  /-- How many digits the number has. -/
  count : Nat
deriving DecidableEq, Repr

namespace TooManyDigits

def message (e : TooManyDigits) : Text :=
  "Exceeds the limit (4300 digits) for integer string conversion: value has ".toList
    ++ natText e.count
    ++ " digits; use sys.set_int_max_str_digits() to increase the limit".toList

end TooManyDigits

/-- The number that digit values spell, most significant first. -/
def ofDigits (digits : List Nat) : Nat :=
  digits.foldl (fun n d => 10 * n + d) 0

/-- The number that the digits of a text spell; characters that are no digits are passed over. -/
def spelledNumber (t : Text) : Nat :=
  ofDigits (t.filterMap digitValue?)

/-- Reads a text of digits, unless there are too many. -/
def readDigits (t : Text) : Except TooManyDigits Nat :=
  if t.length ≤ digitLimit then .ok (spelledNumber t) else .error ⟨t.length⟩

/-- Reading fails on more digits than the limit allows, and on nothing else. -/
theorem readDigits_eq_error_iff {t : Text} {e : TooManyDigits} :
    readDigits t = .error e ↔ digitLimit < t.length ∧ e = ⟨t.length⟩ := by
  unfold readDigits
  split
  · simp; omega
  · simp only [Except.error.injEq]
    constructor
    · rintro rfl
      exact ⟨by omega, rfl⟩
    · rintro ⟨_, rfl⟩
      rfl

end LeadScreen
