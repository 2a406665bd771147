import LeadScreen.Number.Binary64
import LeadScreen.Number.Whole

set_option autoImplicit false

/-!
# Decimal notation of binary64 numbers

A decimal is a natural number of digits times a power of ten. Reading rounds a decimal to the
nearest number. Writing finds either the fewest digits that read back as the number, or a fixed
count of significant digits.
-/

namespace LeadScreen

/-- `digits` times ten to the `exponent`. -/
structure Decimal where
  digits : Nat
  exponent : Int
deriving DecidableEq, Repr

namespace Decimal

/-- How many decimal digits a natural number has; zero has one. -/
def width (n : Nat) : Nat :=
  (natText n).length

def ratio (d : Decimal) : Nat × Nat :=
  if 0 ≤ d.exponent then (d.digits * Nat.pow 10 d.exponent.toNat, 1)
  else (d.digits, Nat.pow 10 (-d.exponent).toNat)

/-- The number nearest to a decimal. Decimals beyond the range of the format are recognised by
their magnitude, before any power of ten is computed. -/
def toBinary64 (negative : Bool) (d : Decimal) : Binary64 :=
  let magnitude := (width d.digits : Int) + d.exponent
  if d.digits = 0 || magnitude < -330 then Binary64.zero negative
  else if 320 < magnitude then .infinite negative
  else Binary64.ofRatio negative d.ratio.1 d.ratio.2

/-- The decimal without the zeros at the end of its digits; `fuel` bounds their number. -/
def stripZeros : Nat → Decimal → Decimal
  | 0, d => d
  | fuel + 1, d =>
    if d.digits % 10 = 0 && d.digits ≠ 0 then stripZeros fuel ⟨d.digits / 10, d.exponent + 1⟩
    else d

/-- The decimal without the zeros at the end of its digits. -/
def strip (d : Decimal) : Decimal :=
  stripZeros (width d.digits) d

/-- The place of the leading digit of `num / den`: the exponent `p` with
`10 ^ p ≤ num / den < 10 ^ (p + 1)`, for a positive quotient. -/
def place (num den : Nat) : Int :=
  if den ≤ num then (width (num / den) : Int) - 1
  else -(width ((den + num - 1) / num - 1) : Int)

/-- `num / den` in units of ten to the `exponent`, as a quotient of natural numbers. -/
def inUnits (num den : Nat) (exponent : Int) : Nat × Nat :=
  if 0 ≤ exponent then (num, den * Nat.pow 10 exponent.toNat)
  else (num * Nat.pow 10 (-exponent).toNat, den)

/-- `num / den` rounded to a count of significant digits, an even last digit in case of a tie. -/
def significant (count num den : Nat) : Decimal :=
  let exponent := place num den - (count : Int) + 1
  let (n, d) := inUnits num den exponent
  ⟨Binary64.nearest n d, exponent⟩

/-- Of the two decimals with `count` digits on either side of `num / den`, the nearer one that
reads back as `x`; in case of a tie the one with the even last digit comes first. -/
def nearestReadingBack? (x : Binary64) (num den count : Nat) : Option Decimal :=
  let exponent := place num den - (count : Int) + 1
  let (n, d) := inUnits num den exponent
  let near := Binary64.nearest n d
  let far := if near = n / d then n / d + 1 else n / d
  ([near, far].map fun digits => (⟨digits, exponent⟩ : Decimal)).find?
    fun candidate => decide (candidate.toBinary64 false = x)

/-- The positive number `mantissa * 2 ^ exponent` as a quotient. -/
def ratioOf (mantissa : Nat) (exponent : Int) : Nat × Nat :=
  Binary64.scaled mantissa 1 (-exponent)

/-- The fewest digits that read back as the positive number `mantissa * 2 ^ exponent`, and of
those the nearest to it. Seventeen digits always suffice. -/
def shortest (mantissa : Nat) (exponent : Int) : Decimal :=
  let (num, den) := ratioOf mantissa exponent
  let counts := (List.range 17).map (· + 1)
  let found := counts.findSome? (nearestReadingBack? (.finite false mantissa exponent) num den)
  (found.getD (significant 17 num den)).strip

def zeros (n : Nat) : Text :=
  List.replicate n '0'

/-- Digits with a point behind the first `whole` of them, zeros filled in on either side; at least
one digit stands on each side of the point. -/
def positional (digits : Text) (whole : Int) : Text :=
  if whole ≤ 0 then "0.".toList ++ zeros (-whole).toNat ++ digits
  else if (digits.length : Int) ≤ whole then
    digits ++ zeros (whole.toNat - digits.length) ++ ".0".toList
  else digits.take whole.toNat ++ '.' :: digits.drop whole.toNat

/-- Digits as one before the point and the others behind it, then a signed exponent of at least
two digits. -/
def scientific (digits : Text) (exponent : Int) : Text :=
  let sign := if exponent < 0 then '-' else '+'
  let power := natText exponent.natAbs
  digits.take 1 ++ (if digits.length ≤ 1 then [] else '.' :: digits.drop 1)
    ++ 'e' :: sign :: (if power.length < 2 then '0' :: power else power)

end Decimal

namespace Binary64

/-- A number as text: the fewest digits that read back, positional from `0.0001` up to sixteen
digits before the point, else with an exponent. -/
def toText : Binary64 → Text
  | .nan => "nan"
  | .infinite negative => if negative then "-inf" else "inf"
  | .finite negative m e =>
    let body : Text :=
      if m = 0 then "0.0".toList
      else
        let d := Decimal.shortest m e
        let digits := natText d.digits
        let leading := d.exponent + digits.length - 1
        if -4 ≤ leading && leading < 16 then Decimal.positional digits (leading + 1)
        else Decimal.scientific digits leading
    if negative then '-' :: body else body

example : toText (ofRatio false 1 10) = "0.1".toList := by decide +kernel

example : toText (ofRatio true (10 ^ 16) 1) = "-1e+16".toList := by decide +kernel

example : toText (ofRatio false 1 100000) = "1e-05".toList := by decide +kernel

end Binary64

end LeadScreen
