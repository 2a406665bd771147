set_option autoImplicit false

/-!
# Binary64 numbers

The floating-point numbers of 64 bits, as signed integers scaled by a power of two. Every number
comes from one rounding of an exact quotient of natural numbers: to the nearest, of two equally
near ones to the one with the even mantissa. So the laws of the arithmetic are laws of `ofRatio`.
-/

namespace LeadScreen

/-- A number of the format. A finite one is its mantissa times a power of two; the mantissa has 53
bits, or fewer when the exponent is the least one. -/
inductive Binary64 where
  | nan
  | infinite (negative : Bool)
  | finite (negative : Bool) (mantissa : Nat) (exponent : Int)
deriving DecidableEq, Repr

namespace Binary64

/-- The exponent of the numbers nearest to zero. -/
def leastExponent : Int := -1074

/-- The exponent of the largest finite numbers. -/
def greatestExponent : Int := 971

/-! ## Rounding -/

/-- The natural number nearest to `num / den`; of two equally near ones, the even one. -/
def nearest (num den : Nat) : Nat :=
  let q := num / den
  let r := num % den
  if 2 * r < den then q
  else if den < 2 * r then q + 1
  else if q % 2 = 0 then q else q + 1

/-- `num / den` in units of two to the `exponent`, as a quotient of natural numbers. -/
def scaled (num den : Nat) (exponent : Int) : Nat × Nat :=
  if 0 ≤ exponent then (num, den * Nat.pow 2 exponent.toNat)
  else (num * Nat.pow 2 (-exponent).toNat, den)

/-- The exponent at which `num / den` has a mantissa of 53 bits, or the least one. -/
def exponentFor (num den : Nat) : Int :=
  let guess : Int := (Nat.log2 num : Int) - (Nat.log2 den : Int) - 52
  let (n, d) := scaled num den guess
  max leastExponent (if n < d * Nat.pow 2 52 then guess - 1 else guess)

/-- A mantissa of at most 53 bits, or the power of two above those, at an exponent. -/
def pack (negative : Bool) (mantissa : Nat) (exponent : Int) : Binary64 :=
  if mantissa < Nat.pow 2 53 then
    if exponent ≤ greatestExponent then .finite negative mantissa exponent else .infinite negative
  else if exponent < greatestExponent then .finite negative (Nat.pow 2 52) (exponent + 1)
  else .infinite negative

def zero (negative : Bool) : Binary64 :=
  .finite negative 0 leastExponent

/-- The number nearest to `num / den`, of the given sign. -/
def ofRatio (negative : Bool) (num den : Nat) : Binary64 :=
  if num = 0 then zero negative
  else
    let exponent := exponentFor num den
    let (n, d) := scaled num den exponent
    pack negative (nearest n d) exponent

/-- The number nearest to `value` times two to the `exponent`. -/
def ofScaled (value : Int) (exponent : Int) : Binary64 :=
  let (n, d) := scaled value.natAbs 1 (-exponent)
  ofRatio (value < 0) n d

def ofInt (n : Int) : Binary64 :=
  ofRatio (n < 0) n.natAbs 1

/-! ## Arithmetic and order -/

def signed (negative : Bool) (magnitude : Nat) : Int :=
  if negative then -(magnitude : Int) else magnitude

def timesNat (x : Binary64) (k : Nat) : Binary64 :=
  match x with
  | .nan => .nan
  | .infinite negative => if k = 0 then .nan else .infinite negative
  | .finite negative m e =>
    let (n, d) := scaled (m * k) 1 (-e)
    ofRatio negative n d

def plusHalf : Binary64 → Binary64
  | .nan => .nan
  | .infinite negative => .infinite negative
  | .finite negative m e =>
    if e < -1 then ofScaled (signed negative m + Int.pow 2 (-1 - e).toNat) e
    else ofScaled (signed negative m * Int.pow 2 (e + 1).toNat + 1) (-1)

/-- The integer part of a finite number: what stands before the point. -/
def truncate? : Binary64 → Option Int
  | .nan => none
  | .infinite _ => none
  | .finite negative m e =>
    some (signed negative (if 0 ≤ e then m * Nat.pow 2 e.toNat else m / Nat.pow 2 (-e).toNat))

/-- Whether one number is below another; a comparison with what is no number fails. -/
def lt : Binary64 → Binary64 → Bool
  | .nan, _ => false
  | _, .nan => false
  | .infinite a, .infinite b => a && !b
  | .infinite a, .finite _ _ _ => a
  | .finite _ _ _, .infinite b => !b
  | .finite a m e, .finite b n f =>
    let low := min e f
    decide (signed a m * Int.pow 2 (e - low).toNat < signed b n * Int.pow 2 (f - low).toNat)

/-! ## The interchange format -/

/-- The 64 bits of the number: sign, exponent, mantissa. What is no number has the quiet pattern. -/
def toBits : Binary64 → Nat
  | .nan => 0x7FF8000000000000
  | .infinite negative => (if negative then Nat.pow 2 63 else 0) + 0x7FF0000000000000
  | .finite negative m e =>
    (if negative then Nat.pow 2 63 else 0)
      + if m < Nat.pow 2 52 then m else (e + 1075).toNat * Nat.pow 2 52 + (m - Nat.pow 2 52)

example : (ofRatio false 1 3).toBits = 0x3FD5555555555555 := by decide +kernel

example : (ofRatio false 5 (10 ^ 324)).toBits = 1 := by decide +kernel

example : (ofRatio false (10 ^ 309) 1).toBits = 0x7FF0000000000000 := by decide +kernel

end Binary64

end LeadScreen
