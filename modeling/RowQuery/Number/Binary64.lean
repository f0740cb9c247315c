/-!
# Binary floating point of 64 bits

A number is the word that holds it: a sign bit, eleven bits of exponent and
fifty-two of fraction. All arithmetic here is exact arithmetic on naturals
followed by one rounding (`ofRatio`: to the nearest word, a tie to the even
one), so nothing depends on the machine.
-/

namespace RowQuery

/-- A 64-bit binary floating-point number, as its word. -/
structure Binary64 where
  bits : UInt64
deriving DecidableEq, Repr, Inhabited

namespace Binary64

/-- The word without its sign bit. -/
def magnitudeBits (x : Binary64) : Nat := x.bits.toNat % (1 <<< 63)

def isNegative (x : Binary64) : Bool := 1 <<< 63 ≤ x.bits.toNat

/-- The eleven exponent bits. -/
def exponentBits (x : Binary64) : Nat := x.magnitudeBits >>> 52

/-- The fifty-two fraction bits. -/
def fractionBits (x : Binary64) : Nat := x.magnitudeBits % (1 <<< 52)

/-- Neither infinite nor a NaN. -/
def isFinite (x : Binary64) : Bool := x.exponentBits != 2047

def isNaN (x : Binary64) : Bool := x.exponentBits == 2047 && x.fractionBits != 0

def isZero (x : Binary64) : Bool := x.magnitudeBits == 0

/-- A finite number is `significand * 2 ^ exponent` up to its sign. -/
def significand (x : Binary64) : Nat :=
  if x.exponentBits = 0 then x.fractionBits else (1 <<< 52) + x.fractionBits

def exponent (x : Binary64) : Int :=
  if x.exponentBits = 0 then -1074 else (x.exponentBits : Int) - 1075

/-- The word with the given sign and magnitude. -/
def ofMagnitude (negative : Bool) (magnitude : Nat) : Binary64 :=
  ⟨UInt64.ofNat (if negative then (1 <<< 63) + magnitude else magnitude)⟩

def zero : Binary64 := ofMagnitude false 0
def infinity : Binary64 := ofMagnitude false (2047 <<< 52)
def nan : Binary64 := ofMagnitude false ((2047 <<< 52) + (1 <<< 51))

/-- The same number with the sign turned. -/
def neg (x : Binary64) : Binary64 := ofMagnitude (!x.isNegative) x.magnitudeBits

/-- The quotient of two naturals rounded to the nearest natural, a tie to the
even one. -/
def roundDiv (num den : Nat) : Nat :=
  let q := num / den
  let r := num % den
  if 2 * r < den then q
  else if den < 2 * r then q + 1
  else if q % 2 = 0 then q else q + 1

/-- `num / den` counted in units of `2 ^ q`, as a numerator and a denominator. -/
def inUnits (num den : Nat) (q : Int) : Nat × Nat :=
  if 0 ≤ q then (num, den <<< q.toNat) else (num <<< (-q).toNat, den)

/-- The unit in which a positive quotient takes at most fifty-three bits, and
no unit finer than the smallest there is. -/
def unitFor (num den : Nat) : Int :=
  let guess := max ((num.log2 : Int) - (den.log2 : Int) - 53) (-1074)
  let (n, d) := inUnits num den guess
  if n / d < 1 <<< 53 then guess else guess + 1

/-- The magnitude nearest to a positive quotient; beyond the largest finite one
it is infinity. -/
def magnitudeOfRatio (num den : Nat) : Nat :=
  let q := unitFor num den
  let (n, d) := inUnits num den q
  let m := roundDiv n d
  -- A significand that rounds up to 2 ^ 53 carries into the exponent field.
  let word := if m < 1 <<< 52 then m else ((q + 1074).toNat <<< 52) + m
  min word (2047 <<< 52)

/-- The number nearest to `num / den`, a tie to the even word. -/
def ofRatio (negative : Bool) (num den : Nat) : Binary64 :=
  ofMagnitude negative (if num = 0 then 0 else magnitudeOfRatio num den)

/-- The number nearest to an integer. -/
def ofInt (n : Int) : Binary64 := ofRatio (n < 0) n.natAbs 1

/-- The number nearest to `digits * 10 ^ e`. -/
def ofDecimal (negative : Bool) (digits : Nat) (e : Int) : Binary64 :=
  if 0 ≤ e then ofRatio negative (digits * Nat.pow 10 e.toNat) 1
  else ofRatio negative digits (Nat.pow 10 (-e).toNat)

/-- A finite number without its sign, as a quotient. -/
def ratio (x : Binary64) : Nat × Nat :=
  if 0 ≤ x.exponent then (x.significand <<< x.exponent.toNat, 1)
  else (x.significand, 1 <<< (-x.exponent).toNat)

/-- The rounded product of two finite numbers. -/
def mul (x y : Binary64) : Binary64 :=
  let (a, b) := x.ratio
  let (c, d) := y.ratio
  ofRatio (x.isNegative != y.isNegative) (a * c) (b * d)

/-- The rounded quotient of two finite numbers, the second not zero. -/
def div (x y : Binary64) : Binary64 :=
  let (a, b) := x.ratio
  let (c, d) := y.ratio
  ofRatio (x.isNegative != y.isNegative) (a * d) (b * c)

end Binary64

end RowQuery
