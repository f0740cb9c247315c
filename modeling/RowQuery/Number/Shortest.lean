import RowQuery.Number.Binary64
/-!
# The shortest decimal of a floating-point number

The decimal written for a number has the fewest digits among those that read
back as the number, and of these it is the nearest. It is found on the grids of
one, two, … seventeen digits: a grid has a candidate just below the number and
one just above, and the first grid with a candidate that reads back wins.
-/

namespace RowQuery

/-- A positive decimal, `digits * 10 ^ exponent`. -/
structure Decimal where
  digits : Nat
  exponent : Int
deriving DecidableEq, Repr

namespace Decimal

/-- The number of decimal digits. -/
def count (d : Decimal) : Nat := (Nat.toDigits 10 d.digits).length

/-- The exponent of the first digit. -/
def leading (d : Decimal) : Int := d.exponent + d.count - 1

/-- The same decimal without zeros at its end. -/
def strip : Nat → Decimal → Decimal
  | 0, d => d
  | fuel + 1, d =>
    if d.digits ≠ 0 ∧ d.digits % 10 = 0 then strip fuel ⟨d.digits / 10, d.exponent + 1⟩ else d

/-- `num / den` counted in units of `10 ^ e`, as a numerator and a denominator. -/
def inUnits (num den : Nat) (e : Int) : Nat × Nat :=
  if 0 ≤ e then (num, den * Nat.pow 10 e.toNat) else (num * Nat.pow 10 (-e).toNat, den)

/-- `num / den` is at least `10 ^ e`. -/
def reaches (num den : Nat) (e : Int) : Bool :=
  let (n, d) := inUnits num den e
  d ≤ n

/-- The exponent of the first digit of `num / den`, starting from an estimate
that is at most `fuel` too low. -/
def firstExponent (num den : Nat) : Nat → Int → Int
  | 0, e => e
  | fuel + 1, e => if reaches num den (e + 1) then firstExponent num den fuel (e + 1) else e

end Decimal

namespace Binary64

/-- The decimals that read back as a positive finite number: those between the
midpoints to its neighbours, in quarters of its unit. The ends belong to it when
its significand is even. -/
structure Interval where
  low : Nat
  high : Nat
  unit : Int
  closed : Bool

/-- The lower neighbour of a power of two is only half as far away. -/
def interval (x : Binary64) : Interval :=
  let m := x.significand
  let near := x.fractionBits == 0 && 1 < x.exponentBits
  ⟨4 * m - (if near then 1 else 2), 4 * m + 2, x.exponent - 2, m % 2 == 0⟩

/-- The decimal lies in the interval. -/
def Interval.holds (i : Interval) (d : Decimal) : Bool :=
  -- Both sides are brought to whole numbers: `digits * 10 ^ e` against `bound * 2 ^ unit`.
  let scale := Nat.pow 10 d.exponent.toNat <<< (-i.unit).toNat
  let value := d.digits * scale
  let side (bound : Nat) : Nat := (bound <<< i.unit.toNat) * Nat.pow 10 (-d.exponent).toNat
  if i.closed then side i.low ≤ value && value ≤ side i.high
  else side i.low < value && value < side i.high

/-- The better of the two candidates of one grid, if one of them reads back. -/
def onGrid (x : Binary64) (e : Int) : Option Decimal :=
  let (num, den) := x.ratio
  let (n, d) := Decimal.inUnits num den e
  let below : Decimal := ⟨n / d, e⟩
  let above : Decimal := ⟨n / d + 1, e⟩
  let i := x.interval
  let lowFits := below.digits != 0 && i.holds below
  let highFits := i.holds above
  match lowFits, highFits with
  | true, true =>
    let r := n % d
    if 2 * r < d || (2 * r == d && below.digits % 2 == 0) then some below else some above
  | true, false => some below
  | false, true => some above
  | false, false => none

/-- The first grid with a candidate, from `room` digits fewer than seventeen on. -/
def search (x : Binary64) (first : Int) : Nat → Decimal
  | 0 => (x.onGrid (first - 16)).getD ⟨x.significand, 0⟩
  | room + 1 =>
    match x.onGrid (first - (16 - (room + 1 : Int))) with
    | some d => d
    | none => search x first room

/-- The shortest decimal that reads back as a positive finite number. -/
def shortest (x : Binary64) : Decimal :=
  let (num, den) := x.ratio
  let estimate : Int := ((num.log2 : Int) - (den.log2 : Int) - 1) * 30103 / 100000 - 1
  let first := Decimal.firstExponent num den 6 estimate
  Decimal.strip 17 (x.search first 16)

end Binary64

end RowQuery
