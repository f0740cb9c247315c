import RowQuery.Number.Shortest
/-!
# How numbers are laid out

Both layouts write the shortest decimal. A saved number keeps a decimal point
or an exponent, so that it stays apart from an integer; from `10 ^ 16` up and
below `10 ^ -5` it is written with an exponent. A displayed number is written
out in full, without a point when it is whole.
-/

namespace RowQuery

/-- An integer in decimal digits. -/
def intText (n : Int) : String := (if n < 0 then "-" else "") ++ toString n.natAbs

namespace Decimal

/-- The digits of the decimal. -/
def digitText (d : Decimal) : String := toString d.digits

/-- `count` zeros. -/
def zeros (count : Int) : String := String.ofList (List.replicate count.toNat '0')

/-- The decimal written out; `wholeEnd` follows a whole number. -/
def positional (d : Decimal) (wholeEnd : String) : String :=
  let ds := d.digitText.toList
  if 0 ≤ d.exponent then String.ofList ds ++ zeros d.exponent ++ wholeEnd
  else
    let point := (d.count : Int) + d.exponent
    if 0 < point then
      String.ofList (ds.take point.toNat) ++ "." ++ String.ofList (ds.drop point.toNat)
    else "0." ++ zeros (-point) ++ String.ofList ds

/-- One digit, the rest behind a point, and the exponent with its sign. -/
def scientific (d : Decimal) : String :=
  let ds := d.digitText.toList
  let e := d.leading
  String.ofList (ds.take 1) ++ (if ds.length ≤ 1 then "" else "." ++ String.ofList (ds.drop 1)) ++
    "e" ++ (if e < 0 then "-" else "+") ++ toString e.natAbs

/-- The exponents of the first digit that a saved number writes out in full. -/
def isPlain (e : Int) : Bool := -5 ≤ e && e ≤ 15

end Decimal

namespace Binary64

/-- The sign in front of a number. -/
def signText (x : Binary64) : String := if x.isNegative then "-" else ""

/-- A number as it is saved. Infinities and NaNs have no saved form of their own. -/
def saved (x : Binary64) : String :=
  if !x.isFinite then "null"
  else if x.isZero then x.signText ++ "0.0"
  else
    let d := x.shortest
    x.signText ++ (if Decimal.isPlain d.leading then d.positional ".0" else d.scientific)

/-- A number as it is displayed. -/
def display (x : Binary64) : String :=
  if x.isNaN then "NaN"
  else if !x.isFinite then x.signText ++ "inf"
  else if x.isZero then x.signText ++ "0"
  else x.signText ++ x.shortest.positional ""

/-- A number written out in full, with a point even when it is whole. -/
def displayPointed (x : Binary64) : String :=
  if !x.isFinite then x.display
  else if x.isZero then x.signText ++ "0.0"
  else x.signText ++ x.shortest.positional ".0"

end Binary64

end RowQuery
