import RowQuery.Tree
/-!
# Numbers in JSON

An integer that fits 64 bits, signed or unsigned, is read exactly; any other
number is a floating-point number. Its digits are gathered while they fit an
unsigned 64-bit word, and the rest only counts towards the exponent. The word
is rounded to floating point and then multiplied or divided by a power of ten,
each step rounded by itself, so long decimals may be read one unit away from
the nearest number.
-/

namespace RowQuery.Json

/-- The value of a digit. -/
def digit (c : Char) : Nat := c.toNat - '0'.toNat

/-- Digits added to a number while it fits an unsigned 64-bit word, and the
digits left over. -/
def gather (n : Nat) : List Char → Nat × List Char
  | [] => (n, [])
  | c :: rest =>
    if n * 10 + digit c < UInt64.size then gather (n * 10 + digit c) rest else (n, c :: rest)

/-- A power of ten in floating point. -/
def powerOfTen (k : Nat) : Binary64 := .ofDecimal false 1 k

/-- The largest power of ten in floating point. -/
def largestPower : Nat := 308

/-- A positive number scaled down by a power of ten, at most `largestPower`
powers at a time. -/
def scaleDown (x : Binary64) (k : Nat) : Binary64 :=
  if k ≤ largestPower then x.div (powerOfTen k)
  else if x.isZero then x
  else scaleDown (x.div (powerOfTen largestPower)) (k - largestPower)
termination_by k
decreasing_by
  have : largestPower = 308 := rfl
  omega

/-- `digits * 10 ^ e`; nothing when it is beyond the range. -/
def scale (digits : Nat) (e : Int) : Option Binary64 :=
  let x := Binary64.ofInt digits
  if e < 0 then some (scaleDown x e.natAbs)
  else if x.isZero then some x
  else if e.toNat ≤ largestPower then
    let y := x.mul (powerOfTen e.toNat)
    if y.isFinite then some y else none
  else none

/-- The parts of a number's text. -/
structure NumberText where
  negative : Bool
  whole : List Char
  /-- The digits behind the point. -/
  fraction : List Char
  /-- The exponent, if one is written. -/
  exponent : Option Int

/-- The number of a list of digits. -/
def wholeNumber (ds : List Char) : Nat := ds.foldl (fun n c => n * 10 + digit c) 0

/-- Reads the exponent of a number, its `e` already read. -/
def exponent? (cs : List Char) : Option (Int × List Char) :=
  let (negative, cs) := match cs with
    | '-' :: rest => (true, rest)
    | '+' :: rest => (false, rest)
    | cs => (false, cs)
  match cs.takeWhile Char.isDigit with
  | [] => none
  | ds =>
    let n : Int := wholeNumber ds
    some (if negative then -n else n, cs.dropWhile Char.isDigit)

/-- Reads the fraction of a number, if there is one. -/
def fraction? : List Char → Option (List Char × List Char)
  | '.' :: rest =>
    match rest.takeWhile Char.isDigit with
    | [] => none
    | ds => some (ds, rest.dropWhile Char.isDigit)
  | cs => some ([], cs)

/-- Reads the text of a number, and what follows it. -/
def numberText? (cs : List Char) : Option (NumberText × List Char) := do
  let (negative, cs) := match cs with
    | '-' :: rest => (true, rest)
    | cs => (false, cs)
  let whole := cs.takeWhile Char.isDigit
  if whole.isEmpty || (whole.head? == some '0' && 1 < whole.length) then none
  let (fraction, cs) ← fraction? (cs.dropWhile Char.isDigit)
  match cs with
  | c :: rest =>
    if c == 'e' || c == 'E' then do
      let (e, rest) ← exponent? rest
      some (⟨negative, whole, fraction, some e⟩, rest)
    else some (⟨negative, whole, fraction, none⟩, cs)
  | [] => some (⟨negative, whole, fraction, none⟩, [])

/-- The number that a number's text stands for. -/
def NumberText.tree (t : NumberText) : Tree :=
  let (word, dropped) := gather 0 t.whole
  if dropped.isEmpty && t.fraction.isEmpty && t.exponent.isNone
      && (!t.negative || (word ≠ 0 && word ≤ 1 <<< 63)) then
    .int (if t.negative then -word else word)
  else
    let (word, ignored) := gather word t.fraction
    let e : Int := dropped.length - (t.fraction.length - ignored.length : Int) + t.exponent.getD 0
    match scale word e with
    | some x => .float (if t.negative then x.neg else x)
    | none => .unreadable true

end RowQuery.Json
