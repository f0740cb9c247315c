import RowQuery.Toml.Text
/-!
# Numbers and dates of TOML

Digits may be parted by single underscores. An integer has to fit a signed
64-bit word. A floating-point number is the one nearest to its decimal; one
that is too large is refused, unless it is negative. A date or a time is checked
against the calendar and kept in its standard form.
-/

namespace RowQuery.Toml

/-- Digits parted by single underscores, without them, and what follows. The
first character has to be a digit, and so has the one after an underscore. -/
def digits? (isDigit : Char → Bool) : List Char → Option (List Char × List Char)
  | [] => none
  | [c] => if isDigit c then some ([c], []) else none
  | c :: '_' :: rest => if isDigit c then consText c (digits? isDigit rest) else none
  | c :: d :: rest =>
    if isDigit c then
      if isDigit d then consText c (digits? isDigit (d :: rest)) else some ([c], d :: rest)
    else none

/-- A sign, if there is one. -/
def sign (cs : List Char) : Bool × List Char :=
  match cs with
  | '-' :: rest => (true, rest)
  | '+' :: rest => (false, rest)
  | cs => (false, cs)

/-- A decimal integer without its sign: a zero stands alone. -/
def whole? : List Char → Option (List Char × List Char)
  | '0' :: rest => some (['0'], rest)
  | cs => digits? Char.isDigit cs

/-- The number of a list of digits. -/
def number (base : Nat) (ds : List Char) : Nat :=
  ds.foldl (fun n c => n * base + (Json.hexDigit? c).getD 0) 0

/-- An integer that fits a signed 64-bit word. -/
def word? (n : Int) : Option Tree :=
  if Int64.minValue.toInt ≤ n ∧ n ≤ Int64.maxValue.toInt then some (.int n) else none

def isHexDigit (c : Char) : Bool := (Json.hexDigit? c).isSome
def isOctalDigit (c : Char) : Bool := '0' ≤ c && c ≤ '7'
def isBinaryDigit (c : Char) : Bool := c == '0' || c == '1'

/-- An integer with a base. -/
def based? (base : Nat) (isDigit : Char → Bool) (cs : List Char) : Option (Tree × List Char) := do
  let (ds, rest) ← digits? isDigit cs
  let t ← word? (number base ds)
  some (t, rest)

/-- The exponent of a number, if an `e` starts one; nothing inside when its
digits are missing. -/
def exponent (cs : List Char) : Option (Option (Int × List Char)) :=
  match cs with
  | c :: rest =>
    if c == 'e' || c == 'E' then
      let (negative, rest) := sign rest
      match digits? Char.isDigit rest with
      | some (ds, rest) =>
        let n : Int := number 10 ds
        some (some (if negative then -n else n, rest))
      | none => some none
    else none
  | [] => none

/-- The floating-point number nearest to a decimal. Decimals far out of the
range are not written out in full first. -/
def nearest (negative : Bool) (ds : List Char) (e : Int) : Binary64 :=
  let n := number 10 ds
  if n = 0 then .ofRatio negative 0 1
  else if 400 < e + ds.length then .ofMagnitude negative Binary64.infinity.magnitudeBits
  else if e + ds.length < -400 then .ofRatio negative 0 1
  else .ofDecimal negative n e

/-- A number that is not the largest of all. -/
def bounded (x : Binary64) (rest : List Char) : Option (Tree × List Char) :=
  if x = Binary64.infinity then none else some (.float x, rest)

/-- A number in decimal digits. -/
def decimal? (cs : List Char) : Option (Tree × List Char) := do
  let (negative, cs) := sign cs
  let (ds, rest) ← whole? cs
  match rest with
  | '.' :: more => do
    let (fraction, rest) ← digits? Char.isDigit more
    let e : Int := -fraction.length
    match exponent rest with
    | none => bounded (nearest negative (ds ++ fraction) e) rest
    | some none => none
    | some (some (k, rest)) => bounded (nearest negative (ds ++ fraction) (e + k)) rest
  | rest =>
    match exponent rest with
    | none => do
      let t ← word? (if negative then -(number 10 ds : Int) else number 10 ds)
      some (t, rest)
    | some none => none
    | some (some (k, rest)) => bounded (nearest negative ds k) rest

/-- Infinity and not a number, by name. -/
def named? (cs : List Char) : Option (Tree × List Char) :=
  let (negative, cs) := sign cs
  let signed (x : Binary64) : Tree := .float (if negative then x.neg else x)
  match cs with
  | 'i' :: 'n' :: 'f' :: rest => some (signed .infinity, rest)
  | 'n' :: 'a' :: 'n' :: rest => some (signed .nan, rest)
  | _ => none

def number? (cs : List Char) : Option (Tree × List Char) :=
  match cs with
  | '0' :: 'x' :: rest => based? 16 isHexDigit rest
  | '0' :: 'o' :: rest => based? 8 isOctalDigit rest
  | '0' :: 'b' :: rest => based? 2 isBinaryDigit rest
  | cs =>
    match named? cs with
    | some r => some r
    | none => decimal? cs

/-! ## Dates and times -/

/-- A number of exactly that many digits. -/
def fixed? (count : Nat) (cs : List Char) : Option (Nat × List Char) :=
  let ds := cs.take count
  if ds.length = count && ds.all Char.isDigit then some (number 10 ds, cs.drop count) else none

/-- A number of two digits, at least `low` and at most `high`. -/
def pair? (low high : Nat) (cs : List Char) : Option (Nat × List Char) := do
  let (n, rest) ← fixed? 2 cs
  if low ≤ n ∧ n ≤ high then some (n, rest) else none

/-- What follows the given character. -/
def after? (c : Char) : List Char → Option (List Char)
  | d :: rest => if c = d then some rest else none
  | [] => none

/-- The days of a month. -/
def daysIn (year month : Nat) : Nat :=
  if month = 2 then
    if year % 4 = 0 ∧ (year % 100 ≠ 0 ∨ year % 400 = 0) then 29 else 28
  else if month = 4 ∨ month = 6 ∨ month = 9 ∨ month = 11 then 30
  else 31

/-- A number in at least that many digits. -/
def padded (count n : Nat) : String :=
  let ds := Nat.toDigits 10 n
  String.ofList (List.replicate (count - ds.length) '0' ++ ds)

/-- The fraction of a second in its standard form: at most nine digits, without
zeros at the end. -/
def secondFraction (ds : List Char) : String :=
  let ds := ((ds.take 9).reverse.dropWhile (· == '0')).reverse
  if ds.isEmpty then "" else "." ++ String.ofList ds

/-- The time of a day after its hour and the colon. -/
def minutes? (hour : Nat) (cs : List Char) : Option (String × List Char) := do
  let (minute, cs) ← pair? 0 59 cs
  let cs ← after? ':' cs
  let (second, cs) ← pair? 0 60 cs
  let text := padded 2 hour ++ ":" ++ padded 2 minute ++ ":" ++ padded 2 second
  match cs with
  | '.' :: rest =>
    match rest.takeWhile Char.isDigit with
    | [] => some (text, cs)
    | ds => some (text ++ secondFraction ds, rest.dropWhile Char.isDigit)
  | cs => some (text, cs)

/-- A time of a day. The outer option says whether an hour and a colon are
there; after them there is no way back. -/
def time? (cs : List Char) : Option (Option (String × List Char)) := do
  let (hour, cs) ← pair? 0 23 cs
  let cs ← after? ':' cs
  some (minutes? hour cs)

/-- The offset of a time, if one is there. -/
def offset? (cs : List Char) : Option (String × List Char) :=
  match cs with
  | c :: rest =>
    if c == 'Z' || c == 'z' then some ("Z", rest)
    else if c == '+' || c == '-' then do
      let (hour, rest) ← pair? 0 23 rest
      let rest ← after? ':' rest
      let (minute, rest) ← pair? 0 59 rest
      some (String.singleton c ++ padded 2 hour ++ ":" ++ padded 2 minute, rest)
    else some ("", cs)
  | [] => some ("", [])

/-- A date after its year and the dash, with the time if one follows. -/
def date? (year : Nat) (cs : List Char) : Option (Tree × List Char) := do
  let (month, cs) ← pair? 1 12 cs
  let cs ← after? '-' cs
  let (day, cs) ← pair? 1 31 cs
  if daysIn year month < day then none
  let text := padded 4 year ++ "-" ++ padded 2 month ++ "-" ++ padded 2 day
  match cs with
  | c :: rest =>
    if c == 'T' || c == 't' || c == ' ' then
      match time? rest with
      | none => some (.date text, cs)
      | some none => none
      | some (some (time, rest)) => do
        let (offset, rest) ← offset? rest
        some (.date (text ++ "T" ++ time ++ offset), rest)
    else some (.date text, cs)
  | [] => some (.date text, [])

/-- A date, a time or a number. -/
def dateOrNumber? (cs : List Char) : Option (Tree × List Char) :=
  match fixed? 4 cs with
  | some (year, '-' :: rest) => date? year rest
  | _ =>
    match time? cs with
    | some r => r.map fun (text, rest) => (.date text, rest)
    | none => number? cs

end RowQuery.Toml
