import RowQuery.Json.Number
/-!
# Tokens of JSON

A text is a list of tokens with blanks between them. What is not a token ends
the list as `bad`.
-/

namespace RowQuery.Json

inductive Token where
  | openArray
  | closeArray
  | openObject
  | closeObject
  | comma
  | colon
  /-- A string; nothing when an escape in it is half of a character. -/
  | string (s : Option String)
  | scalar (t : Tree)
  | bad

/-- A blank between tokens. -/
def isBlank (c : Char) : Bool := c == ' ' || c == '\n' || c == '\t' || c == '\r'

/-- The value of a hexadecimal digit. -/
def hexDigit? (c : Char) : Option Nat :=
  if c.isDigit then some (c.toNat - '0'.toNat)
  else if 'a' ≤ c ∧ c ≤ 'f' then some (c.toNat - 'a'.toNat + 10)
  else if 'A' ≤ c ∧ c ≤ 'F' then some (c.toNat - 'A'.toNat + 10)
  else none

/-- The value of hexadecimal digits. -/
def hex? (cs : List Char) : Option Nat :=
  cs.foldlM (fun n c => (hexDigit? c).map (16 * n + ·)) 0

/-- The character a one-letter escape stands for. -/
def escaped? : Char → Option Char
  | '"' => some '"'
  | '\\' => some '\\'
  | '/' => some '/'
  | 'b' => some '\x08'
  | 'f' => some '\x0c'
  | 'n' => some '\n'
  | 'r' => some '\r'
  | 't' => some '\t'
  | _ => none

/-- The code units of a string, its opening quote already read, and what follows
its closing quote. -/
def units? : List Char → Option (List Nat × List Char)
  | [] => none
  | '"' :: rest => some ([], rest)
  | '\\' :: 'u' :: a :: b :: c :: d :: rest =>
    match hex? [a, b, c, d], units? rest with
    | some n, some (us, after) => some (n :: us, after)
    | _, _ => none
  | '\\' :: c :: rest =>
    match escaped? c, units? rest with
    | some c, some (us, after) => some (c.toNat :: us, after)
    | _, _ => none
  | c :: rest =>
    if c.toNat < 0x20 then none
    else
      match units? rest with
      | some (us, after) => some (c.toNat :: us, after)
      | none => none

theorem units?_length {cs after : List Char} {us : List Nat} (h : units? cs = some (us, after)) :
    after.length < cs.length := by
  fun_induction units? cs generalizing us with
  | case1 | case4 | case6 | case7 | case9 => cases h
  | case2 => cases h; simp
  | case3 _ _ _ _ _ _ _ _ hr _ ih =>
    cases h
    have := ih hr
    simp only [List.length_cons]
    omega
  | case5 _ _ _ _ _ _ hr _ ih =>
    cases h
    have := ih hr
    simp only [List.length_cons]
    omega
  | case8 _ _ _ _ _ _ _ _ hr ih =>
    cases h
    have := ih hr
    simp only [List.length_cons]
    omega

/-- The first half of a character beyond the basic plane. -/
def isHighHalf (n : Nat) : Bool := 0xD800 ≤ n && n < 0xDC00

/-- The second half of a character beyond the basic plane. -/
def isLowHalf (n : Nat) : Bool := 0xDC00 ≤ n && n < 0xE000

/-- The characters of code units; nothing when a half stands alone. -/
def characters? : List Nat → Option (List Char)
  | [] => some []
  | [n] => if isHighHalf n || isLowHalf n then none else some [Char.ofNat n]
  | n :: m :: rest =>
    if isHighHalf n then
      if isLowHalf m then
        (characters? rest).map (Char.ofNat (0x10000 + (n - 0xD800) * 0x400 + (m - 0xDC00)) :: ·)
      else none
    else if isLowHalf n then none
    else (characters? (m :: rest)).map (Char.ofNat n :: ·)

/-- A character of a literal or a number. -/
def isWordChar (c : Char) : Bool := c.isAlphanum || c == '+' || c == '-' || c == '.'

/-- The token a word starts with, and what is left of the word. -/
def word? (cs : List Char) : Option (Tree × List Char) :=
  if "null".toList.isPrefixOf cs then some (.null, cs.drop 4)
  else if "true".toList.isPrefixOf cs then some (.bool true, cs.drop 4)
  else if "false".toList.isPrefixOf cs then some (.bool false, cs.drop 5)
  else (numberText? cs).map fun (t, rest) => (t.tree, rest)

/-- The tokens of a word. -/
def wordTokens (cs : List Char) : List Token × Bool :=
  match word? cs with
  | some (t, []) => ([.scalar t], true)
  | some (t, _) => ([.scalar t, .bad], false)
  | none => ([.bad], false)

/-- The token of a single character. -/
def mark? : Char → Option Token
  | '[' => some .openArray
  | ']' => some .closeArray
  | '\x7b' => some .openObject
  | '\x7d' => some .closeObject
  | ',' => some .comma
  | ':' => some .colon
  | _ => none

/-- The tokens of a text. -/
def tokens : List Char → List Token
  | [] => []
  | c :: rest =>
    if isBlank c then tokens rest
    else if c = '"' then
      match _closed : units? rest with
      | none => [.bad]
      | some (us, after) => .string ((characters? us).map String.ofList) :: tokens after
    else
      match mark? c with
      | some t => t :: tokens rest
      | none =>
        if isWordChar c then
          match wordTokens (c :: rest.takeWhile isWordChar) with
          | (ts, true) => ts ++ tokens (rest.dropWhile isWordChar)
          | (ts, false) => ts
        else [.bad]
termination_by cs => cs.length
decreasing_by
  all_goals simp only [List.length_cons]
  · omega
  · have := units?_length _closed
    omega
  · omega
  · have := (List.dropWhile_sublist isWordChar (l := rest)).length_le
    omega

end RowQuery.Json
