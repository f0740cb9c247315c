import RowQuery.Json.Token
/-!
# Strings of TOML

Basic strings have escapes, literal strings have none. Each comes on one line
or, between tripled quotes, on several; there a line ending is always one line
feed, and the one right after the opening quotes is dropped.
-/

namespace RowQuery.Toml

def isSpace (c : Char) : Bool := c == ' ' || c == '\t'

/-- A character that may stand in a text as it is. -/
def isPlain (c : Char) : Bool := c == '\t' || (0x20 ≤ c.toNat && c.toNat ≠ 0x7F)

/-- Drops a line ending, if one is there. -/
def newline? : List Char → Option (List Char)
  | '\n' :: rest => some rest
  | '\x0d' :: '\n' :: rest => some rest
  | _ => none

/-- The character of a one-letter escape. -/
def escaped? : Char → Option Char
  | 'b' => some '\x08'
  | 't' => some '\t'
  | 'n' => some '\n'
  | 'f' => some '\x0c'
  | 'r' => some '\x0d'
  | '"' => some '"'
  | '\\' => some '\\'
  | _ => none

/-- The character with that number, if there is one. -/
def scalar? (n : Nat) : Option Char := if n.isValidChar then some (Char.ofNat n) else none

/-- One character in front of a text. -/
def consText (c : Char) (r : Option (List Char × List Char)) : Option (List Char × List Char) :=
  r.map fun (cs, after) => (c :: cs, after)

/-- A basic string on one line, its opening quote already read, and what follows
its closing quote. -/
def basic? : List Char → Option (List Char × List Char)
  | [] => none
  | '"' :: rest => some ([], rest)
  | '\\' :: 'u' :: a :: b :: c :: d :: rest => do
    let n ← Json.hex? [a, b, c, d]
    let ch ← scalar? n
    consText ch (basic? rest)
  | '\\' :: 'U' :: a :: b :: c :: d :: e :: f :: g :: h :: rest => do
    let n ← Json.hex? [a, b, c, d, e, f, g, h]
    let ch ← scalar? n
    consText ch (basic? rest)
  | '\\' :: c :: rest => do
    let ch ← escaped? c
    consText ch (basic? rest)
  | c :: rest => if isPlain c && c ≠ '\\' then consText c (basic? rest) else none

/-- A literal string on one line, its opening quote already read. -/
def literal? : List Char → Option (List Char × List Char)
  | [] => none
  | '\'' :: rest => some ([], rest)
  | c :: rest => if isPlain c then consText c (literal? rest) else none

/-- A basic string on several lines, its opening quotes already read. After a
backslash at the end of a line, `skipping` drops all blanks and line endings. -/
def basicLines? (skipping : Bool) : List Char → Option (List Char × List Char)
  | [] => none
  | '"' :: '"' :: '"' :: '"' :: '"' :: rest => some (['"', '"'], rest)
  | '"' :: '"' :: '"' :: '"' :: rest => some (['"'], rest)
  | '"' :: '"' :: '"' :: rest => some ([], rest)
  | '\x0d' :: '\n' :: rest =>
    if skipping then basicLines? true rest else consText '\n' (basicLines? false rest)
  | '\n' :: rest => if skipping then basicLines? true rest else consText '\n' (basicLines? false rest)
  | '\\' :: 'u' :: a :: b :: c :: d :: rest => do
    let n ← Json.hex? [a, b, c, d]
    let ch ← scalar? n
    consText ch (basicLines? false rest)
  | '\\' :: 'U' :: a :: b :: c :: d :: e :: f :: g :: h :: rest => do
    let n ← Json.hex? [a, b, c, d, e, f, g, h]
    let ch ← scalar? n
    consText ch (basicLines? false rest)
  | '\\' :: c :: rest =>
    match escaped? c with
    | some ch => consText ch (basicLines? false rest)
    | none =>
      if (newline? ((c :: rest).dropWhile isSpace)).isSome then basicLines? true (c :: rest) else none
  | c :: rest =>
    if skipping && isSpace c then basicLines? true rest
    else if isPlain c && c ≠ '\\' then consText c (basicLines? false rest)
    else none

/-- A literal string on several lines, its opening quotes already read. -/
def literalLines? : List Char → Option (List Char × List Char)
  | [] => none
  | '\'' :: '\'' :: '\'' :: '\'' :: '\'' :: rest => some (['\'', '\''], rest)
  | '\'' :: '\'' :: '\'' :: '\'' :: rest => some (['\''], rest)
  | '\'' :: '\'' :: '\'' :: rest => some ([], rest)
  | '\x0d' :: '\n' :: rest => consText '\n' (literalLines? rest)
  | c :: rest => if isPlain c || c == '\n' then consText c (literalLines? rest) else none

/-- A string at the start of a text. -/
def string? : List Char → Option (String × List Char)
  | '"' :: '"' :: '"' :: rest => ofChars (basicLines? false ((newline? rest).getD rest))
  | '"' :: rest => ofChars (basic? rest)
  | '\'' :: '\'' :: '\'' :: rest => ofChars (literalLines? ((newline? rest).getD rest))
  | '\'' :: rest => ofChars (literal? rest)
  | _ => none
where
  ofChars (r : Option (List Char × List Char)) : Option (String × List Char) :=
    r.map fun (cs, after) => (String.ofList cs, after)

end RowQuery.Toml
