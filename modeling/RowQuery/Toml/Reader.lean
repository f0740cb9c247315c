import RowQuery.Toml.Scalar
import RowQuery.Toml.Table
/-!
# Reading TOML

A document is read line by line: headers, keys with their values, comments. It
is read as a whole or not at all. Sequences and inline tables may be nested
79 deep, and a dotted key may have as many parts.

Functions that follow the nesting of values take a bound on their steps; twice
the length of the text is more than any text can use up.
-/

namespace RowQuery.Toml

/-- One more than the deepest nesting and the longest dotted key. -/
def limit : Nat := 80

def spaces (cs : List Char) : List Char := cs.dropWhile isSpace

/-- Drops a comment, if there is one. -/
def comment : List Char → List Char
  | '#' :: rest => rest.dropWhile isPlain
  | cs => cs

/-- Drops what may follow at the end of a line, and the line ending. -/
def lineEnd? (cs : List Char) : Option (List Char) :=
  match comment (spaces cs) with
  | [] => some []
  | cs => newline? cs

/-- Drops blanks, comments and line endings. -/
def gap : Nat → List Char → List Char
  | 0, cs => cs
  | steps + 1, cs =>
    let cs := spaces cs
    match cs with
    | '#' :: rest =>
      match newline? (rest.dropWhile isPlain) with
      | some cs => gap steps cs
      | none => cs
    | cs =>
      match newline? cs with
      | some cs => gap steps cs
      | none => cs

/-! ## Keys -/

def isBareKeyChar (c : Char) : Bool := c.isAlphanum || c == '_' || c == '-'

/-- One part of a key. -/
def keyPart? : List Char → Option (String × List Char)
  | '"' :: rest => (basic? rest).map fun (cs, after) => (String.ofList cs, after)
  | '\'' :: rest => (literal? rest).map fun (cs, after) => (String.ofList cs, after)
  | cs =>
    match cs.takeWhile isBareKeyChar with
    | [] => none
    | k => some (String.ofList k, cs.dropWhile isBareKeyChar)

/-- The parts of a key, with the blanks around them. -/
def keyParts? : Nat → List Char → Option (List String × List Char)
  | 0, _ => none
  | steps + 1, cs => do
    let (k, cs) ← keyPart? (spaces cs)
    match spaces cs with
    | '.' :: rest => do
      let (ks, rest) ← keyParts? steps rest
      some (k :: ks, rest)
    | cs => some ([k], cs)

/-- A key, parted into its path and its last part. -/
def key? (cs : List Char) : Option (List String × String × List Char) := do
  let (ks, rest) ← keyParts? (limit - 1) cs
  let last ← ks.getLast?
  some (ks.dropLast, last, rest)

/-! ## Values -/

mutual
/-- A value, with `room` levels of nesting left. -/
def value? (steps room : Nat) (cs : List Char) : Option (Tree × List Char) :=
  match steps with
  | 0 => none
  | steps + 1 =>
    match cs with
    | '"' :: _ | '\'' :: _ => (string? cs).map fun (s, rest) => (.string s, rest)
    | '[' :: rest =>
      match room with
      | 0 => none
      | room + 1 => (items? steps room rest).map fun (ts, rest) => (.array ts, rest)
    | '\x7b' :: rest =>
      match room with
      | 0 => none
      | room + 1 =>
        match spaces rest with
        | '\x7d' :: rest => some (.object [], rest)
        | rest => (pairs? steps room [] rest).map fun (es, rest) => (.object (entryTrees es), rest)
    | 't' :: 'r' :: 'u' :: 'e' :: rest => some (.bool true, rest)
    | 'f' :: 'a' :: 'l' :: 's' :: 'e' :: rest => some (.bool false, rest)
    | cs => dateOrNumber? cs

/-- The items of a sequence up to its closing bracket. -/
def items? (steps room : Nat) (cs : List Char) : Option (List Tree × List Char) :=
  match steps with
  | 0 => none
  | steps + 1 =>
    match gap cs.length cs with
    | ']' :: rest => some ([], rest)
    | cs => do
      let (t, cs) ← value? steps room cs
      match gap cs.length cs with
      | ',' :: rest => do
        let (ts, rest) ← items? steps room rest
        some (t :: ts, rest)
      | ']' :: rest => some ([t], rest)
      | _ => none

/-- The keys of an inline table up to its closing brace, added to those before. -/
def pairs? (steps room : Nat) (es : Entries) (cs : List Char) : Option (Entries × List Char) :=
  match steps with
  | 0 => none
  | steps + 1 => do
    let (path, key, cs) ← key? cs
    let cs ← after? '=' cs
    let (t, cs) ← value? steps room (spaces cs)
    let es ← es.addKey path key t
    match spaces cs with
    | ',' :: rest => pairs? steps room es rest
    | '\x7d' :: rest => some (es, rest)
    | _ => none
end

/-! ## Documents -/

/-- Reads a header, its opening bracket already read. -/
def header? (d : Draft) (cs : List Char) : Option (Draft × List Char) :=
  match cs with
  | '[' :: rest => do
    let (path, key, cs) ← key? rest
    let cs ← after? ']' cs
    let cs ← after? ']' cs
    let cs ← lineEnd? cs
    let d ← d.startRepeated (path ++ [key])
    some (d, cs)
  | cs => do
    let (path, key, cs) ← key? cs
    let cs ← after? ']' cs
    let cs ← lineEnd? cs
    let d ← d.startTable (path ++ [key])
    some (d, cs)

/-- Reads a key with its value. -/
def keyValue? (d : Draft) (cs : List Char) : Option (Draft × List Char) := do
  let (path, key, rest) ← key? cs
  let rest ← after? '=' rest
  let (t, rest) ← value? (2 * cs.length) (limit - 1) (spaces rest)
  let rest ← lineEnd? rest
  let d ← d.addKey path key t
  some (d, rest)

/-- Reads the lines of a document. -/
def lines? : Nat → Draft → List Char → Option Draft
  | 0, d, cs => if (spaces cs).isEmpty then some d else none
  | steps + 1, d, cs =>
    match spaces cs with
    | [] => some d
    | '[' :: rest => do
      let (d, rest) ← header? d rest
      lines? steps d rest
    | c :: rest =>
      if c == '#' || c == '\n' || c == '\x0d' then do
        let rest ← lineEnd? (c :: rest)
        lines? steps d rest
      else do
        let (d, rest) ← keyValue? d (c :: rest)
        lines? steps d rest

/-- A text without the mark of its byte order. -/
def unmarked : List Char → List Char
  | '\uFEFF' :: rest => rest
  | cs => cs

/-- Reads a TOML text. -/
def read (s : String) : Option Tree := do
  let cs := unmarked s.toList
  let d ← lines? cs.length {} cs
  let es ← d.finish
  some (.object (entryTrees es))

end RowQuery.Toml
