import RowQuery.Number.Layout
import RowQuery.Text.Shown
import RowQuery.Tree
/-!
# Writing JSON

A tree is written either on one line without blanks, or with one item a line
and two blanks for each level of nesting. What JSON has no form for is `null`.
-/

namespace RowQuery.Json

/-- A character inside a string. -/
def charText (c : Char) : String :=
  match c with
  | '"' => "\\\""
  | '\\' => "\\\\"
  | '\x08' => "\\b"
  | '\x0c' => "\\f"
  | '\n' => "\\n"
  | '\r' => "\\r"
  | '\t' => "\\t"
  | _ =>
    if c.toNat < 0x20 then (if c.toNat < 0x10 then "\\u000" else "\\u00") ++ Text.hexText c.toNat
    else String.singleton c

/-- A string in quotes. -/
def stringText (s : String) : String := "\"" ++ String.join (s.toList.map charText) ++ "\""

/-- A tree that holds no other. -/
def scalarText : Tree → String
  | .bool b => if b then "true" else "false"
  | .int n => intText n
  | .float x => x.saved
  | .string s => stringText s
  | .date text => stringText text
  | _ => "null"

mutual
/-- A tree on one line. -/
def compact : Tree → String
  | .array items => "[" ++ ",".intercalate (compactItems items) ++ "]"
  | .object members => "\x7b" ++ ",".intercalate (compactMembers members) ++ "\x7d"
  | t => scalarText t

def compactItems : List Tree → List String
  | [] => []
  | t :: rest => compact t :: compactItems rest

def compactMembers : List (String × Tree) → List String
  | [] => []
  | (k, t) :: rest => (stringText k ++ ":" ++ compact t) :: compactMembers rest
end

/-- Lines between two brackets, one level deeper than `indent`. -/
def block (opening closing : String) (indent : String) (lines : List String) : String :=
  if lines.isEmpty then opening ++ closing
  else
    opening ++ "\n" ++ ",\n".intercalate (lines.map fun l => indent ++ "  " ++ l) ++ "\n" ++
      indent ++ closing

mutual
/-- A tree with one item a line, after the given indentation. -/
def pretty (indent : String) : Tree → String
  | .array items => block "[" "]" indent (prettyItems (indent ++ "  ") items)
  | .object members => block "\x7b" "\x7d" indent (prettyMembers (indent ++ "  ") members)
  | t => scalarText t

def prettyItems (indent : String) : List Tree → List String
  | [] => []
  | t :: rest => pretty indent t :: prettyItems indent rest

def prettyMembers (indent : String) : List (String × Tree) → List String
  | [] => []
  | (k, t) :: rest => (stringText k ++ ": " ++ pretty indent t) :: prettyMembers indent rest
end

end RowQuery.Json
