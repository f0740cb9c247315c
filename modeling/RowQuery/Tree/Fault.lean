import RowQuery.Number.Layout
import RowQuery.Text.Shown
import RowQuery.Tree
/-!
# Faults of documents

Why a document could not be read as what it should hold. A fault is a cause;
its wording is one function of it.
-/

namespace RowQuery

/-- The two formats a document can be written in. -/
inductive Format where
  | json
  | toml
deriving DecidableEq, Repr

inductive Fault where
  /-- The text is not in its format, or breaks off. -/
  | unreadable
  | wrongType (found : Tree) (expected : String)
  | outOfRange (n : Int) (expected : String)
  | missingField (name : String)
  | duplicateField (name : String)
  | unknownVariant (given : String) (known : List String)
  | tooShort (length : Nat) (expected : String)
  /-- Something that is no value, such as a table, stands where a value should. -/
  | noValue
  /-- A variant is neither a name nor a table. -/
  | notVariant
  | variantTableSize (empty : Bool)
  /-- The content of a variant's table is not empty. -/
  | variantContent (content : Tree)

namespace Fault

/-- A name between backquotes. -/
def ticked (s : String) : String := "`" ++ s ++ "`"

/-- The text of a floating-point number in a message. -/
def floatText (f : Format) (x : Binary64) : String :=
  match f with
  | .json => x.saved
  | .toml => x.displayPointed

/-- What was found, in words. -/
def foundText (f : Format) : Tree → String
  | .null | .unreadable _ | .unnamed _ _ => "null"
  | .bool b => "boolean " ++ ticked (if b then "true" else "false")
  | .int n => "integer " ++ ticked (intText n)
  | .float x => "floating point " ++ ticked (floatText f x)
  | .string s => "string " ++ Text.shown s
  | .array _ => "sequence"
  | .object _ | .date _ => "map"

/-- The variants to choose from, in words. -/
def choices : List String → String
  | [a] => ticked a
  | [a, b] => ticked a ++ " or " ++ ticked b
  | names => "one of " ++ ", ".intercalate (names.map ticked)

/-- A tree's kind, as a message about a variant's content names it. -/
def kindText : Tree → String
  | .string _ => "string"
  | .int _ => "integer"
  | .float _ => "float"
  | .bool _ => "boolean"
  | .date _ => "datetime"
  | .array _ => "array"
  | .object _ => "table"
  | .null | .unreadable _ | .unnamed _ _ => "none"

def message (f : Format) : Fault → String
  | unreadable => "not well formed"
  | wrongType found expected => "invalid type: " ++ foundText f found ++ ", expected " ++ expected
  | outOfRange n expected => "invalid value: integer " ++ ticked (intText n) ++ ", expected " ++ expected
  | missingField name => "missing field " ++ ticked name
  | duplicateField name => "duplicate field " ++ ticked name
  | unknownVariant given known => "unknown variant " ++ ticked given ++ ", expected " ++ choices known
  | tooShort length expected => "invalid length " ++ toString length ++ ", expected " ++ expected
  | noValue => "data did not match any variant of untagged enum Value"
  | notVariant => "wanted string or table"
  | variantTableSize true => "wanted exactly 1 element, found 0 elements"
  | variantTableSize false => "wanted exactly 1 element, more than 1 element"
  | variantContent (.array _) | variantContent (.object _) => "expected empty table"
  | variantContent t => "expected table, found " ++ kindText t

end Fault

/-- A fault and the format of the document it was found in. -/
structure Unloadable where
  format : Format
  fault : Fault

/-- The fault in words, with its format in front. -/
def Unloadable.message (e : Unloadable) : String :=
  match e.format with
  | .json => "JSON error: " ++ e.fault.message .json
  | .toml => "TOML error: " ++ e.fault.message .toml

end RowQuery
