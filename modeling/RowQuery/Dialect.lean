import RowQuery.Connector
import RowQuery.Text.Blank
/-!
# Dialects

A dialect is the set of texts in which SQL dialects differ. Everything else in
a statement is the same for all of them, so any value of this type can be
compiled with. `mysql` is the one that is known by name.
-/

namespace RowQuery

structure Dialect where
  /-- The name shown in logs. -/
  name : String
  /-- A reference to a table. -/
  table : String → String
  /-- A reference to a bound name. -/
  marker : String → String
  /-- The current time. -/
  now : String
  /-- The value that lets the database assign an identity. -/
  null : String
  /-- The column name of a row count. -/
  countAlias : String := "RowCount"
  /-- What follows a sorted column. -/
  sortSuffix : Direction → String := fun
    | .ascending => ""
    | .descending => " DESC"
  /-- The window of rows, with the blank before it; empty when there is none. -/
  limit : Option UInt64 → Option UInt64 → String

namespace Dialect

/-- A name between backquotes, each backquote in it written twice. -/
def backquoted (name : List Char) : List Char :=
  '\x60' :: name.flatMap (fun c => if c = '\x60' then ['\x60', '\x60'] else [c]) ++ ['\x60']

/-- A first row alone has no form; without a cap there is no window. -/
def mysqlLimit (first cap : Option UInt64) : String :=
  match first, cap with
  | _, none => ""
  | none, some cap => " LIMIT " ++ toString cap.toNat
  | some first, some cap => " LIMIT " ++ toString first.toNat ++ ", " ++ toString cap.toNat

def mysql : Dialect where
  name := "MySQL"
  table name := String.ofList (backquoted name.toList)
  marker name := ":" ++ name
  now := "NOW()"
  null := "NULL"
  limit := mysqlLimit

end Dialect

/-- The dialects known by name. -/
inductive KnownDialect where
  | mysql
deriving DecidableEq, Repr, Inhabited

/-- The given text names no dialect. -/
structure InvalidDialect where
  given : String
deriving DecidableEq, Repr

def InvalidDialect.message (e : InvalidDialect) : String :=
  "Invalid dialect: '" ++ e.given ++ "'. Expected: MySQL"

namespace KnownDialect

def all : List KnownDialect := [mysql]

def name : KnownDialect → String
  | mysql => "MySQL"

def dialect : KnownDialect → Dialect
  | mysql => Dialect.mysql

/-- Reads a dialect's name without regard to blanks around it or to case. -/
def parse (s : String) : Except InvalidDialect KnownDialect :=
  match all.find? fun d => d.name.toLower = (Text.trim s).toLower with
  | some d => .ok d
  | none => .error ⟨s⟩

end KnownDialect

end RowQuery
