import RowQuery.Dialect
/-!
# Pieces of a statement

A statement is a list of pieces. A piece is literal text or one of the places
where dialects differ, so a list of pieces is a statement in every dialect, and
`Dialect.write` picks one.
-/

namespace RowQuery

inductive Piece where
  | text (s : String)
  | table (name : String)
  | marker (name : String)
  | now
  | null
  | countAlias
  | sortSuffix (d : Direction)
  | limit (first cap : Option UInt64)
deriving DecidableEq, Repr

namespace Dialect

/-- A piece in a dialect. -/
def writePiece (g : Dialect) : Piece → String
  | .text s => s
  | .table name => g.table name
  | .marker name => g.marker name
  | .now => g.now
  | .null => g.null
  | .countAlias => g.countAlias
  | .sortSuffix d => g.sortSuffix d
  | .limit first cap => g.limit first cap

/-- A list of pieces in a dialect. -/
def write (g : Dialect) : List Piece → String
  | [] => ""
  | p :: rest => g.writePiece p ++ g.write rest

@[simp] theorem write_nil (g : Dialect) : g.write [] = "" := rfl

@[simp] theorem write_cons (g : Dialect) (p : Piece) (ps : List Piece) :
    g.write (p :: ps) = g.writePiece p ++ g.write ps := rfl

theorem write_append (g : Dialect) (ps qs : List Piece) :
    g.write (ps ++ qs) = g.write ps ++ g.write qs := by
  induction ps with
  | nil => simp
  | cons p ps ih => simp [ih, String.append_assoc]

end Dialect

/-- The name a marker piece binds. -/
def Piece.bindName? : Piece → Option String
  | .marker name => some name
  | _ => none

end RowQuery
