/-!
# What surrounds a command

A command knows its surroundings through lookups: the variables of its
environment, what a path leads to, and whether a person is watching. So a run is
a function of its surroundings and its arguments.
-/

namespace RowQuery.Command

/-- What a path leads to. -/
inductive Found where
  | text (s : String)
  /-- A file whose bytes are no text. -/
  | bytes
  | directory
  | missing
  /-- The path goes on behind a file. -/
  | throughFile
  | tooLong
deriving DecidableEq, Repr, Inhabited

/-- Why the text at a path cannot be had. -/
def Found.reason : Found → String
  | text _ => ""
  | bytes => "stream did not contain valid UTF-8"
  | directory => "Is a directory (os error 21)"
  | missing => "No such file or directory (os error 2)"
  | throughFile => "Not a directory (os error 20)"
  | tooLong => "File name too long (os error 36)"

/-- Something is there. -/
def Found.exists : Found → Bool
  | text _ | bytes | directory => true
  | missing | throughFile | tooLong => false

structure Surroundings where
  /-- The value of a variable that is set. -/
  value? : String → Option String
  file : String → Found
  /-- The output goes to a terminal. -/
  isTerminal : Bool

/-- What a run leaves behind. -/
structure Outcome where
  code : UInt32
  out : String
  err : String
deriving DecidableEq, Repr

end RowQuery.Command
