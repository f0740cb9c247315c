/-!
# Actions

The five operations a descriptor can be compiled for.
-/

namespace RowQuery

inductive Action where
  | create
  | read
  | update
  | delete
  | count
deriving DecidableEq, Repr

/-- The given text names no action. -/
structure InvalidAction where
  given : String
deriving DecidableEq, Repr

def InvalidAction.message (e : InvalidAction) : String :=
  "Invalid action: '" ++ e.given ++ "'. Expected: create, read, update, delete, or count"

namespace Action

/-- The action in capitals. -/
def display : Action → String
  | create => "CREATE"
  | read => "READ"
  | update => "UPDATE"
  | delete => "DELETE"
  | count => "COUNT"

/-- The action in small letters, as it is saved. -/
def name : Action → String
  | create => "create"
  | read => "read"
  | update => "update"
  | delete => "delete"
  | count => "count"

def all : List Action := [create, read, update, delete, count]

/-- Reads an action without regard to case; `insert` and `select` are other
words for `create` and `read`. -/
def parse (s : String) : Except InvalidAction Action :=
  match s.toLower with
  | "create" | "insert" => .ok create
  | "read" | "select" => .ok read
  | "update" => .ok update
  | "delete" => .ok delete
  | "count" => .ok count
  | _ => .error ⟨s⟩

end Action

end RowQuery
