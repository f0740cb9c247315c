import RowQuery.Saved.Document
import RowQuery.Saved.Name
/-!
# Settings

What the command takes as given when its line does not say otherwise. Settings
are read from a TOML text; each has a default, and unknown ones are passed over.
-/

namespace RowQuery

structure Settings where
  dialect : KnownDialect
  /-- The directives of the log filter. -/
  logLevel : String
  format : OutputFormat
deriving DecidableEq, Repr

namespace Settings

def default : Settings := ⟨.mysql, "warn", .text⟩

instance : Inhabited Settings := ⟨default⟩

/-- The settings after one more member. -/
def member (f : Format) (s : Settings) (key : String) (t : Tree) : Tree.Read Settings :=
  match key with
  | "dialect" => do
    let dialect ← KnownDialect.ofTree f t
    .ok { s with dialect := dialect }
  | "log_level" => do
    let logLevel ← t.asText
    .ok { s with logLevel := logLevel }
  | "format" => do
    let format ← OutputFormat.ofTree f t
    .ok { s with format := format }
  | _ => .ok s

/-- Reads settings from the members of a table. No key repeats in a TOML table. -/
def ofTree (f : Format) (t : Tree) : Tree.Read Settings :=
  match t.members? with
  | some members => Tree.foldMembers (member f) default members
  | none => .error (t.mismatch "struct Config")

def ofToml (text : String) : Except Unloadable Settings := Toml.load (ofTree .toml) text

end Settings

end RowQuery
