import RowQuery.Json.Reader
import RowQuery.Json.Writer
import RowQuery.Saved.Descriptor
import RowQuery.Toml.Reader
/-!
# Documents

Descriptors and their parts as texts. A TOML text is read as a whole before it
is looked at. In a JSON text a fault of the content is reported before one of the
text behind it, and a text that goes on after its end is at fault last.
-/

namespace RowQuery

/-- Reads a JSON text as what `decode` makes of its tree. -/
def Json.load {α : Type} (decode : Tree → Tree.Read α) (text : String) : Except Unloadable α :=
  let reading := Json.read text
  match decode reading.tree with
  | .error fault => .error ⟨.json, fault⟩
  | .ok x => if reading.clean then .ok x else .error ⟨.json, .unreadable⟩

/-- Reads a TOML text as what `decode` makes of its tree. -/
def Toml.load {α : Type} (decode : Tree → Tree.Read α) (text : String) : Except Unloadable α :=
  match Toml.read text with
  | none => .error ⟨.toml, .unreadable⟩
  | some t =>
    match decode t with
    | .error fault => .error ⟨.toml, fault⟩
    | .ok x => .ok x

/-- Reads a text in either format. -/
def Format.load {α : Type} (f : Format) (decode : Format → Tree → Tree.Read α) (text : String) :
    Except Unloadable α :=
  match f with
  | .json => Json.load (decode .json) text
  | .toml => Toml.load (decode .toml) text

namespace Descriptor

/-- Reads a descriptor. -/
def ofText (f : Format) (text : String) : Except Unloadable Descriptor := f.load ofTree text

/-- The descriptor as JSON on one line. -/
def toJson (d : Descriptor) : String := Json.compact d.toTree

end Descriptor

namespace Schema

def ofJson (text : String) : Except Unloadable Schema := Format.json.load ofTree text

def toJson (s : Schema) : String := Json.compact s.toTree

end Schema

end RowQuery
