import RowQuery.Event
import RowQuery.Text.Shown
/-!
# Log lines

An event is logged on one line: its level, where it comes from, its message and
its details by name.
-/

namespace RowQuery.Event

/-- A character of a message. Those that steer a terminal are spelled out. -/
def messageChar (c : Char) : String :=
  match c with
  | '\x1b' => "\\x1b"
  | '\x07' => "\\x07"
  | '\x08' => "\\x08"
  | '\x0c' => "\\x0c"
  | '\x7f' => "\\x7f"
  | _ =>
    if 0x80 ≤ c.toNat && c.toNat ≤ 0x9F then "\\u\x7b" ++ Text.hexText c.toNat ++ "\x7d"
    else String.singleton c

/-- A detail of an event. -/
def fieldText (f : LogField) : String :=
  " " ++ f.name ++ "=" ++ (if f.quoted then Text.shown f.text else f.text)

/-- The width of a level in a line. -/
def levelWidth : Nat := 5

/-- The line of an event. -/
def line (e : Event) : String :=
  let level := e.level.name
  String.ofList (List.replicate (levelWidth - level.length) ' ') ++ level ++ " " ++ e.target ++ ": " ++
    String.join (e.message.toList.map messageChar) ++ String.join (e.fields.map fieldText)

end RowQuery.Event
