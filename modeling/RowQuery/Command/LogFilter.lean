import RowQuery.Event
import RowQuery.Text.Blank
import RowQuery.Text.NameChar
/-!
# Log filters

A filter is a list of directives. A directive sets a level for the events of a
target, or of all; it may also ask for fields that the events must have. Of the
directives that concern an event the most specific one decides: the one with
the longest target, then the one with the most fields, then the one whose fields
come last in order. Of two that ask for the same the later one decides.

A directive for a span never concerns an event, since nothing here happens in a
span.
-/

namespace RowQuery.Command

/-- A directive for events. The level is a rank; `none` as a target means all. -/
structure Directive where
  target : Option String
  fields : List String
  /-- Every event of this rank and below is logged. -/
  rank : Nat
deriving DecidableEq, Repr

/-- Why a directive cannot be read. -/
inductive DirectiveFault where
  | malformed
  | unknownLevel
deriving DecidableEq, Repr

def DirectiveFault.message : DirectiveFault → String
  | malformed => "invalid filter directive"
  | unknownLevel =>
    "error parsing level filter: expected one of \"off\", \"error\", \"warn\", \"info\", \"debug\", " ++
      "\"trace\", or a number 0-5"

namespace Directive

/-- The rank of no event at all. -/
def offRank : Nat := 0

def levelNames : List (String × Nat) :=
  [("off", offRank), ("error", LogLevel.error.rank), ("warn", LogLevel.warn.rank),
   ("info", LogLevel.info.rank), ("debug", LogLevel.debug.rank), ("trace", LogLevel.trace.rank)]

/-- The rank a number stands for. -/
def rankOfNumber? (cs : List Char) : Option Nat :=
  let ds := match cs with
    | '+' :: rest => rest
    | cs => cs
  if ds.isEmpty || !ds.all Char.isDigit then none
  else
    let n := ds.foldl (fun n c => n * 10 + (c.toNat - '0'.toNat)) 0
    if n ≤ LogLevel.trace.rank then some n else none

/-- The rank of a level: its name without regard to case, or its number. -/
def rank? (cs : List Char) : Option Nat :=
  (rankOfNumber? cs).or (levelNames.lookup (String.ofList cs).toLower)

/-- A character that a level or a target may start with. -/
def startsTarget (c : Char) : Bool := c == '-' || c == ':' || Text.isNameChar c

/-- The rank behind a `=`; nothing there means all levels. -/
def rankBehind (cs : List Char) : Except DirectiveFault Nat :=
  match cs with
  | [] => .ok LogLevel.trace.rank
  | cs =>
    match rank? cs with
    | some r => .ok r
    | none => .error .unknownLevel

/-- The rank at the end of a directive, behind its span. -/
def rankAtEnd (cs : List Char) : Except DirectiveFault Nat :=
  match cs with
  | [] => .ok LogLevel.trace.rank
  | '=' :: level => rankBehind level
  | _ => .error .malformed

/-- What stands between the brackets of a directive: the name of a span, if one
is there, its fields, and what follows the closing bracket. -/
def span? (cs : List Char) : Option (Option (List Char) × List (List Char) × List Char) :=
  let name := cs.takeWhile fun c => c ≠ ']' && c ≠ '\x7b'
  match cs.dropWhile fun c => c ≠ ']' && c ≠ '\x7b' with
  | ']' :: rest => some (some name, [], rest)
  | '\x7b' :: rest =>
    let field := rest.takeWhile (· ≠ '\x7d')
    match field, rest.dropWhile (· ≠ '\x7d') with
    | _ :: _, '\x7d' :: ']' :: after => some (if name.isEmpty then none else some name, [field], after)
    | _, _ => none
  | _ => none

/-- A directive with brackets, the opening one already read. It is for events
when it names no span and asks for no field's value. -/
def bracketed (target : Option (List Char)) (cs : List Char) :
    Except DirectiveFault (Option Directive) :=
  match span? cs with
  | none => .error .malformed
  | some (name, fields, after) =>
    match rankAtEnd after with
    | .error e => .error e
    | .ok rank =>
      if name.isSome || fields.any (·.contains '=') then .ok none
      else .ok (some ⟨target.map String.ofList, fields.map String.ofList, rank⟩)

/-- Reads a directive; nothing inside when it does not concern events. -/
def parse (text : String) : Except DirectiveFault (Option Directive) :=
  let cs := Text.trimChars text.toList
  match cs with
  | [] => .error .malformed
  | '[' :: rest => bracketed none rest
  | c :: _ =>
    if !startsTarget c then .error .malformed
    else
      let target := cs.takeWhile fun c => c ≠ '=' && c ≠ '['
      match cs.dropWhile fun c => c ≠ '=' && c ≠ '[' with
      | '[' :: rest => bracketed (some target) rest
      | '=' :: level =>
        (rankBehind level).map fun rank => some ⟨some (String.ofList target), [], rank⟩
      | _ =>
        match rank? cs with
        | some rank => .ok (some ⟨none, [], rank⟩)
        | none => .ok (some ⟨some (String.ofList target), [], LogLevel.trace.rank⟩)

/-- The directive concerns an event. -/
def concerns (d : Directive) (e : Event) : Bool :=
  (match d.target with
    | none => true
    | some t => t.toList.isPrefixOf e.target.toList) &&
  d.fields.all fun name => name == "message" || e.fields.any fun f => f.name == name

/-- How specific a directive is: no target, then targets by their size. -/
def targetSize (d : Directive) : Nat :=
  match d.target with
  | none => 0
  | some t => t.utf8ByteSize + 1

/-- The first directive is more specific than the second. -/
def moreSpecific (a b : Directive) : Bool :=
  b.targetSize < a.targetSize ||
    (a.targetSize == b.targetSize &&
      (b.fields.length < a.fields.length ||
        (a.fields.length == b.fields.length && b.fields < a.fields)))

end Directive

/-- The directives of a filter, in the order in which they were given. -/
structure LogFilter where
  directives : List Directive
deriving DecidableEq, Repr

namespace LogFilter

/-- The filter of a text without directives: nothing but errors is logged. -/
def errorsOnly : LogFilter := ⟨[⟨none, [], LogLevel.error.rank⟩]⟩

/-- The directives of a text. -/
def pieces (text : String) : List String := (text.splitOn ",").filter (· ≠ "")

/-- A filter of what was read of each directive. -/
def ofParsed (parsed : List (Option Directive)) : LogFilter :=
  if parsed.isEmpty then errorsOnly else ⟨parsed.filterMap id⟩

/-- Reads a filter of which every directive can be read. -/
def parse? (text : String) : Option LogFilter :=
  ((pieces text).mapM fun p => (Directive.parse p).toOption).map ofParsed

/-- The directives of a text that can be read, and what is said of the others. -/
def readable : List String → List (Option Directive) × List String
  | [] => ([], [])
  | p :: rest =>
    let (parsed, said) := readable rest
    match Directive.parse p with
    | .ok d => (d :: parsed, said)
    | .error e => (parsed, ("ignoring \x60" ++ p ++ "\x60: " ++ e.message) :: said)

/-- Reads a filter, leaving out the directives that cannot be read. -/
def parseReadable (text : String) : LogFilter × List String :=
  let (parsed, said) := readable (pieces text)
  (ofParsed parsed, said)

/-- The more specific of two directives; of two equally specific ones the later. -/
def pick (best : Option Directive) (d : Directive) : Option Directive :=
  match best with
  | none => some d
  | some b => if b.moreSpecific d then some b else some d

/-- The directive that decides about an event. -/
def deciding (f : LogFilter) (e : Event) : Option Directive :=
  (f.directives.filter fun d => d.concerns e).foldl pick none

/-- The event is logged. -/
def passes (f : LogFilter) (e : Event) : Bool :=
  match f.deciding e with
  | some d => e.level.rank ≤ d.rank
  | none => false

end LogFilter

end RowQuery.Command
