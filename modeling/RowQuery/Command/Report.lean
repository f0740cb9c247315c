import RowQuery.Command.Ink
import RowQuery.Json.Writer
import RowQuery.Compile
import RowQuery.Saved.Name
import RowQuery.Saved.Value
/-!
# Reports

What a command prints: a compiled statement or the reason why there is none,
the known dialects, and the way each column role is written.
-/

namespace RowQuery.Command.Report

/-- Lines, each with its end. -/
def lines (ls : List String) : String := String.join (ls.map (· ++ "\n"))

/-- A bound name and its value. -/
def binding (ink : Ink) (e : String × Value) : String :=
  "  :" ++ e.1 ++ " = " ++ ink.paint .yellow e.2.display

/-- The bind map of a statement; nothing when it is empty. -/
def bindings (ink : Ink) (params : Params) : List String :=
  match params.toList with
  | [] => []
  | es => "" :: ink.paint .cyan "Bindings:" :: es.map (binding ink)

/-- A compiled statement for a person. -/
def compiledText (ink : Ink) (a : Action) (d : KnownDialect) (c : Compiled) : String :=
  lines <|
    [ink.paint .greenBold "Generated SQL" ++ " " ++ ink.paint .dimmed ("(" ++ a.display ++ ")") ++ " " ++
        ink.paint .cyan ("[" ++ d.name ++ "]"),
     ink.paint .white c.body] ++ bindings ink c.params

/-- Why there is no statement, for a person. -/
def failedText (ink : Ink) (e : CompileError) : String :=
  lines
    [ink.paint .dimmed "body:" ++ " " ++ ink.paint .redBold "false",
     ink.paint .dimmed "reason:" ++ " " ++ e.message]

/-- The entries of a bind map by name. -/
def sorted (params : Params) : List (String × Value) :=
  params.toList.mergeSort fun a b => !(b.1 < a.1)

/-- A compiled statement for a program: members stand in the order of their names. -/
def compiledTree (c : Compiled) : Tree :=
  .object
    [("body", .string c.body),
     ("params", .object ((sorted c.params).map fun (name, v) => (name, v.toTree)))]

/-- Why there is no statement, for a program. -/
def failedTree (e : CompileError) : Tree :=
  .object [("body", .bool false), ("error", .string e.message)]

/-- The result of a compilation. -/
def result (ink : Ink) (f : OutputFormat) (a : Action) (d : KnownDialect)
    (r : Except CompileError Compiled) : String :=
  match f, r with
  | .text, .ok c => compiledText ink a d c
  | .text, .error e => failedText ink e
  | .json, .ok c => lines [Json.pretty "" (compiledTree c)]
  | .json, .error e => lines [Json.pretty "" (failedTree e)]

/-- The known dialects. -/
def dialects (ink : Ink) : String :=
  lines <|
    ink.paint .cyanBold "Registered dialects" ::
      KnownDialect.all.map fun d =>
        "  • " ++ ink.paint .white d.name ++
          ink.paint .dimmed (if d = Inhabited.default then " (default)" else "")

/-- How a treatment is shown, with the literals of a dialect. -/
def treatment (g : Dialect) : Treatment → String
  | .bind => "bound"
  | .now => g.now
  | .null => g.null
  | .omit => "omitted"

/-- The widths of the first two columns of the table of roles. -/
def roleWidth : Nat := 14
def createWidth : Nat := 12

/-- The width of the rule under the head of the table. -/
def ruleWidth : Nat := 40

/-- How a role is written. -/
def role (ink : Ink) (g : Dialect) (r : ColumnRole) : String :=
  ink.paint .yellow (padded roleWidth r.name) ++ " " ++
    padded createWidth (treatment g (r.treatment .create)) ++ " " ++ treatment g (r.treatment .update)

/-- How each role is written. -/
def roles (ink : Ink) : String :=
  lines <|
    [ink.paint .cyanBold "Schema roles", "",
     ink.paint .whiteBold (padded roleWidth "Role") ++ " " ++
        ink.paint .whiteBold (padded createWidth "Create") ++ " " ++ ink.paint .whiteBold "Update",
     ink.paint .dimmed (String.ofList (List.replicate ruleWidth '─'))] ++
    ColumnRole.all.map (role ink .mysql)

end RowQuery.Command.Report
