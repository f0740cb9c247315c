import RowQuery.Command.Surroundings
import RowQuery.Saved.Name
/-!
# Arguments

A command line names a request. Options come in a long form and most in a short
one; a value follows its option or is attached to it; `--` ends the options.
Options that hold for every request may stand on either side of its name.

A line is read from its start, and the first thing that stops it decides: a
fault, or a wish for help or for the version.
-/

namespace RowQuery.Command

/-- An option with a value. -/
inductive Key where
  | config
  | action
  | dialect
  | format
deriving DecidableEq, Repr

/-- An option without a value. -/
inductive Flag where
  | verbose
  | help
  | version
deriving DecidableEq, Repr

inductive OptionName where
  | key (k : Key)
  | flag (f : Flag)
deriving DecidableEq, Repr

namespace OptionName

def long : OptionName → String
  | key .config => "config"
  | key .action => "action"
  | key .dialect => "dialect"
  | key .format => "format"
  | flag .verbose => "verbose"
  | flag .help => "help"
  | flag .version => "version"

def short? : OptionName → Option Char
  | key .config => none
  | key .action => some 'a'
  | key .dialect => some 'd'
  | key .format => some 'f'
  | flag .verbose => some 'v'
  | flag .help => some 'h'
  | flag .version => some 'V'

/-- The option as it stands on a line. -/
def shown (o : OptionName) : String := "--" ++ o.long

end OptionName

/-- What is wrong with a line. -/
inductive Misuse where
  | noRequest
  | unknownRequest (given : String)
  | unexpected (given : String)
  | unknownOption (given : String)
  | missingValue (o : OptionName)
  | unneededValue (o : OptionName)
  | invalidValue (o : OptionName) (given : String)
  | repeated (o : OptionName)
  | noFile
deriving DecidableEq, Repr

def Misuse.message : Misuse → String
  | noRequest => "a request is required"
  | unknownRequest given => "unrecognized request '" ++ given ++ "'"
  | unexpected given => "unexpected argument '" ++ given ++ "'"
  | unknownOption given => "unknown option '" ++ given ++ "'"
  | missingValue o => "a value is required for '" ++ o.shown ++ "'"
  | unneededValue o => "'" ++ o.shown ++ "' takes no value"
  | invalidValue o given => "invalid value '" ++ given ++ "' for '" ++ o.shown ++ "'"
  | repeated o => "'" ++ o.shown ++ "' cannot be used more than once"
  | noFile => "a file is required"

/-- What ends the reading of a line early. -/
inductive Stop where
  | misuse (m : Misuse)
  | help
  | version
deriving DecidableEq, Repr

/-- What the arguments on one side of the request's name have said so far. -/
structure Given where
  config : Option String := none
  verbose : Bool := false
  action : Option Action := none
  dialect : Option String := none
  format : Option OutputFormat := none
  file : Option String := none
deriving Repr

namespace Given

/-- A setting made for the first time. -/
def fresh {α : Type} (k : Key) (old : Option α) (new : Option α) (given : String) :
    Except Stop (Option α) :=
  match old, new with
  | some _, _ => .error (.misuse (.repeated (.key k)))
  | none, none => .error (.misuse (.invalidValue (.key k) given))
  | none, some x => .ok (some x)

/-- A path; it must not be empty. -/
def path? (s : String) : Option String := if s.isEmpty then none else some s

def setKey (g : Given) (k : Key) (v : String) : Except Stop Given :=
  match k with
  | .config => (fresh k g.config (path? v) v).map fun x => { g with config := x }
  | .action =>
    (fresh k g.action (Action.all.find? fun a => a.name = v) v).map fun x => { g with action := x }
  | .dialect => (fresh k g.dialect (some v) v).map fun x => { g with dialect := x }
  | .format =>
    (fresh k g.format (OutputFormat.all.find? fun f => f.name = v) v).map
      fun x => { g with format := x }

def setFlag (g : Given) (f : Flag) : Except Stop Given :=
  match f with
  | .help => .error .help
  | .version => .error .version
  | .verbose =>
    if g.verbose then .error (.misuse (.repeated (.flag f))) else .ok { g with verbose := true }

/-- The file of a request. -/
def setFile (g : Given) (path : String) : Except Stop Given :=
  match g.file, path? path with
  | none, some p => .ok { g with file := some p }
  | _, _ => .error (.misuse (.unexpected path))

end Given

/-- The options that hold on one side of a request's name, and whether a file or
a request is looked for there. -/
structure Level where
  options : List OptionName
  takesFile : Bool
  takesRequest : Bool

namespace Level

/-- In front of the request's name. -/
def front : Level := ⟨[.key .config, .flag .verbose, .flag .help, .flag .version], false, true⟩

/-- Behind the name of a request without options of its own. -/
def plain : Level := ⟨[.key .config, .flag .verbose, .flag .help], false, false⟩

/-- Behind `compile`. -/
def compile : Level :=
  ⟨[.key .action, .key .dialect, .key .format, .key .config, .flag .verbose, .flag .help], true, false⟩

def long? (l : Level) (name : String) : Option OptionName := l.options.find? fun o => o.long = name

def short? (l : Level) (c : Char) : Option OptionName := l.options.find? fun o => o.short? = some c

/-- Reads short options that stand together. A key among them takes the rest as
its value, without a `=` in front; with nothing left its value is still due. -/
def cluster (l : Level) (g : Given) : List Char → Except Stop (Given × Option Key)
  | [] => .ok (g, none)
  | c :: rest =>
    match l.short? c with
    | none => .error (.misuse (.unknownOption (String.ofList ['-', c])))
    | some (.flag f) =>
      match g.setFlag f with
      | .error e => .error e
      | .ok g => cluster l g rest
    | some (.key k) =>
      match rest with
      | [] => .ok (g, some k)
      | '=' :: v => (g.setKey k (String.ofList v)).map fun g => (g, none)
      | v => (g.setKey k (String.ofList v)).map fun g => (g, none)

/-- Reads a long option. -/
def longOption (l : Level) (g : Given) (cs : List Char) : Except Stop (Given × Option Key) :=
  let name := String.ofList (cs.takeWhile (· ≠ '='))
  match l.long? name, cs.dropWhile (· ≠ '=') with
  | none, _ => .error (.misuse (.unknownOption ("--" ++ name)))
  | some (.flag f), [] => (g.setFlag f).map fun g => (g, none)
  | some (.flag f), _ :: _ => .error (.misuse (.unneededValue (.flag f)))
  | some (.key k), [] => .ok (g, some k)
  | some (.key k), _ :: v => (g.setKey k (String.ofList v)).map fun g => (g, none)

/-- What an argument is before `--`. -/
inductive Kind where
  | escape
  | long (cs : List Char)
  | short (cs : List Char)
  | plain

def kind (arg : String) : Kind :=
  match arg.toList with
  | ['-', '-'] => .escape
  | '-' :: '-' :: cs => .long cs
  | ['-'] => .plain
  | '-' :: cs => .short cs
  | _ => .plain

/-- An argument that is no option. -/
def isPlain (arg : String) : Bool :=
  match kind arg with
  | .plain => true
  | _ => false

/-- The request that ends a level: its name and the arguments behind it. -/
abbrev Next := Option (String × List String)

/-- Reads the arguments of a level. `due` is an option whose value comes next. -/
def read (l : Level) (g : Given) (due : Option Key) : List String → Except Stop (Given × Next)
  | [] =>
    match due with
    | some k => .error (.misuse (.missingValue (.key k)))
    | none => .ok (g, none)
  | arg :: rest =>
    match due with
    | some k =>
      if isPlain arg then
        match g.setKey k arg with
        | .error e => .error e
        | .ok g => read l g none rest
      else .error (.misuse (.missingValue (.key k)))
    | none =>
      match kind arg with
      | .escape => (rest.foldlM (readPlain l) g).map fun g => (g, none)
      | .long cs =>
        match l.longOption g cs with
        | .error e => .error e
        | .ok (g, due) => read l g due rest
      | .short cs =>
        match l.cluster g cs with
        | .error e => .error e
        | .ok (g, due) => read l g due rest
      | .plain =>
        if l.takesRequest then .ok (g, some (arg, rest))
        else
          match readPlain l g arg with
          | .error e => .error e
          | .ok g => read l g none rest
where
  /-- Reads an argument that is neither an option nor a request. -/
  readPlain (l : Level) (g : Given) (arg : String) : Except Stop Given :=
    if l.takesFile then g.setFile arg else .error (.misuse (.unexpected arg))

end Level

/-- What is asked for. -/
inductive Request where
  | compile (file : String) (action : Action) (dialect : Option String) (format : Option OutputFormat)
  | dialects
  | roles
deriving DecidableEq, Repr

structure Invocation where
  /-- The file of the settings, when one is named. -/
  config? : Option String
  verbose : Bool
  request : Request
deriving DecidableEq, Repr

namespace Invocation

/-- The variable that names the file of the settings. -/
def configVariable : String := "QUARRY_CONFIG"

/-- The file of the settings: the one named last on the line, else the one of
the environment. A side of the line that names none looks at the environment
for itself, and what it finds there must be a path. -/
def configOf (environment front behind : Option String) : Except Stop (Option String) :=
  match environment, front, behind with
  | _, some _, some b => .ok (some b)
  | none, front, behind => .ok (behind.or front)
  | some v, front, behind =>
    if v.isEmpty then .error (.misuse (.invalidValue (.key .config) v))
    else .ok ((behind.or front).or (some v))

/-- The request of a name and what was given behind it. -/
def requestOf (name : String) (g : Given) : Except Stop Request :=
  match name with
  | "compile" =>
    match g.file with
    | some file => .ok (.compile file (g.action.getD .read) g.dialect g.format)
    | none => .error (.misuse .noFile)
  | "dialects" => .ok .dialects
  | "roles" => .ok .roles
  | name => .error (.misuse (.unknownRequest name))

/-- The level behind the name of a request. -/
def level? (name : String) : Option Level :=
  match name with
  | "compile" => some .compile
  | "dialects" => some .plain
  | "roles" => some .plain
  | _ => none

/-- Help for the request of a name, or for the whole command. -/
def helpFor : List String → Stop
  | [] => .help
  | [name] =>
    if name = "help" || (level? name).isSome then .help else .misuse (.unknownRequest name)
  | name :: other :: _ =>
    if name = "help" || (level? name).isSome then .misuse (.unknownRequest other)
    else .misuse (.unknownRequest name)

/-- Reads a line. -/
def parse (value? : String → Option String) (args : List String) : Except Stop Invocation := do
  let (front, next) ← Level.front.read {} none args
  match next with
  | none => .error (.misuse .noRequest)
  | some (name, rest) =>
    if name = "help" then .error (helpFor rest)
    else
      match level? name with
      | none => .error (.misuse (.unknownRequest name))
      | some level => do
        let (behind, _) ← level.read {} none rest
        let request ← requestOf name behind
        let config ← configOf (value? configVariable) front.config behind.config
        .ok ⟨config, front.verbose || behind.verbose, request⟩

end Invocation

end RowQuery.Command
