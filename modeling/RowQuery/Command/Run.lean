import RowQuery.Command.Arguments
import RowQuery.Command.LogFilter
import RowQuery.Command.LogLine
import RowQuery.Command.Report
import RowQuery.Settings
/-!
# Running a command

A run reads its settings, sets up the log, and answers one request. It is a
function of its surroundings and its arguments; `paths` lists every path it may
look at. The code is 0 after an answer, 1 after a failure and 2 after misuse of
the line.
-/

namespace RowQuery.Command

/-- Why the settings cannot be had. -/
inductive SettingsFault where
  | unread (path : String) (found : Found)
  | unloadable (e : Unloadable)

def SettingsFault.message : SettingsFault → String
  | unread path found => "Configuration error: " ++ path ++ ": " ++ found.reason
  | unloadable e => e.message

/-- Why a request failed. -/
inductive Failure where
  | settings (f : SettingsFault)
  | dialect (e : InvalidDialect)
  | unread (path : String) (found : Found)
  | unknownFormat (path : String)
  | unloadable (e : Unloadable)
  | notCompiled (a : Action) (scope : String) (e : CompileError)

def Failure.message : Failure → String
  | settings f => "loading config: " ++ f.message
  | dialect e => e.message
  | unread path found => "reading " ++ path ++ ": " ++ found.reason
  | unknownFormat path => path ++ ": expected a .json or .toml descriptor"
  | unloadable e => e.message
  | notCompiled a scope e => a.display ++ " on '" ++ scope ++ "' did not compile: " ++ e.message

namespace Surroundings

/-! ## Settings -/

/-- The file that settings are kept in. -/
def settingsFile : String := "quarry.toml"

/-- The directory of a person's settings. -/
def settingsDirectory? (s : Surroundings) : Option String :=
  match (s.value? "XDG_CONFIG_HOME").filter (fun p => p.toList.head? = some '/') with
  | some p => some p
  | none => ((s.value? "HOME").filter (· ≠ "")).map (· ++ "/.config")

/-- Where settings are looked for when the line names no file. -/
def settingsPaths (s : Surroundings) : List String :=
  settingsFile :: (s.settingsDirectory?.map fun p => p ++ "/quarry/" ++ settingsFile).toList

/-- The settings of a file. -/
def loadSettings (s : Surroundings) (path : String) : Except SettingsFault Settings :=
  match s.file path with
  | .text text =>
    match Settings.ofToml text with
    | .ok settings => .ok settings
    | .error e => .error (.unloadable e)
  | found => .error (.unread path found)

/-- The settings that hold: those of the named file, else of the first place
where there are some, else the defaults. -/
def settings (s : Surroundings) (config? : Option String) : Except SettingsFault Settings :=
  match config?.or (s.settingsPaths.find? fun p => (s.file p).exists) with
  | some path => s.loadSettings path
  | none => .ok .default

/-- The log filter, and what is said while it is set up. The environment comes
first, if it can be read as a whole. -/
def logFilter (s : Surroundings) (verbose : Bool) (settings : Settings) : LogFilter × List String :=
  match (s.value? "RUST_LOG").bind LogFilter.parse? with
  | some f => (f, [])
  | none => LogFilter.parseReadable (if verbose then "debug" else settings.logLevel)

/-! ## Descriptors -/

/-- What follows the last point of a path's last part, unless it starts with its
only point. -/
def extension? (path : String) : Option String :=
  let name := (path.toList.reverse.takeWhile (· ≠ '/'))
  match name.dropWhile (· ≠ '.') with
  | '.' :: _ :: _ => some (String.ofList (name.takeWhile (· ≠ '.')).reverse)
  | _ => none

/-- The format of a descriptor's file. -/
def formatOf? (path : String) : Option Format :=
  match extension? path with
  | some "json" => some .json
  | some "toml" => some .toml
  | _ => none

/-- The descriptor of a file. -/
def loadDescriptor (s : Surroundings) (path : String) : Except Failure Descriptor :=
  match s.file path with
  | .text text =>
    match formatOf? path with
    | none => .error (.unknownFormat path)
    | some f =>
      match Descriptor.ofText f text with
      | .ok d => .ok d
      | .error e => .error (.unloadable e)
  | found => .error (.unread path found)

end Surroundings

/-! ## Answers -/

/-- What a request prints, what it logs, and how it failed, if it did. -/
structure Answer where
  out : String := ""
  log : List Event := []
  failure? : Option Failure := none

/-- Compiles the descriptor of a file and shows the result. -/
def compileFile (s : Surroundings) (ink : Ink) (path : String) (a : Action) (d : KnownDialect)
    (f : OutputFormat) : Answer :=
  match s.loadDescriptor path with
  | .error e => { failure? := some e }
  | .ok descriptor =>
    let r := descriptor.compile a d.dialect
    { out := Report.result ink f a d r
      log := descriptor.events a d.dialect
      failure? := match r with
        | .ok _ => none
        | .error e => some (.notCompiled a descriptor.scope e) }

/-- The answer to a request. -/
def answer (s : Surroundings) (ink : Ink) (settings : Settings) : Request → Answer
  | .compile file action dialect format =>
    match dialect.map KnownDialect.parse with
    | some (.error e) => { failure? := some (.dialect e) }
    | some (.ok d) => compileFile s ink file action d (format.getD settings.format)
    | none => compileFile s ink file action settings.dialect (format.getD settings.format)
  | .dialects => { out := Report.dialects ink }
  | .roles => { out := Report.roles ink }

/-- The line that reports a failure. -/
def failureLine (ink : Ink) (f : Failure) : String :=
  ink.paint .redBold "Error:" ++ " " ++ f.message

/-- Runs a request. -/
def invoke (s : Surroundings) (i : Invocation) : Outcome :=
  let ink := Ink.ofVariables s.value? s.isTerminal
  match s.settings i.config? with
  | .error e => ⟨1, "", Report.lines [failureLine ink (.settings e)]⟩
  | .ok settings =>
    let (filter, said) := s.logFilter i.verbose settings
    let answer := answer s ink settings i.request
    let logged := (answer.log.filter filter.passes).map Event.line
    match answer.failure? with
    | none => ⟨0, answer.out, Report.lines (said ++ logged)⟩
    | some f => ⟨1, answer.out, Report.lines (said ++ logged ++ [failureLine ink f])⟩

/-! ## The whole line -/

def versionText : String := "quarry 0.3.0"

/-- The forms of a line. -/
def helpLines : List String :=
  ["Compile query descriptors into parameterized SQL",
   "",
   "Usage: quarry [OPTIONS] <COMMAND>",
   "",
   "Commands:",
   "  compile <FILE>  Compile a descriptor file (JSON or TOML)",
   "  dialects        List registered dialects",
   "  roles           Show how schema roles are written",
   "  help            Print this message",
   "",
   "Options:",
   "  -a, --action <ACTION>    create, read, update, delete or count; read when missing",
   "  -d, --dialect <DIALECT>  The dialect to compile for",
   "  -f, --format <FORMAT>    text or json",
   "      --config <CONFIG>    The file of the settings",
   "  -v, --verbose            Log more",
   "  -h, --help               Print help",
   "  -V, --version            Print version"]

/-- Runs a line. -/
def run (s : Surroundings) (args : List String) : Outcome :=
  match Invocation.parse s.value? args with
  | .ok i => invoke s i
  | .error .help => ⟨0, Report.lines helpLines, ""⟩
  | .error .version => ⟨0, Report.lines [versionText], ""⟩
  | .error (.misuse m) => ⟨2, "", Report.lines ["error: " ++ m.message]⟩

/-- The paths that a run may look at. -/
def paths (s : Surroundings) (args : List String) : List String :=
  match Invocation.parse s.value? args with
  | .error _ => []
  | .ok i =>
    i.config?.toList ++ s.settingsPaths ++
      match i.request with
      | .compile file _ _ _ => [file]
      | .dialects | .roles => []

end RowQuery.Command
