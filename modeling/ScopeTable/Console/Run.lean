/-
# ScopeTable.Console.Run -- the commands

Every command reads a program, analyses it, and then answers. Two things leave it on the way: notices, which
are records of the log and diagnostics, and what is printed. They are kept apart from each other and from the
result, so a command that fails still shows what it had done until then.
-/
import ScopeTable.Analysis.Listing
import ScopeTable.Analysis.Lookup
import ScopeTable.Console.Arguments
import ScopeTable.Console.Files
import ScopeTable.Console.Settings
import ScopeTable.Grammar.Decode
import ScopeTable.Reporting.Build

namespace ScopeTable.Console

/-! ## §A Reports -/

/-- What a failure goes back to. The words for it are those of the system or of the reader of trees, which has
the line and column of the text in them. -/
inductive Cause where
  | reading (error : ReadError)
  | decoding (error : Grammar.DecodeError)

/-- A failure as it is shown to the user. -/
structure Report where
  code : String
  message : String
  help : Option String
  cause : Option Cause

namespace Report

/-- A file that cannot be read. -/
def ofReadError (path : String) (e : ReadError) : Report :=
  ⟨"E-001", "Could not read " ++ path, none, some (.reading e)⟩

/-- A file that holds no tree of a program. -/
def ofDecodeError (path : String) (e : Grammar.DecodeError) : Report :=
  ⟨"E-002", path ++ " does not contain a valid program tree",
    some "The input must be a JSON encoded Opal program, as written by the parser.",
    some (.decoding e)⟩

/-- A program whose table is useless. -/
def ofBuildFailure (failure : BuildFailure) : Report :=
  ⟨BuildFailure.code, failure.message, some BuildFailure.help, none⟩

/-- A name that is not found. -/
def ofLookupError (e : LookupError) : Report := ⟨e.code, e.message, none, none⟩

end Report

/-! ## §B Runs -/

/-- What comes of a part of a command: the notices and the printed text that leave it, and its result or the
report with which the command ends there. -/
structure Run (α : Type) where
  notices : List Notice
  printed : String
  result : Except Report α

namespace Run

variable {α β : Type}

/-- Nothing leaves, and nothing fails. -/
def done (a : α) : Run α := ⟨[], "", .ok a⟩

/-- One part after the other. Where the first one fails, the second is not run. -/
def andThen (run : Run α) (next : α → Run β) : Run β :=
  match run.result with
  | .ok a => ⟨run.notices ++ (next a).notices, run.printed ++ (next a).printed, (next a).result⟩
  | .error report => ⟨run.notices, run.printed, .error report⟩

instance : Monad Run where
  pure := done
  bind := andThen

/-- Gives notices. -/
def notify (notices : List Notice) : Run Unit := ⟨notices, "", .ok ()⟩

/-- Prints a text. -/
def print (text : String) : Run Unit := ⟨[], text, .ok ()⟩

/-- Prints a line. -/
def printLine (text : String) : Run Unit := print (text ++ "\n")

/-- A step that leaves nothing but may fail, with the report of its error. -/
def attempt {ε : Type} (report : ε → Report) (step : Except ε α) : Run α := ⟨[], "", step.mapError report⟩

/-- The exit code of a command. -/
def exitCode (run : Run α) : Nat :=
  match run.result with
  | .ok _ => 0
  | .error _ => 1

/-- The report of a command that fails. -/
def report? (run : Run α) : Option Report :=
  match run.result with
  | .ok _ => none
  | .error report => some report

end Run

/-! ## §C Reading and analysing -/

/-- The source of the records of the command line. -/
def consoleSource : String := "opal::cli"

/-- Reads a program from a file. -/
def readProgram (path : String) (contents : Except ReadError ByteArray) : Run Program := do
  Run.notify [.logged ⟨.debug, consoleSource, "Reading program tree from " ++ path⟩]
  let text ← Run.attempt (.ofReadError path) (readText contents)
  Run.attempt (.ofDecodeError path) (Grammar.decode .program text)

/-- Reads a program from a file and analyses it. -/
def examine (path : String) (contents : Except ReadError ByteArray) : Run SymbolTable := do
  let program ← readProgram path contents
  let (built, notices) := program.buildTelling .noticing []
  Run.notify notices
  Run.attempt .ofBuildFailure built

/-! ## §D Commands -/

/-- Checks the declarations of a program. -/
def check (path : String) (contents : Except ReadError ByteArray) : Run Unit := do
  let _ ← examine path contents
  Run.printLine (path ++ " declarations checked successfully!")

/-- Prints the table of a program. -/
def symbols (path : String) (contents : Except ReadError ByteArray) : Run Unit := do
  let table ← examine path contents
  Run.print table.listing

/-- A class as a look-up prints it. -/
def classText (cls : ClassTable) : String :=
  match cls.parent with
  | some parent =>
    "class " ++ cls.name.spelling ++ " extends " ++ parent.spelling ++ " (line " ++
      Decimal.integerText cls.name.line.toNat ++ ")"
  | none => "class " ++ cls.name.spelling ++ " (line " ++ Decimal.integerText cls.name.line.toNat ++ ")"

/-- The identifier of a group that a name designates: the first of that fold. A group in the table of a
class has one for every name it is found by. -/
def designated (group : VarDecl) (name : String) : Ident :=
  (group.names.find? fun n => Text.fold n.spelling == Text.fold name).getD
    (group.names.headD (.new name 0))

/-- A field as a look-up prints it, with the line of the identifier that the name designates. -/
def fieldText (group : VarDecl) (name : String) : String :=
  let found := designated group name
  "field " ++ found.spelling ++ ": " ++ group.type.text ++ " (line " ++ Decimal.integerText found.line.toNat ++ ")"

/-- A method as a look-up prints it. -/
def methodText (method : MethodTable) : String :=
  "method " ++ method.name.spelling ++ ": " ++ method.decl.returnType.text ++ " (line " ++
    Decimal.integerText method.name.line.toNat ++ ")"

/-- A variable as a look-up prints it. -/
def variableText (v : Variable) : String :=
  v.kind.word ++ " " ++ v.name.spelling ++ ": " ++ v.type.text ++ " (line " ++ Decimal.integerText v.line.toNat ++ ")"

/-! A look-up has texts of its own for what it prints. They are those of the rows of a listing, and of a field also
its place. -/

theorem classText_eq (cls : ClassTable) : classText cls = cls.row.text := by
  rw [classText, ClassTable.row]
  cases cls.parent <;> simp [Row.text, Row.place, String.append_assoc]

theorem fieldText_eq (group : VarDecl) (name : String) :
    fieldText group name =
      (Row.ofField (designated group name).spelling group.type).text ++ Row.place (designated group name).line := by
  simp [fieldText, Row.text, Row.place, String.append_assoc]

theorem methodText_eq (method : MethodTable) : methodText method = method.row.text := by
  simp [methodText, MethodTable.row, Row.text, Row.place, String.append_assoc]

theorem variableText_eq (v : Variable) : variableText v = v.row.text := by
  simp [variableText, Variable.row, Row.text, Row.place, String.append_assoc]

/-- Prints the entry that a query asks for. A field is asked for first. -/
def Query.answer (query : Query) (table : SymbolTable) : Run Unit := do
  let cls ← Run.attempt .ofLookupError (table.lookupClass query.className)
  match query.field? with
  | some name =>
    let group ← Run.attempt .ofLookupError (cls.lookupField name)
    Run.printLine (fieldText group name)
  | none =>
    match query.method? with
    | none => Run.printLine (classText cls)
    | some name =>
      let method ← Run.attempt .ofLookupError (cls.lookupMethod name)
      match query.var? with
      | some name =>
        let v ← Run.attempt .ofLookupError (method.lookupVariable name)
        Run.printLine (variableText v)
      | none => Run.printLine (methodText method)

/-- Looks something up in a program. -/
def lookup (path : String) (query : Query) (contents : Except ReadError ByteArray) : Run Unit := do
  let table ← examine path contents
  query.answer table

/-- Runs a command on the contents of its file. -/
def Command.run (command : Command) (contents : Except ReadError ByteArray) : Run Unit :=
  match command with
  | check path => Console.check path contents
  | symbols path => Console.symbols path contents
  | lookup path query => Console.lookup path query contents

/-- The records among notices. -/
def recordsOf (notices : List Notice) : List LogRecord :=
  notices.filterMap fun
    | .logged record => some record
    | .reported _ => none

/-- What notices leave in a stream at a verbosity. -/
def writtenOf (verbosity : Verbosity) (notices : List Notice) : String :=
  String.join (notices.map (Notice.written verbosity))

/-! ## §E Processes -/

/-- The name of the program and its version. -/
def versionText : String := "opal 0.1.0"

/-- What a process leaves behind: its exit code, what it prints, what it writes about its work before its
final report, and that report with whether it is coloured. -/
structure Trace where
  exitCode : Nat
  printed : String
  written : String
  report? : Option Report
  coloured : Bool

/-- A process that is run with arguments in an environment, with no terminal and with files to read. -/
def process (args : List String) (environment : Environment)
    (files : String → Except ReadError ByteArray) : Trace :=
  match Command.ofArguments args with
  | .error stop =>
    ⟨stop.exitCode, if stop = .version then versionText ++ "\n" else "", "", none, false⟩
  | .ok command =>
    let settings := Settings.ofEnvironment environment
    let run := command.run (files command.path)
    ⟨run.exitCode, run.printed, writtenOf settings.verbosity run.notices,
      run.report?, run.report?.isSome && settings.color.coloursAnywhere⟩

end ScopeTable.Console
