/-
# ScopeTable.Console.Arguments -- the arguments of a run

The first argument names a command; what follows belongs to it. A command takes one path and, if it is a
look-up, options with one value each. An argument is judged when it is met, but the value of an option or
path is only taken in when the next one begins or the arguments end; so of two mistakes the one that is
met first counts, and a value that is missing is noticed late.
-/

namespace ScopeTable.Console

/-! ## §A What the arguments ask for -/

/-- What a look-up asks for. -/
structure Query where
  className : String
  field? : Option String
  method? : Option String
  var? : Option String
  deriving DecidableEq, Repr

/-- A command with its arguments. -/
inductive Command where
  | check (path : String)
  | symbols (path : String)
  | lookup (path : String) (query : Query)
  deriving DecidableEq, Repr

/-- The path that a command reads. -/
def Command.path : Command → String
  | check path => path
  | symbols path => path
  | lookup path _ => path

/-- Why there is no command to run: help or the version is asked for, or the arguments are not understood. -/
inductive Stop where
  | help
  | version
  | noArguments
  | unknownCommand
  | unknownArgument
  | unexpectedValue
  | invalidValue
  | conflictingArguments
  | missingArgument
  deriving DecidableEq, Repr

/-- The exit code of a run that stops at its arguments. -/
def Stop.exitCode : Stop → Nat
  | help => 0
  | version => 0
  | _ => 2

/-! ## §B Single arguments -/

/-- The form of an argument. -/
inductive Word where
  /-- Two dashes alone: only values follow. -/
  | separator
  /-- Two dashes and a name, with the value behind an equals sign if there is one. -/
  | long (name : String) (value : Option String)
  /-- One dash and letters, of which the first counts. -/
  | short (letter : Char)
  /-- Everything else, a dash alone included. -/
  | plain
  deriving DecidableEq, Repr

/-- The name and the value of a long argument without its dashes. -/
def splitLong (cs : List Char) : Word :=
  .long (String.ofList (cs.takeWhile (· ≠ '=')))
    (match cs.dropWhile (· ≠ '=') with
    | [] => none
    | _ :: value => some (String.ofList value))

/-- The form of an argument. -/
def Word.of (arg : String) : Word :=
  match arg.toList with
  | ['-', '-'] => separator
  | '-' :: '-' :: cs => splitLong cs
  | '-' :: c :: _ => short c
  | _ => plain

/-! ## §C The arguments of a command -/

/-- The options of a look-up. -/
inductive OptionName where
  | ofClass
  | field
  | method
  | var
  deriving DecidableEq, Repr

namespace OptionName

/-- All options. -/
def all : List OptionName := [ofClass, field, method, var]

/-- The name of an option behind its dashes. -/
def word : OptionName → String
  | ofClass => "class"
  | field => "field"
  | method => "method"
  | var => "var"

end OptionName

/-- What takes a value: the path or an option. -/
inductive Target where
  | path
  | option (name : OptionName)
  deriving DecidableEq, Repr

/-- The arguments read so far: the values taken in, and the target that was met last with its value, if that
has come. -/
structure Draft where
  values : List (Target × String)
  pending : Option (Target × Option String)
  deriving DecidableEq, Repr

namespace Draft

/-- Nothing read yet. -/
def empty : Draft := ⟨[], none⟩

/-- The value of a target. -/
def value? (draft : Draft) (target : Target) : Option String := draft.values.lookup target

/-- Takes in the value of the target met last. An option needs a value and takes one only; a path is never
empty. -/
def settle (draft : Draft) : Except Stop Draft :=
  match draft.pending with
  | none => .ok draft
  | some (_, none) => .error .invalidValue
  | some (target, some value) =>
    if (draft.value? target).isSome then .error .conflictingArguments
    else if target = .path ∧ value = "" then .error .invalidValue
    else .ok ⟨draft.values ++ [(target, value)], none⟩

/-- Whether the path has been met. -/
def hasPath (draft : Draft) : Bool :=
  (draft.value? .path).isSome || (draft.pending.map Prod.fst) == some .path

/-- Meets a target, with its value if that is at hand. -/
def meet (draft : Draft) (target : Target) (value : Option String) : Except Stop Draft := do
  let draft ← draft.settle
  .ok { draft with pending := some (target, value) }

/-- Meets an argument that can only be the path. -/
def meetPath (draft : Draft) (arg : String) : Except Stop Draft :=
  if draft.hasPath then .error .unknownArgument else draft.meet .path (some arg)

/-- Stops for help, unless the value taken in before that is wrong. -/
def stopForHelp (draft : Draft) : Except Stop Draft := do
  let _ ← draft.settle
  .error .help

/-- Meets an argument in front of a separator. -/
def take (options : List OptionName) (draft : Draft) (arg : String) : Except Stop Draft :=
  match Word.of arg with
  | .long name value =>
    if name = "help" then
      if value.isSome then .error .unexpectedValue else draft.stopForHelp
    else
      match options.find? (fun option => option.word == name) with
      | none => .error .unknownArgument
      | some option =>
        match value with
        | none => draft.meet (.option option) none
        | some value => do
          let draft ← draft.meet (.option option) (some value)
          draft.settle
  | .short letter => if letter = 'h' then draft.stopForHelp else .error .unknownArgument
  | _ =>
    match draft.pending with
    | some (.option option, none) => .ok { draft with pending := some (.option option, some arg) }
    | _ => draft.meetPath arg

/-- Reads arguments; behind a separator all of them are values. -/
def read (options : List OptionName) (separated : Bool) : Draft → List String → Except Stop Draft
  | draft, [] => draft.settle
  | draft, arg :: args =>
    if separated then do
      let draft ← draft.meetPath arg
      read options true draft args
    else if Word.of arg = .separator then read options true draft args
    else do
      let draft ← draft.take options arg
      read options false draft args

end Draft

/-- Reads the path of a command without options. -/
def readPath (args : List String) : Except Stop String := do
  let draft ← Draft.empty.read [] false args
  match draft.value? .path with
  | some path => .ok path
  | none => .error .missingArgument

/-- Reads the arguments of a look-up. A field and a method exclude each other; a variable needs a method,
but a field takes that need away. -/
def readLookup (args : List String) : Except Stop Command := do
  let draft ← Draft.empty.read OptionName.all false args
  let field? := draft.value? (.option .field)
  let method? := draft.value? (.option .method)
  let var? := draft.value? (.option .var)
  if field?.isSome ∧ method?.isSome then .error .conflictingArguments
  else
    match draft.value? .path, draft.value? (.option .ofClass) with
    | some path, some className =>
      if var?.isSome ∧ method? = none ∧ field? = none then .error .missingArgument
      else .ok (.lookup path ⟨className, field?, method?, var?⟩)
    | _, _ => .error .missingArgument

/-! ## §D The arguments of a run -/

/-- The names of the commands. -/
def commandNames : List String := ["check", "symbols", "lookup", "help"]

/-- Help on a command: only commands that exist have help, and none has commands of its own. -/
def readHelp : List String → Stop
  | [] => .help
  | [name] => if commandNames.contains name then .help else .unknownCommand
  | _ :: _ :: _ => .unknownCommand

/-- Reads the arguments of a run. -/
def Command.ofArguments : List String → Except Stop Command
  | [] => .error .noArguments
  | arg :: args =>
    match Word.of arg with
    | .separator =>
      match args with
      | [] => .error .noArguments
      | name :: _ =>
        .error (if commandNames.contains name then .unknownArgument else .unknownCommand)
    | .long name value =>
      if name = "help" then .error (if value.isSome then .unexpectedValue else .help)
      else if name = "version" then .error (if value.isSome then .unexpectedValue else .version)
      else .error .unknownArgument
    | .short letter =>
      .error (if letter = 'h' then .help else if letter = 'V' then .version else .unknownArgument)
    | .plain =>
      match arg with
      | "check" => .check <$> readPath args
      | "symbols" => .symbols <$> readPath args
      | "lookup" => readLookup args
      | "help" => .error (readHelp args)
      | _ => .error .unknownCommand

end ScopeTable.Console
