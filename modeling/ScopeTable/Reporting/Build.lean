/-
# ScopeTable.Reporting.Build -- a walk that is listened to

A program is built while someone listens: every step of the walk is logged, and a conflict is reported at the
moment when it is found, before the walk goes on. What the walk carries from one declaration to the next is
its `Progress`: the listener as the walk has left it, the conflicts so far, and whether one of them makes the
table useless.

A name is offered to the map of its scope. If it is new, its entry is made first and then filled in where it
stands; if it is taken, the map is left as it is. `NameMap.offerEach` is this loop, and the scopes of a program
differ only in what fills an entry and what is told about a name that is taken.
-/
import ScopeTable.Reporting.Journal

namespace ScopeTable

variable {σ : Type}

/-! ## §A Listeners -/

/-- Someone who is told about a walk: how it changes with a record of the log, and with a diagnostic. -/
structure Listener (σ : Type) where
  logged : σ → LogRecord → σ
  reported : σ → UInt64 → String → σ

/-- A reporter beside a log. What the reporter says about itself is logged as well. -/
def Reporter.listener (reporter : Reporter σ) : Listener (σ × List LogRecord) where
  logged := fun (state, log) record => (state, log ++ [record])
  reported := fun (state, log) line message =>
    let told := reporter.report state line message
    (told.1, log ++ told.2)

/-- Takes down all that is told, in its order. -/
def Listener.noticing : Listener (List Notice) where
  logged := fun notices record => notices ++ [.logged record]
  reported := fun notices line message => notices ++ [.reported (diagnosticText line message)]

/-! ## §B Progress -/

/-- What a walk carries besides its tables. -/
structure Progress (σ : Type) where
  state : σ
  conflicts : List Conflict
  failed : Bool

namespace Progress

/-- Where a walk begins. -/
def start (state : σ) : Progress σ := ⟨state, [], false⟩

/-- Logs a record. -/
def log (listener : Listener σ) (progress : Progress σ) (record : LogRecord) : Progress σ :=
  { progress with state := listener.logged progress.state record }

/-- Logs and reports a conflict, and adds it to those found so far. -/
def emit (listener : Listener σ) (progress : Progress σ) (found : Conflict) : Progress σ :=
  let logged := progress.log listener (Event.conflict found).record
  { state := listener.reported logged.state found.line found.message
    conflicts := logged.conflicts ++ [found]
    failed := logged.failed || found.fails }

/-- Takes note of an event. -/
def note (listener : Listener σ) (progress : Progress σ) (event : Event) : Progress σ :=
  match event with
  | .conflict found => progress.emit listener found
  | event => progress.log listener event.record

/-- The table, unless a conflict makes it useless. -/
def finish (progress : Progress σ) (table : SymbolTable) : Except BuildFailure SymbolTable :=
  if progress.failed then .error ⟨progress.conflicts⟩ else .ok table

end Progress

/-! ## §C The walk -/

/-- Offers the items of a list to a map, one after the other. The entry of a new item is made with a first
value and then filled in where it stands. -/
def NameMap.offerEach {α V κ : Type} (spelling : α → String) (first : α → V) (fill : α → V → κ → V × κ)
    (clash : V → α → κ → κ) : List α → NameMap V → κ → NameMap V × κ
  | [], map, progress => (map, progress)
  | item :: items, map, progress =>
    match map.insertIfNew (spelling item) (first item) with
    | .kept holder => offerEach spelling first fill clash items map (clash holder item progress)
    | .inserted map =>
      let filled := fill item (first item) progress
      offerEach spelling first fill clash items (map.modify (spelling item) fun _ => filled.1) filled.2

section Walk

variable (listener : Listener σ)

/-- Offers parameters or locals to the scope of their method. -/
def declareVariables : List Variable → NameMap Variable → Progress σ → NameMap Variable × Progress σ :=
  NameMap.offerEach (fun v => v.name.spelling) id
    (fun v value progress => (value, progress.note listener (.variableDeclared v)))
    fun holder v progress =>
      progress.note listener (.conflict (.ofRejected .ofVariable v.name.spelling holder.line v.name))

/-- Offers names of fields to their class. -/
def declareFields : List FieldName → NameMap VarDecl → Progress σ → NameMap VarDecl × Progress σ :=
  NameMap.offerEach (fun field => field.name.spelling) FieldName.group
    (fun field group progress => (group, progress.note listener (.fieldDeclared field)))
    fun _ field progress => progress.note listener (.fieldRepeated field)

/-- Fills the table of a method: its result is put in, whatever is there, and its parameters and locals are
offered. -/
def FunctionDecl.fill (method : FunctionDecl) (table : MethodTable) (progress : Progress σ) :
    MethodTable × Progress σ :=
  let registered := progress.note listener (.methodRegistered method.name)
  let scope := table.scope.insert method.name.spelling method.result
  let declared := declareVariables listener method.declared scope registered
  ({ table with scope := declared.1 }, declared.2)

/-- Offers methods to their class. -/
def declareMethods : List FunctionDecl → NameMap MethodTable → Progress σ → NameMap MethodTable × Progress σ :=
  NameMap.offerEach (fun method => method.name.spelling) (fun method => ⟨method, .empty⟩)
    (FunctionDecl.fill listener)
    fun holder method progress =>
      progress.note listener
        (.conflict (.ofRejected .ofMethod method.name.spelling holder.name.line method.name))

/-- Fills the table of a class: its fields are offered, and then its methods. -/
def ClassDecl.fill (cls : ClassDecl) (table : ClassTable) (progress : Progress σ) : ClassTable × Progress σ :=
  let registered := progress.note listener (.classRegistered cls.name)
  let fields := declareFields listener cls.fieldNames table.fields registered
  let methods := declareMethods listener cls.block.methods table.methods fields.2
  ({ table with fields := fields.1, methods := methods.1 }, methods.2)

/-- Offers classes to their program. A conflict names the class that is kept. -/
def declareClasses : List ClassDecl → NameMap ClassTable → Progress σ → NameMap ClassTable × Progress σ :=
  NameMap.offerEach (fun cls => cls.name.spelling) (fun cls => ⟨cls, .empty, .empty⟩) (ClassDecl.fill listener)
    fun holder cls progress =>
      progress.note listener
        (.conflict (.ofRejected .ofClass holder.name.spelling holder.name.line cls.name))

/-- Builds the symbol table of a program while a listener is told about it: the table or the failure, and what
has become of the listener. -/
def Program.buildTelling (state : σ) (program : Program) : Except BuildFailure SymbolTable × σ :=
  let started := (Progress.start state).note listener (.started program.name)
  let declared := declareClasses listener program.classes .empty started
  (declared.2.finish ⟨declared.1⟩, declared.2.state)

end Walk

/-- Builds the symbol table of a program and reports to the given reporter: the table or the failure, how the
reporter ends, and the log. -/
def Program.buildWith (reporter : Reporter σ) (state : σ) (program : Program) :
    Except BuildFailure SymbolTable × σ × List LogRecord :=
  program.buildTelling reporter.listener (state, [])

end ScopeTable
