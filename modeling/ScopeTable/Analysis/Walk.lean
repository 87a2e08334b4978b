/-
# ScopeTable.Analysis.Walk -- one pass over the declarations of a program

The classes are visited in order, and in each class the names of its fields and then its methods, and in
each method its parameters and then its locals. The first declaration of a name is kept. A class that is
declared again is left out with all its members, a method likewise, and of a variable only the name. A
field that is declared again is left out in silence.

Everything that happens on the way is an event. The conflicts, the diagnostics and the log of an analysis
are views of its events, so they cannot disagree.
-/
import ScopeTable.Analysis.Conflict
import ScopeTable.Analysis.Table

namespace ScopeTable

/-! ## §A Events -/

/-- What happens during a walk. -/
inductive Event where
  | started (program : Ident)
  | classRegistered (name : Ident)
  | fieldDeclared (field : FieldName)
  | fieldRepeated (field : FieldName)
  | methodRegistered (name : Ident)
  | variableDeclared (v : Variable)
  | conflict (found : Conflict)

/-- The conflict that an event is. -/
def Event.conflict? : Event → Option Conflict
  | conflict c => some c
  | _ => none

/-! ## §B The walk, from the inside out -/

/-- The scope of a method: its own name, then its parameters and locals. -/
def FunctionDecl.walk (decl : FunctionDecl) : MethodTable × List Event :=
  let scope := (NameMap.empty : NameMap Variable).insert decl.name.spelling decl.result
  let walked := scope.register (fun v : Variable => v.name.spelling)
    (fun v => (v, [Event.variableDeclared v]))
    (fun first v => [.conflict (.ofRejected .ofVariable v.name.spelling first.line v.name)])
    decl.declared
  (⟨decl, walked.1⟩, .methodRegistered decl.name :: walked.2)

/-- The fields of a class. -/
def ClassDecl.walkFields (decl : ClassDecl) : NameMap VarDecl × List Event :=
  (NameMap.empty : NameMap VarDecl).register (fun f : FieldName => f.name.spelling)
    (fun f => (f.group, [Event.fieldDeclared f]))
    (fun _ f => [.fieldRepeated f])
    decl.fieldNames

/-- The methods of a class. -/
def ClassDecl.walkMethods (decl : ClassDecl) : NameMap MethodTable × List Event :=
  (NameMap.empty : NameMap MethodTable).register (fun m : FunctionDecl => m.name.spelling)
    FunctionDecl.walk
    (fun first m => [.conflict (.ofRejected .ofMethod m.name.spelling first.name.line m.name)])
    decl.block.methods

/-- The members of a class. -/
def ClassDecl.walk (decl : ClassDecl) : ClassTable × List Event :=
  let fields := decl.walkFields
  let methods := decl.walkMethods
  (⟨decl, fields.1, methods.1⟩, .classRegistered decl.name :: fields.2 ++ methods.2)

/-- The classes of a program. A conflict names the class that is kept. -/
def walkClasses (classes : List ClassDecl) : NameMap ClassTable × List Event :=
  (NameMap.empty : NameMap ClassTable).register (fun c : ClassDecl => c.name.spelling)
    ClassDecl.walk
    (fun first c =>
      [.conflict (.ofRejected .ofClass first.name.spelling first.name.line c.name)])
    classes

/-! ## §C The outcome -/

/-- What a walk over a program finds. -/
structure Analysis where
  table : SymbolTable
  events : List Event

/-- The table cannot be used: all conflicts, in the order in which they were found. -/
structure BuildFailure where
  conflicts : List Conflict

/-- Walks over a program. -/
def Program.analyse (program : Program) : Analysis :=
  let walked := walkClasses program.classes
  ⟨⟨walked.1⟩, .started program.name :: walked.2⟩

namespace Analysis

/-- The conflicts of an analysis, in the order in which they were found. -/
def conflicts (analysis : Analysis) : List Conflict := analysis.events.filterMap Event.conflict?

/-- The table, unless a conflict makes it useless. -/
def outcome (analysis : Analysis) : Except BuildFailure SymbolTable :=
  if analysis.conflicts.any Conflict.fails then .error ⟨analysis.conflicts⟩ else .ok analysis.table

end Analysis

/-- Builds the symbol table of a program. -/
def Program.build (program : Program) : Except BuildFailure SymbolTable := program.analyse.outcome

namespace BuildFailure

/-- The code of a failed build. -/
def code : String := "D-000"

/-- The text of a failed build. -/
def message (failure : BuildFailure) : String :=
  "Declaration analysis failed with " ++ Decimal.integerText failure.conflicts.length ++ " error(s)"

/-- The advice that goes with a failed build. -/
def help : String :=
  "Every method must be declared once per class, and every parameter and local once per method."

end BuildFailure

end ScopeTable
