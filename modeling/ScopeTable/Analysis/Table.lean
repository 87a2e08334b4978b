/-
# ScopeTable.Analysis.Table -- the symbol table of a program

A table has an entry for every class; a class has one namespace for fields and one for methods; a method
has one namespace for its own name, which stands for its result, its parameters and its locals. The
entries hold the declarations they stem from.
-/
import ScopeTable.Analysis.NameMap
import ScopeTable.Language.Declaration

namespace ScopeTable

/-! ## §A Names and what declares them -/

/-- What a name inside a method stands for. -/
inductive VariableKind where
  /-- The name of the method itself, for the value it returns. -/
  | result
  | parameter
  | localVar
  deriving DecidableEq, Repr

/-- The word for a kind of variable. -/
def VariableKind.word : VariableKind → String
  | result => "result"
  | parameter => "parameter"
  | localVar => "local"

/-- A name inside a method, with its type and the line on which it is declared. -/
structure Variable where
  kind : VariableKind
  name : Ident
  type : TypeDenoter
  line : UInt64

/-- A name of a field, with the group that declares it. -/
structure FieldName where
  name : Ident
  group : VarDecl

/-- What a group declares, as variables of the given kind. -/
def VarDecl.declares (kind : VariableKind) (group : VarDecl) : List Variable :=
  group.names.map fun name => ⟨kind, name, group.type, name.line⟩

/-- The names of the fields of a class, in the order of the text. -/
def ClassDecl.fieldNames (decl : ClassDecl) : List FieldName :=
  decl.block.fields.flatMap fun group => group.names.map fun name => ⟨name, group⟩

/-- The variable that stands for the result of a method. -/
def FunctionDecl.result (decl : FunctionDecl) : Variable :=
  ⟨.result, decl.name, decl.returnType, decl.name.line⟩

/-- The parameters and then the locals of a method, in the order of the text. -/
def FunctionDecl.declared (decl : FunctionDecl) : List Variable :=
  decl.params.flatMap (VarDecl.declares .parameter) ++
    decl.block.locals.flatMap (VarDecl.declares .localVar)

/-! ## §B Tables -/

/-- The names inside a method. -/
structure MethodTable where
  decl : FunctionDecl
  scope : NameMap Variable

/-- The members of a class. A name of a field stands for the group that declares it. -/
structure ClassTable where
  decl : ClassDecl
  fields : NameMap VarDecl
  methods : NameMap MethodTable

/-- The classes of a program. -/
structure SymbolTable where
  classes : NameMap ClassTable

/-- The name of a method. -/
def MethodTable.name (method : MethodTable) : Ident := method.decl.name

/-- The name of a class. -/
def ClassTable.name (cls : ClassTable) : Ident := cls.decl.name

/-- The parent that a class names. Nothing is known about it. -/
def ClassTable.parent (cls : ClassTable) : Option Ident := cls.decl.parent

end ScopeTable
