/-
# ScopeTable.Analysis.Lookup -- asking a symbol table

A name is looked up in one scope at a time. A failed look-up names what was asked for as it was asked for,
and the class or method it was looked for in as it is declared. The enumerations list what a scope holds.
-/
import ScopeTable.Analysis.Table

namespace ScopeTable

/-- A name that has no entry in its scope. -/
inductive LookupError where
  | undefinedClass (name : String)
  | undefinedField (className name : String)
  | undefinedMethod (className name : String)
  | undefinedVariable (method name : String)
  deriving DecidableEq, Repr

namespace LookupError

/-- The code of a failed look-up. -/
def code : LookupError → String
  | undefinedClass _ => "L-001"
  | undefinedField _ _ => "L-002"
  | undefinedMethod _ _ => "L-003"
  | undefinedVariable _ _ => "L-004"

/-- The text of a failed look-up. -/
def message : LookupError → String
  | undefinedClass name => "Undefined class " ++ name
  | undefinedField className name => "Class " ++ className ++ " has no field " ++ name
  | undefinedMethod className name => "Class " ++ className ++ " has no method " ++ name
  | undefinedVariable method name => "Method " ++ method ++ " has no variable " ++ name

end LookupError

namespace SymbolTable

/-- Whether there is a class of that name. -/
def containsClass (table : SymbolTable) (name : String) : Bool := table.classes.contains name

/-- The class of that name. -/
def lookupClass (table : SymbolTable) (name : String) : Except LookupError ClassTable :=
  (table.classes.get name).mapError fun failure => .undefinedClass failure.name

/-- All classes. -/
def classList (table : SymbolTable) : List ClassTable := table.classes.values

end SymbolTable

namespace ClassTable

/-- The group that declares the field of that name. -/
def lookupField (cls : ClassTable) (name : String) : Except LookupError VarDecl :=
  (cls.fields.get name).mapError fun failure => .undefinedField cls.name.spelling failure.name

/-- The method of that name. -/
def lookupMethod (cls : ClassTable) (name : String) : Except LookupError MethodTable :=
  (cls.methods.get name).mapError fun failure => .undefinedMethod cls.name.spelling failure.name

/-- All fields, with the spelling of their declaration. -/
def fieldList (cls : ClassTable) : List (String × VarDecl) := cls.fields.toList

/-- All methods. -/
def methodList (cls : ClassTable) : List MethodTable := cls.methods.values

end ClassTable

namespace MethodTable

/-- The variable of that name. -/
def lookupVariable (method : MethodTable) (name : String) : Except LookupError Variable :=
  (method.scope.get name).mapError fun failure =>
    .undefinedVariable method.name.spelling failure.name

/-- All variables, with the spelling of their declaration. -/
def variableList (method : MethodTable) : List (String × Variable) := method.scope.toList

end MethodTable

end ScopeTable
