/-
# ScopeTable.Proofs.Analysis.Visited -- the walk over a program as visits to its declarations

Every scope of a program is filled by the same registration, so the walk is described here once for each of
its levels: which list of declarations the map of a scope lists, and which events its visits are. Nothing
about maps is left in these statements; what is proved about conflicts, tables and logs starts from them.
-/
import ScopeTable.Analysis.Walk
import ScopeTable.Proofs.Analysis.Scope

namespace ScopeTable

open NameMap

/-! ## §A Spellings -/

/-- The spelling of a variable. -/
def Variable.spelling (v : Variable) : String := v.name.spelling

/-- The spelling of the name of a field. -/
def FieldName.spelling (field : FieldName) : String := field.name.spelling

/-- The spelling of the name of a method. -/
def FunctionDecl.spelling (method : FunctionDecl) : String := method.name.spelling

/-- The spelling of the name of a class. -/
def ClassDecl.spelling (cls : ClassDecl) : String := cls.name.spelling

/-! ## §B Methods -/

namespace FunctionDecl

/-- The parameters and then the locals of a method: every name of every group, with the type of its group and the
line on which it stands. -/
def namedVariables (method : FunctionDecl) : List Variable :=
  (method.params.flatMap fun group => group.names.map fun name => ⟨.parameter, name, group.type, name.line⟩) ++
    method.block.locals.flatMap fun group => group.names.map fun name => ⟨.localVar, name, group.type, name.line⟩

/-- All names inside a method: its own, for its result, then its parameters and its locals. -/
def allVariables (method : FunctionDecl) : List Variable :=
  ⟨.result, method.name, method.returnType, method.name.line⟩ :: method.namedVariables

/-- What a walk offers to the scope of a method are its parameters and locals. -/
theorem declared_eq (method : FunctionDecl) : method.declared = method.namedVariables := rfl

/-- A variable is on the line of its own name. -/
theorem line_eq {method : FunctionDecl} {v : Variable} (h : v ∈ method.allVariables) : v.line = v.name.line := by
  have hgroups : ∀ (kind : VariableKind) (groups : List VarDecl),
      v ∈ groups.flatMap (VarDecl.declares kind) → v.line = v.name.line := by
    intro kind groups hv
    obtain ⟨group, -, hv⟩ := List.mem_flatMap.mp hv
    obtain ⟨name, -, rfl⟩ := List.mem_map.mp hv
    rfl
  rcases List.mem_cons.mp h with rfl | h
  · rfl
  · rcases List.mem_append.mp h with h | h
    · exact hgroups .parameter _ h
    · exact hgroups .localVar _ h

/-- What the visit of a variable amounts to. -/
def variableEvents : Option Variable × Variable → List Event :=
  visitEvents (fun v => (v, [.variableDeclared v])) fun first v =>
    [.conflict (.ofRejected .ofVariable v.name.spelling first.line v.name)]

theorem result_lists (method : FunctionDecl) :
    ((empty : NameMap Variable).insert method.name.spelling method.result).Lists Variable.spelling
      (fun v => v) [method.result] :=
  (lists_empty ).insert rfl

/-- **walk_scope_lists**: the scope of a method lists all names inside it. -/
theorem walk_scope_lists (method : FunctionDecl) :
    method.walk.1.scope.Lists Variable.spelling (fun v => v) method.allVariables :=
  register_lists (fun v : Variable => (v, [Event.variableDeclared v])) _ method.result_lists

theorem walk_events (method : FunctionDecl) :
    method.walk.2 =
      .methodRegistered method.name ::
        (visits Variable.spelling [method.result] method.declared).flatMap variableEvents :=
  congrArg _ (register_events (fun v : Variable => (v, [Event.variableDeclared v])) _ method.result_lists)

end FunctionDecl

/-! ## §C Classes -/

namespace ClassDecl

/-- What the visit of a field amounts to. -/
def fieldEvents : Option FieldName × FieldName → List Event :=
  visitEvents (fun f => (f.group, [.fieldDeclared f])) fun _ f => [.fieldRepeated f]

/-- What the visit of a method amounts to. -/
def methodEvents : Option FunctionDecl × FunctionDecl → List Event :=
  visitEvents FunctionDecl.walk fun first m =>
    [.conflict (.ofRejected .ofMethod m.name.spelling first.name.line m.name)]

/-- **walk_fields_lists**: the fields of a class list the names in its groups. -/
theorem walk_fields_lists (cls : ClassDecl) :
    cls.walk.1.fields.Lists FieldName.spelling FieldName.group cls.fieldNames :=
  register_lists (fun f : FieldName => (f.group, [Event.fieldDeclared f])) _ lists_empty

/-- **walk_methods_lists**: the methods of a class list its method declarations. -/
theorem walk_methods_lists (cls : ClassDecl) :
    cls.walk.1.methods.Lists FunctionDecl.spelling (fun m => m.walk.1) cls.block.methods :=
  register_lists FunctionDecl.walk _ lists_empty

theorem walk_events (cls : ClassDecl) :
    cls.walk.2 =
      .classRegistered cls.name ::
        ((visits FieldName.spelling [] cls.fieldNames).flatMap fieldEvents ++
          (visits FunctionDecl.spelling [] cls.block.methods).flatMap methodEvents) := by
  have hfields : cls.walkFields.2 = (visits FieldName.spelling [] cls.fieldNames).flatMap fieldEvents :=
    register_events (fun f : FieldName => (f.group, [Event.fieldDeclared f])) _ lists_empty
  have hmethods :
      cls.walkMethods.2 = (visits FunctionDecl.spelling [] cls.block.methods).flatMap methodEvents :=
    register_events FunctionDecl.walk _ lists_empty
  rw [← hfields, ← hmethods]
  rfl

end ClassDecl

/-! ## §D Programs -/

/-- What the visit of a class amounts to. -/
def classEvents : Option ClassDecl × ClassDecl → List Event :=
  visitEvents ClassDecl.walk fun first c =>
    [.conflict (.ofRejected .ofClass first.name.spelling first.name.line c.name)]

/-- **walkClasses_lists**: the classes of a table list the class declarations of the program. -/
theorem walkClasses_lists (classes : List ClassDecl) :
    (walkClasses classes).1.Lists ClassDecl.spelling (fun c => c.walk.1) classes :=
  register_lists ClassDecl.walk _ lists_empty

theorem walkClasses_events (classes : List ClassDecl) :
    (walkClasses classes).2 = (visits ClassDecl.spelling [] classes).flatMap classEvents :=
  register_events ClassDecl.walk _ lists_empty

end ScopeTable
