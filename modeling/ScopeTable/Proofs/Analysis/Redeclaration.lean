/-
# ScopeTable.Proofs.Analysis.Redeclaration -- which declarations are rejected, and when that is fatal

A declaration is rejected when a declaration before it, in the same scope, has its name. `redeclarations`
says this about the lists of declarations alone: a class, method or variable is compared with the first
declaration of its name before it, and what is declared inside a rejected class or method is not looked at.
The conflicts found by a walk are exactly these, in this order (`rejected_exactly`), so a program is built
exactly when no method and no variable of a class that is kept is declared again (`built_iff`).
-/
import ScopeTable.Proofs.Analysis.Visited

namespace ScopeTable

open Text

/-! ## §A The redeclarations of a program -/

/-- The names of the parameters of a method and then those of its locals. -/
def FunctionDecl.declaredNames (method : FunctionDecl) : List Ident :=
  method.params.flatMap VarDecl.names ++ method.block.locals.flatMap VarDecl.names

/-- The names inside a method that are rejected, each against the first holder of the name: the method
itself, or an earlier parameter or local. -/
def FunctionDecl.redeclarations (method : FunctionDecl) : List Conflict :=
  (visits Ident.spelling [method.name] method.declaredNames).flatMap fun
    | (some first, name) =>
      [⟨.ofVariable, name.spelling, first.line, name.line, name.span.map Span.label⟩]
    | (none, _) => []

/-- The methods of a class that are rejected, each against the first method of its name, and the names that
are rejected inside the others. -/
def ClassDecl.redeclarations (cls : ClassDecl) : List Conflict :=
  (visits FunctionDecl.spelling [] cls.block.methods).flatMap fun
    | (some first, method) =>
      [⟨.ofMethod, method.name.spelling, first.name.line, method.name.line,
        method.name.span.map Span.label⟩]
    | (none, method) => method.redeclarations

/-- The classes of a program that are rejected, each under the name of the first class of its name, and
what is rejected inside the others. -/
def Program.redeclarations (program : Program) : List Conflict :=
  (visits ClassDecl.spelling [] program.classes).flatMap fun
    | (some first, cls) =>
      [⟨.ofClass, first.name.spelling, first.name.line, cls.name.line, cls.name.span.map Span.label⟩]
    | (none, cls) => cls.redeclarations

/-! ## §B The conflicts of a walk -/

theorem FunctionDecl.declared_map_name (method : FunctionDecl) :
    method.declared.map Variable.name = method.declaredNames := by
  have hgroup : ∀ (kind : VariableKind) (group : VarDecl),
      (group.declares kind).map Variable.name = group.names := by
    intro kind group
    rw [VarDecl.declares, List.map_map]
    exact List.map_id _
  rw [FunctionDecl.declared, FunctionDecl.declaredNames, List.map_append, List.map_flatMap,
    List.map_flatMap]
  simp only [hgroup]

/-- **walk_conflicts**: the conflicts inside a method. -/
theorem FunctionDecl.walk_conflicts (method : FunctionDecl) :
    method.walk.2.filterMap Event.conflict? = method.redeclarations := by
  rw [FunctionDecl.walk_events, FunctionDecl.redeclarations, ← FunctionDecl.declared_map_name]
  show List.filterMap _ _ = (visits Ident.spelling ([method.result].map Variable.name) _).flatMap _
  rw [visits_map, List.flatMap_map]
  show List.filterMap _ (List.flatMap _ _) = _
  rw [List.filterMap_flatMap]
  refine List.flatMap_congr ?_
  rintro ⟨first | first, v⟩ hvisit
  · rfl
  · -- The line that is told is that of the variable, and this is the line of its name.
    have hline : first.line = first.name.line := line_eq (first_mem_of_mem_visits hvisit)
    show [(⟨.ofVariable, v.name.spelling, first.line, v.name.line, v.name.span.map Span.label⟩ : Conflict)] = _
    rw [hline]
    rfl

theorem ClassDecl.fieldEvents_conflicts (visit : Option FieldName × FieldName) :
    (fieldEvents visit).filterMap Event.conflict? = [] := by
  rcases visit with ⟨first | first, field⟩ <;> rfl

/-- **ClassDecl.walk_conflicts**: the conflicts inside a class. Its fields have none. -/
theorem ClassDecl.walk_conflicts (cls : ClassDecl) :
    cls.walk.2.filterMap Event.conflict? = cls.redeclarations := by
  rw [ClassDecl.walk_events, ClassDecl.redeclarations]
  show List.filterMap _ (_ ++ _) = _
  rw [List.filterMap_append, List.filterMap_flatMap, List.filterMap_flatMap,
    List.flatMap_eq_nil_iff.mpr fun visit _ => fieldEvents_conflicts visit, List.nil_append]
  congr 1
  funext visit
  rcases visit with ⟨first | first, method⟩
  · exact method.walk_conflicts
  · rfl

/-- **conflicts_eq**: a walk finds the redeclarations of the program, in their order. -/
theorem Program.conflicts_eq (program : Program) :
    program.analyse.conflicts = program.redeclarations := by
  show List.filterMap _ (walkClasses program.classes).2 = _
  rw [walkClasses_events, List.filterMap_flatMap, Program.redeclarations]
  congr 1
  funext visit
  rcases visit with ⟨first | first, cls⟩
  · exact cls.walk_conflicts
  · rfl

/-! ## §C Declarations without repetition -/

/-- No name inside the method is declared again. -/
def FunctionDecl.Consistent (method : FunctionDecl) : Prop :=
  Distinct Ident.spelling ([method.name] ++ method.declaredNames)

/-- No method of the class is declared again, and no name inside one of them. -/
def ClassDecl.Consistent (cls : ClassDecl) : Prop :=
  Distinct FunctionDecl.spelling cls.block.methods ∧ ∀ method ∈ cls.block.methods, method.Consistent

theorem FunctionDecl.redeclarations_eq_nil_iff (method : FunctionDecl) :
    method.redeclarations = [] ↔ method.Consistent := by
  have hnames : (∀ name ∈ method.declaredNames, True) := fun _ _ => trivial
  rw [FunctionDecl.redeclarations, visits_flatMap_eq_nil_iff (P := fun _ => True)
    (distinct_singleton method.name) (fun _ _ => List.cons_ne_nil _ _)
    (fun _ => iff_of_true rfl trivial)]
  exact and_iff_left hnames

/-- **ClassDecl.redeclarations_eq_nil_iff**: nothing is rejected inside a class exactly when neither its
methods nor the names inside them are repeated. -/
theorem ClassDecl.redeclarations_eq_nil_iff (cls : ClassDecl) :
    cls.redeclarations = [] ↔ cls.Consistent :=
  visits_flatMap_eq_nil_iff distinct_nil (fun _ _ => List.cons_ne_nil _ _)
    FunctionDecl.redeclarations_eq_nil_iff

/-- **Program.redeclarations_eq_nil_iff**: nothing at all is rejected exactly when no class is repeated and
nothing inside one. -/
theorem Program.redeclarations_eq_nil_iff (program : Program) :
    program.redeclarations = [] ↔
      Distinct ClassDecl.spelling program.classes ∧ ∀ cls ∈ program.classes, cls.Consistent :=
  visits_flatMap_eq_nil_iff distinct_nil (fun _ _ => List.cons_ne_nil _ _)
    ClassDecl.redeclarations_eq_nil_iff

/-! ## §D Fatal conflicts -/

theorem FunctionDecl.redeclarations_fail {method : FunctionDecl} {conflict : Conflict}
    (h : conflict ∈ method.redeclarations) : conflict.fails = true := by
  obtain ⟨⟨first | first, name⟩, _, hconflict⟩ := List.mem_flatMap.mp h
  · cases hconflict
  · rw [List.mem_singleton.mp hconflict]
    rfl

/-- Whatever is rejected inside a class is fatal. -/
theorem ClassDecl.redeclarations_fail {cls : ClassDecl} {conflict : Conflict}
    (h : conflict ∈ cls.redeclarations) : conflict.fails = true := by
  obtain ⟨⟨first | first, method⟩, _, hconflict⟩ := List.mem_flatMap.mp h
  · exact FunctionDecl.redeclarations_fail hconflict
  · rw [List.mem_singleton.mp hconflict]
    rfl

/-- **any_fails_eq_false_iff**: no conflict is fatal exactly when nothing is rejected inside the classes that are
kept. A class that is rejected counts for nothing. -/
theorem Program.any_fails_eq_false_iff (program : Program) :
    program.redeclarations.any Conflict.fails = false ↔
      ∀ cls ∈ firsts ClassDecl.spelling program.classes, cls.Consistent := by
  rw [List.any_eq_false, Program.redeclarations]
  constructor
  · intro hall cls hcls
    have hvisit : (none, cls) ∈ visits ClassDecl.spelling [] program.classes := by
      rw [mem_visits_none_iff]
      exact mem_firsts_iff.mp hcls
    rw [← ClassDecl.redeclarations_eq_nil_iff, List.eq_nil_iff_forall_not_mem]
    intro conflict hconflict
    exact hall conflict (List.mem_flatMap.mpr ⟨_, hvisit, hconflict⟩)
      (ClassDecl.redeclarations_fail hconflict)
  · intro hall conflict hconflict
    obtain ⟨⟨first | first, cls⟩, hvisit, hmem⟩ := List.mem_flatMap.mp hconflict
    · have hcls : cls ∈ firsts ClassDecl.spelling program.classes :=
        mem_firsts_iff.mpr (mem_visits_none_iff.mp hvisit)
      change conflict ∈ cls.redeclarations at hmem
      rw [cls.redeclarations_eq_nil_iff.mpr (hall cls hcls)] at hmem
      cases hmem
    · rw [List.mem_singleton.mp hmem]
      exact Bool.false_ne_true

/-- A program is built, or all that is rejected is listed. -/
theorem Program.build_eq (program : Program) :
    program.build =
      if program.redeclarations.any Conflict.fails then .error ⟨program.redeclarations⟩
      else .ok program.analyse.table := by
  rw [← Program.conflicts_eq]
  rfl

/-- **build_eq_ok_iff**: what is built is the table of the walk, and no class in it repeats a name. -/
theorem Program.build_eq_ok_iff {program : Program} {table : SymbolTable} :
    program.build = .ok table ↔
      table = program.analyse.table ∧
        ∀ cls ∈ firsts ClassDecl.spelling program.classes, cls.Consistent := by
  rw [Program.build_eq, ← Program.any_fails_eq_false_iff]
  cases program.redeclarations.any Conflict.fails with
  | true => simp
  | false => simp [eq_comm]

/-! ## §E What is rejected, and when a program is built -/

/-- **rejected_exactly**: the conflicts that are collected are the redeclarations of the program, no more and
no fewer and in this order, and it is they that a failed build lists. -/
theorem Program.rejected_exactly (program : Program) :
    program.analyse.conflicts = program.redeclarations ∧
      program.build =
        if program.redeclarations.any Conflict.fails then .error ⟨program.redeclarations⟩
        else .ok program.analyse.table :=
  ⟨program.conflicts_eq, program.build_eq⟩

/-- The class is kept: no class before it has its name. -/
def Program.Keeps (program : Program) (cls : ClassDecl) : Prop :=
  ∃ before after, program.classes = before ++ cls :: after ∧
    ∀ other ∈ before, fold other.name.spelling ≠ fold cls.name.spelling

/-- **built_iff**: a program is built exactly when, in every class that is kept, the methods have different
names, and in every method its own name and those of its parameters and locals are different. Nothing that
is declared inside a rejected class counts, nor does any field. -/
theorem Program.built_iff (program : Program) :
    (∃ table, program.build = .ok table) ↔
      ∀ cls, program.Keeps cls →
        (cls.block.methods.map fun method => fold method.name.spelling).Nodup ∧
          ∀ method ∈ cls.block.methods,
            (([method.name] ++ method.params.flatMap VarDecl.names ++
              method.block.locals.flatMap VarDecl.names).map fun name => fold name.spelling).Nodup := by
  have hclass : ∀ cls : ClassDecl,
      cls ∈ firsts ClassDecl.spelling program.classes ↔ program.Keeps cls := fun _ => mem_firsts_iff
  have hmethod : ∀ method : FunctionDecl, method.Consistent ↔
      (([method.name] ++ method.params.flatMap VarDecl.names ++
        method.block.locals.flatMap VarDecl.names).map fun name => fold name.spelling).Nodup := by
    intro method
    rw [List.append_assoc]
    rfl
  constructor
  · rintro ⟨table, hbuild⟩ cls hkeeps
    obtain ⟨hmethods, hnames⟩ := (Program.build_eq_ok_iff.mp hbuild).2 cls ((hclass cls).mpr hkeeps)
    refine ⟨hmethods, ?_⟩
    intro method hmem
    exact (hmethod method).mp (hnames method hmem)
  · intro hall
    refine ⟨program.analyse.table, Program.build_eq_ok_iff.mpr ⟨rfl, ?_⟩⟩
    intro cls hcls
    obtain ⟨hmethods, hnames⟩ := hall cls ((hclass cls).mp hcls)
    refine ⟨hmethods, ?_⟩
    intro method hmem
    exact (hmethod method).mpr (hnames method hmem)

end ScopeTable
