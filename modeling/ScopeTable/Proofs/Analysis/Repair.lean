/-
# ScopeTable.Proofs.Analysis.Repair -- a program without its rejected declarations

`Program.repaired` takes out of a program just what a walk rejects: every class but the first of its name,
in the classes that are left every method but the first of its name, and in the methods that are left every
parameter or local whose name is taken before it. A group may be left without names; fields, types and
bodies stay.

A repaired program is without conflict, and the diagnostics of a program count what its repair takes out. So
repair changes nothing exactly where there is nothing to report, and it never changes the table of a program
that is built (`repair_law`).
-/
import Mathlib.Algebra.GroupWithZero.Nat
import ScopeTable.Proofs.Analysis.Contents
import ScopeTable.Reporting.Journal

namespace ScopeTable

variable {α : Type} {spelling : α → String} {earlier items : List α}

/-! ## §A Items whose name is not taken -/

/-- The items of a list whose name neither an item before them nor one of the `earlier` ones has. -/
def fresh (spelling : α → String) (earlier items : List α) : List α :=
  (visits spelling earlier items).filterMap fun visit => if visit.1.isNone then some visit.2 else none

theorem firsts_eq_fresh (items : List α) : firsts spelling items = fresh spelling [] items := rfl

/-- An item whose name is taken is not fresh. -/
theorem fresh_cons_taken {item first : α} (h : firstNamed spelling earlier (spelling item) = some first) :
    fresh spelling earlier (item :: items) = fresh spelling (earlier ++ [item]) items := by
  rw [fresh, visits, h]
  rfl

theorem fresh_cons_new {item : α} (h : firstNamed spelling earlier (spelling item) = none) :
    fresh spelling earlier (item :: items) = item :: fresh spelling (earlier ++ [item]) items := by
  rw [fresh, visits, h]
  rfl

theorem fresh_append (more : List α) :
    fresh spelling earlier (items ++ more) =
      fresh spelling earlier items ++ fresh spelling (earlier ++ items) more := by
  rw [fresh, visits_append, List.filterMap_append]
  rfl

theorem mem_of_mem_fresh {item : α} (h : item ∈ fresh spelling earlier items) : item ∈ items := by
  obtain ⟨⟨first, found⟩, hvisit, hkept⟩ := List.mem_filterMap.mp h
  obtain ⟨-, rfl⟩ : first.isNone = true ∧ found = item := by simpa using hkept
  exact mem_of_mem_visits hvisit

/-- **firsts_append**: a list without repetition stays whole in front of what is fresh behind it. -/
theorem firsts_append (h : Distinct spelling earlier) :
    firsts spelling (earlier ++ items) = earlier ++ fresh spelling earlier items := by
  rw [firsts_eq_fresh, fresh_append, ← firsts_eq_fresh, firsts_eq_self h, List.nil_append]

/-- **fresh_distinct**: what is fresh repeats no name, neither among itself nor of what stands before. -/
theorem fresh_distinct (h : Distinct spelling earlier) (items : List α) :
    Distinct spelling (earlier ++ fresh spelling earlier items) := by
  rw [← firsts_append h]
  exact firsts_distinct _

/-- Where no name is repeated, everything is fresh. -/
theorem fresh_eq_self (h : Distinct spelling (earlier ++ items)) :
    fresh spelling earlier items = items := by
  have hearlier : Distinct spelling earlier := by
    rw [Distinct, List.map_append] at h
    exact (List.nodup_append.mp h).1
  have hall : earlier ++ fresh spelling earlier items = earlier ++ items := by
    rw [← firsts_append hearlier, firsts_eq_self h]
  exact List.append_cancel_left hall

theorem fresh_length_le (earlier items : List α) :
    (fresh spelling earlier items).length ≤ items.length := by
  have hvisits : (visits spelling earlier items).length = items.length := by
    rw [← List.length_map Prod.snd, visits_map_snd]
  rw [← hvisits]
  exact List.length_filterMap_le _ _

/-- **visits_flatMap_length**: if a repeated item gives one result and a fresh one as many as `size` says, the
results of a walk are those of the fresh items and one for each item that is not fresh. -/
theorem visits_flatMap_length {E : Type} {results : Option α × α → List E} (size : α → Nat)
    (hrepeated : ∀ first item, (results (some first, item)).length = 1)
    (hfresh : ∀ item, (results (none, item)).length = size item) :
    ((visits spelling earlier items).flatMap results).length =
      (items.length - (fresh spelling earlier items).length) +
        ((fresh spelling earlier items).map size).sum := by
  have hsum : ((visits spelling earlier items).flatMap results).length +
      (fresh spelling earlier items).length =
        items.length + ((fresh spelling earlier items).map size).sum := by
    -- Both sides grow by one, or by one more than the size of the item.
    induction items generalizing earlier with
    | nil => rfl
    | cons item items ih =>
      have ih := @ih (earlier ++ [item])
      rw [visits, List.flatMap_cons, List.length_append, List.length_cons]
      cases hfirst : firstNamed spelling earlier (spelling item) with
      | some first =>
        rw [hrepeated, fresh_cons_taken hfirst]
        omega
      | none =>
        rw [hfresh, fresh_cons_new hfirst, List.length_cons, List.map_cons, List.sum_cons]
        omega
  have hle : (fresh spelling earlier items).length ≤ items.length := fresh_length_le earlier items
  omega

/-! ## §B Repair -/

/-- The groups with only the names left that are not taken, given the names that stand before them. -/
def VarDecl.repairedGroups (earlier : List Ident) : List VarDecl → List VarDecl
  | [] => []
  | group :: groups =>
    ⟨fresh Ident.spelling earlier group.names, group.type⟩ ::
      repairedGroups (earlier ++ group.names) groups

/-- The method with only those parameters and locals left whose names are not taken. -/
def FunctionDecl.repaired (method : FunctionDecl) : FunctionDecl :=
  { method with
    params := VarDecl.repairedGroups [method.name] method.params
    block :=
      { method.block with
        locals :=
          VarDecl.repairedGroups ([method.name] ++ method.params.flatMap VarDecl.names)
            method.block.locals } }

/-- The class with only the first method of every name left, and these repaired. -/
def ClassDecl.repaired (cls : ClassDecl) : ClassDecl :=
  { cls with
    block :=
      { cls.block with
        methods := (firsts FunctionDecl.spelling cls.block.methods).map FunctionDecl.repaired } }

/-- The program with only the first class of every name left, and these repaired. -/
def Program.repaired (program : Program) : Program :=
  { program with classes := (firsts ClassDecl.spelling program.classes).map ClassDecl.repaired }

/-- How many names repair takes out of a method. -/
def FunctionDecl.removedCount (method : FunctionDecl) : Nat :=
  method.declaredNames.length - method.repaired.declaredNames.length

/-- How many methods repair takes out of a class, and how many names out of the methods that are left. -/
def ClassDecl.removedCount (cls : ClassDecl) : Nat :=
  (cls.block.methods.length - cls.repaired.block.methods.length) +
    ((firsts FunctionDecl.spelling cls.block.methods).map FunctionDecl.removedCount).sum

/-- How many classes repair takes out of a program, and how many methods and names out of the classes that
are left. -/
def Program.removedCount (program : Program) : Nat :=
  (program.classes.length - program.repaired.classes.length) +
    ((firsts ClassDecl.spelling program.classes).map ClassDecl.removedCount).sum

/-! ## §C Methods -/

theorem VarDecl.repairedGroups_names (earlier : List Ident) (groups : List VarDecl) :
    (repairedGroups earlier groups).flatMap VarDecl.names =
      fresh Ident.spelling earlier (groups.flatMap VarDecl.names) := by
  induction groups generalizing earlier with
  | nil => rfl
  | cons group groups ih =>
    rw [repairedGroups, List.flatMap_cons, List.flatMap_cons, ih, fresh_append]

theorem VarDecl.repairedGroups_eq_self {earlier : List Ident} {groups : List VarDecl}
    (h : Distinct Ident.spelling (earlier ++ groups.flatMap VarDecl.names)) :
    repairedGroups earlier groups = groups := by
  induction groups generalizing earlier with
  | nil => rfl
  | cons group groups ih =>
    rw [List.flatMap_cons, ← List.append_assoc] at h
    have hgroup : Distinct Ident.spelling (earlier ++ group.names) := by
      rw [Distinct, List.map_append] at h
      exact (List.nodup_append.mp h).1
    rw [repairedGroups, fresh_eq_self hgroup, ih h]

namespace FunctionDecl

theorem repaired_declaredNames (method : FunctionDecl) :
    method.repaired.declaredNames =
      fresh Ident.spelling [method.name] method.declaredNames := by
  show (VarDecl.repairedGroups _ _).flatMap VarDecl.names ++
    (VarDecl.repairedGroups _ _).flatMap VarDecl.names = _
  rw [VarDecl.repairedGroups_names, VarDecl.repairedGroups_names, declaredNames, fresh_append]

/-- **repaired_consistent**: no name is repeated in a repaired method. -/
theorem repaired_consistent (method : FunctionDecl) : method.repaired.Consistent := by
  rw [Consistent, repaired_declaredNames]
  exact fresh_distinct (distinct_singleton method.name) _

theorem repaired_eq_self {method : FunctionDecl} (h : method.Consistent) : method.repaired = method := by
  rw [Consistent, declaredNames, ← List.append_assoc] at h
  have hparams : Distinct Ident.spelling ([method.name] ++ method.params.flatMap VarDecl.names) := by
    rw [Distinct, List.map_append] at h
    exact (List.nodup_append.mp h).1
  rw [repaired, VarDecl.repairedGroups_eq_self hparams, VarDecl.repairedGroups_eq_self h]

/-- **redeclarations_length**: what is rejected inside a method is what its repair takes out. -/
theorem redeclarations_length (method : FunctionDecl) :
    method.redeclarations.length = method.removedCount := by
  rw [redeclarations, visits_flatMap_length (fun _ => 0) (fun _ _ => rfl) (fun _ => rfl),
    removedCount, repaired_declaredNames]
  simp

end FunctionDecl

/-! ## §D Classes -/

/-- A map that keeps the names keeps a list without repetition. -/
theorem Distinct.map {f : α → α} (hf : ∀ item, spelling (f item) = spelling item)
    (h : Distinct spelling items) : Distinct spelling (items.map f) := by
  have hmap : (items.map f).map (fun item => Text.fold (spelling item)) =
      items.map fun item => Text.fold (spelling item) := by simp [hf]
  rw [Distinct, hmap]
  exact h

/-- Items that are all left as they are. -/
theorem map_eq_self {f : α → α} (h : ∀ item ∈ items, f item = item) : items.map f = items := by
  rw [List.map_congr_left h]
  exact List.map_id' items

namespace ClassDecl

/-- **repaired_consistent**: no method is repeated in a repaired class, and no name in one of them. -/
theorem repaired_consistent (cls : ClassDecl) : cls.repaired.Consistent := by
  constructor
  · exact (firsts_distinct cls.block.methods).map fun _ => rfl
  · intro method hmethod
    obtain ⟨kept, -, rfl⟩ := List.mem_map.mp hmethod
    exact kept.repaired_consistent

theorem repaired_eq_self {cls : ClassDecl} (h : cls.Consistent) : cls.repaired = cls := by
  rw [repaired, firsts_eq_self h.1, map_eq_self fun method hmethod =>
    FunctionDecl.repaired_eq_self (h.2 method hmethod)]

/-- **redeclarations_length**: what is rejected inside a class is what its repair takes out. -/
theorem redeclarations_length (cls : ClassDecl) : cls.redeclarations.length = cls.removedCount := by
  rw [redeclarations, visits_flatMap_length FunctionDecl.removedCount (fun _ _ => rfl)
    FunctionDecl.redeclarations_length, removedCount]
  show _ = cls.block.methods.length - (List.map _ _).length + _
  rw [List.length_map]
  rfl

end ClassDecl

/-! ## §E Programs -/

namespace Program

theorem redeclarations_length (program : Program) :
    program.redeclarations.length = program.removedCount := by
  rw [redeclarations, visits_flatMap_length ClassDecl.removedCount (fun _ _ => rfl)
    ClassDecl.redeclarations_length, removedCount]
  show _ = program.classes.length - (List.map _ _).length + _
  rw [List.length_map]
  rfl

theorem repaired_redeclarations (program : Program) : program.repaired.redeclarations = [] := by
  apply program.repaired.redeclarations_eq_nil_iff.mpr
  constructor
  · exact (firsts_distinct program.classes).map fun _ => rfl
  · intro cls hcls
    obtain ⟨kept, -, rfl⟩ := List.mem_map.mp hcls
    exact kept.repaired_consistent

theorem repaired_eq_self {program : Program} (h : program.redeclarations = []) :
    program.repaired = program := by
  obtain ⟨hclasses, hinside⟩ := program.redeclarations_eq_nil_iff.mp h
  rw [repaired, firsts_eq_self hclasses, map_eq_self fun cls hcls =>
    ClassDecl.repaired_eq_self (hinside cls hcls)]

/-- **walkClasses_firsts**: classes that are rejected leave no trace in the table. -/
theorem walkClasses_firsts (classes : List ClassDecl) :
    (walkClasses (firsts ClassDecl.spelling classes)).1 = (walkClasses classes).1 := by
  have hall := walkClasses_lists classes
  have hfirsts := walkClasses_lists (firsts ClassDecl.spelling classes)
  rw [NameMap.Lists, firsts_eq_self (firsts_distinct classes), ← hall] at hfirsts
  exact congrArg NameMap.mk hfirsts

/-- **build_repaired**: the table of a program that is built is also that of the repaired program. -/
theorem build_repaired {program : Program} {table : SymbolTable} (h : program.build = .ok table) :
    program.repaired.build = .ok table := by
  obtain ⟨rfl, hconsistent⟩ := build_eq_ok_iff.mp h
  have hclasses : program.repaired.classes = firsts ClassDecl.spelling program.classes :=
    map_eq_self fun cls hcls => ClassDecl.repaired_eq_self (hconsistent cls hcls)
  apply build_eq_ok_iff.mpr
  rw [hclasses, firsts_eq_self (firsts_distinct program.classes)]
  refine ⟨?_, hconsistent⟩
  show SymbolTable.mk (walkClasses _).1 = SymbolTable.mk (walkClasses program.repaired.classes).1
  rw [hclasses, walkClasses_firsts]

/-- A program is built when nothing is rejected. -/
theorem exists_build {program : Program} (h : program.redeclarations = []) :
    ∃ table, program.build = .ok table := by
  rw [build_eq, h]
  exact ⟨_, rfl⟩

end Program

/-- The diagnostics of an analysis are its conflicts, each with its line and text. -/
theorem Analysis.diagnostics_eq (analysis : Analysis) :
    analysis.diagnostics = analysis.conflicts.map fun conflict => (conflict.line, conflict.message) := by
  rw [diagnostics, conflicts]
  induction analysis.events with
  | nil => rfl
  | cons event events ih =>
    rw [List.flatMap_cons, ih]
    cases event <;> rfl

/-- **repair_law**: a repaired program is built without any diagnostic, and the diagnostics of a program count
what its repair takes out. A program is without diagnostics exactly when its repair leaves it as it is, and one
that is built has the table of its repair. -/
theorem Program.repair_law (program : Program) :
    (∃ table, program.repaired.build = .ok table) ∧
      program.repaired.analyse.diagnostics = [] ∧
      program.analyse.diagnostics.length = program.removedCount ∧
      (program.analyse.diagnostics = [] ↔ program.repaired = program) ∧
      ∀ table, program.build = .ok table → program.repaired.build = .ok table := by
  have hdiagnostics : ∀ p : Program,
      p.analyse.diagnostics = p.redeclarations.map fun conflict => (conflict.line, conflict.message) := by
    intro p
    rw [Analysis.diagnostics_eq, p.conflicts_eq]
  have hnone := program.repaired_redeclarations
  refine ⟨exists_build hnone, ?_, ?_, ?_, fun table => build_repaired⟩
  · rw [hdiagnostics, hnone]
    rfl
  · rw [hdiagnostics, List.length_map, program.redeclarations_length]
  · rw [hdiagnostics, List.map_eq_nil_iff]
    constructor
    · exact repaired_eq_self
    · intro h
      rw [← h]
      exact hnone

/-- The repair of `bank` takes out one class with its members, and the table stays as it is. -/
theorem bank_repaired :
    bank.build = .ok bank.analyse.table ∧ bank.repaired.build = .ok bank.analyse.table ∧
      bank.analyse.diagnostics.length = 1 := by
  obtain ⟨-, -, hcount, -, htable⟩ := bank.repair_law
  have hclean : bank.redeclarations.any Conflict.fails = false := by decide +kernel
  have hbuild : bank.build = .ok bank.analyse.table := by
    rw [bank.build_eq, hclean]
    rfl
  have hremoved : bank.removedCount = 1 := by decide +kernel
  rw [hremoved] at hcount
  exact ⟨hbuild, htable _ hbuild, hcount⟩

end ScopeTable
