/-
# ScopeTable.Proofs.Analysis.Stepwise -- the walk, one visit at a time

`Program.analyse` fills the tables from the inside out: a class is entered when its members are complete. Step by step
the walk goes from the outside in. A class is entered without members, and each of these is then entered into the table
where the class already stands; a method likewise is entered first with an empty scope, then its result is put into the
scope where the method already stands, and its variables come after. This module has that order: a `WalkState` is a
table with what is still to be visited, and `WalkState.step` is one visit. A name is offered to a map (`NameMap.enter`),
and what lies further in is reached through the names around it (`NameMap.reach`).

Both come to the same (`Program.walk_ends`). `At` says which tables there are on the way: complete ones of the
declarations that have been left, and around the present visit an incomplete one of each scope. Every visit leads from
such a state to another (`At.step`), and visits come to an end, since what is pending loses weight
(`WalkState.step_weight`).
-/
import Mathlib.Algebra.GroupWithZero.Nat
import Mathlib.Logic.Function.Iterate
import ScopeTable.Proofs.Analysis.History
import ScopeTable.Proofs.Analysis.Visited

namespace ScopeTable

open Text

variable {α V N : Type}

/-! ## §A Effects -/

/-- What comes of a visit: what becomes of the table, what is to be visited next, and the events. -/
structure Effect (V N : Type) where
  table : V
  next : List N
  events : List Event

/-- The effect on what a table is part of. -/
def Effect.map {W : Type} (f : V → W) (effect : Effect V N) : Effect W N :=
  ⟨f effect.table, effect.next, effect.events⟩

namespace NameMap

/-- Enters a name unless it is taken. Of a name that is taken there is nothing to visit. -/
def enter (map : NameMap V) (name : String) (value : V) (next : List N) (entered : List Event)
    (clash : V → List Event) : Effect (NameMap V) N :=
  match map.insertIfNew name value with
  | .kept first => ⟨map, [], clash first⟩
  | .inserted map => ⟨map, next, entered⟩

/-- Has an effect on the value of a name, if there is one. -/
def reach (map : NameMap V) (name : String) (effect : V → Effect V N) : Effect (NameMap V) N :=
  match map.get? name with
  | some value =>
    ⟨map.modify name fun found => (effect found).table, (effect value).next, (effect value).events⟩
  | none => ⟨map, [], []⟩

variable {map : NameMap V} {name : String}

theorem get?_eq_none_iff : map.get? name = none ↔ map.find? name = none := by
  rw [get?, Option.map_eq_none_iff]

theorem get?_of_find? {entry : Entry V} (h : map.find? name = some entry) : map.get? name = some entry.value := by
  rw [get?, h, Option.map_some]

theorem enter_taken {first : V} (h : map.get? name = some first) (value : V) (next : List N) (entered : List Event)
    (clash : V → List Event) : map.enter name value next entered clash = ⟨map, [], clash first⟩ := by
  rw [enter, insertIfNew, h]

theorem enter_free (h : map.find? name = none) (value : V) (next : List N) (entered : List Event)
    (clash : V → List Event) : map.enter name value next entered clash = ⟨map.insert name value, next, entered⟩ := by
  rw [enter, insertIfNew, get?_eq_none_iff.mpr h]

/-- **reach_entered**: what has been entered under a free name is reached under it. -/
theorem reach_entered (h : map.find? name = none) (value : V) (effect : V → Effect V N) :
    (map.insert name value).reach name effect = (effect value).map (map.insert name) := by
  rw [reach, get?_insert_same rfl]
  dsimp only
  rw [modify_insert h]
  rfl

/-! ## §B Registration, item by item -/

variable {E : Type} {spelling : α → String} {entered : α → V × List E} {clash : V → α → List E}

/-- **register_append**: items are registered one part after the other. -/
theorem register_append (map : NameMap V) (items more : List α) :
    map.register spelling entered clash (items ++ more) =
      (((map.register spelling entered clash items).1.register spelling entered clash more).1,
        (map.register spelling entered clash items).2 ++
          ((map.register spelling entered clash items).1.register spelling entered clash more).2) := by
  induction items generalizing map with
  | nil => rfl
  | cons item items ih =>
    rw [List.cons_append, register, register]
    cases map.get? (spelling item) with
    | some first =>
      dsimp only
      rw [ih map, List.append_assoc]
    | none =>
      dsimp only
      rw [ih (map.insert _ _), List.append_assoc]

theorem register_snoc_taken {items : List α} {item : α} {first : V}
    (h : (map.register spelling entered clash items).1.get? (spelling item) = some first) :
    map.register spelling entered clash (items ++ [item]) =
      ((map.register spelling entered clash items).1,
        (map.register spelling entered clash items).2 ++ clash first item) := by
  rw [register_append, register, h]
  dsimp only [register]
  rw [List.append_nil]

theorem register_snoc_free {items : List α} {item : α}
    (h : (map.register spelling entered clash items).1.find? (spelling item) = none) :
    map.register spelling entered clash (items ++ [item]) =
      ((map.register spelling entered clash items).1.insert (spelling item) (entered item).1,
        (map.register spelling entered clash items).2 ++ (entered item).2) := by
  rw [register_append, register, get?_eq_none_iff.mpr h]
  dsimp only [register]
  rw [List.append_nil]

/-- **enter_registers**: where an item has nothing inside, to enter it is to register one item more. -/
theorem enter_registers {value : α → V} {event : α → Event} {clash : V → α → List Event} {map : NameMap V}
    {after : List α → NameMap V × List Event}
    (hafter : ∀ items, after items = map.register spelling (fun item => (value item, [event item])) clash items)
    (items : List α) (item : α) :
    ∃ events,
      (after items).1.enter (spelling item) (value item) [] [event item] (fun first => clash first item) =
        (⟨(after (items ++ [item])).1, [], events⟩ : Effect (NameMap V) N) ∧
      (after (items ++ [item])).2 = (after items).2 ++ events := by
  rw [hafter, hafter]
  cases hfind : (map.register spelling (fun item => (value item, [event item])) clash items).1.find?
      (spelling item) with
  | none =>
    refine ⟨[event item], ?_, ?_⟩
    · rw [enter_free hfind, register_snoc_free hfind]
    · rw [register_snoc_free hfind]
  | some entry =>
    have htaken := get?_of_find? hfind
    refine ⟨clash entry.value item, ?_, ?_⟩
    · rw [enter_taken htaken, register_snoc_taken htaken]
    · rw [register_snoc_taken htaken]

end NameMap

/-! ## §C Visits -/

/-- What is visited inside a class: its declarations, and in each method that has been entered the result before all
variables. -/
inductive ClassMember where
  | ofField (field : FieldName)
  | ofMethod (method : FunctionDecl)
  | ofResult (method : FunctionDecl)
  | ofVariable (method : FunctionDecl) (v : Variable)

/-- A declaration that is visited, with the class around it. -/
inductive Visit where
  | ofClass (cls : ClassDecl)
  | ofMember (cls : ClassDecl) (member : ClassMember)

/-- What is visited inside a method when it is entered. -/
def FunctionDecl.members (method : FunctionDecl) : List ClassMember :=
  .ofResult method :: method.declared.map (.ofVariable method)

/-- What is visited inside a class when it is entered. -/
def ClassDecl.members (cls : ClassDecl) : List ClassMember :=
  cls.fieldNames.map .ofField ++ cls.block.methods.map .ofMethod

/-- A visit of the result in the table of its method: it is put into the scope, whatever is there. -/
def FunctionDecl.visitResult (method : FunctionDecl) (table : MethodTable) : Effect MethodTable ClassMember :=
  ⟨{ table with scope := table.scope.insert method.name.spelling method.result }, [], []⟩

/-- A visit of a variable in the table of its method. -/
def Variable.visit (table : MethodTable) (v : Variable) : Effect MethodTable ClassMember :=
  (table.scope.enter v.name.spelling v [] [.variableDeclared v] fun first =>
    [.conflict (.ofRejected .ofVariable v.name.spelling first.line v.name)]).map fun scope => { table with scope }

/-- A visit of a member in the table of its class. -/
def ClassMember.visit (table : ClassTable) : ClassMember → Effect ClassTable ClassMember
  | ofField field =>
    (table.fields.enter field.name.spelling field.group [] [.fieldDeclared field] fun _ =>
      [.fieldRepeated field]).map fun fields => { table with fields }
  | ofMethod method =>
    (table.methods.enter method.name.spelling ⟨method, .empty⟩ method.members
      [.methodRegistered method.name] fun first =>
        [.conflict (.ofRejected .ofMethod method.name.spelling first.name.line method.name)]).map
      fun methods => { table with methods }
  | ofResult method =>
    (table.methods.reach method.name.spelling method.visitResult).map fun methods => { table with methods }
  | ofVariable method v =>
    (table.methods.reach method.name.spelling fun found => v.visit found).map fun methods => { table with methods }

/-- A visit in the table of a program. -/
def Visit.visit (table : SymbolTable) : Visit → Effect SymbolTable Visit
  | ofClass cls =>
    (table.classes.enter cls.name.spelling ⟨cls, .empty, .empty⟩ (cls.members.map (.ofMember cls))
      [.classRegistered cls.name] fun first =>
        [.conflict (.ofRejected .ofClass first.name.spelling first.name.line cls.name)]).map .mk
  | ofMember cls member =>
    (table.classes.reach cls.name.spelling fun found =>
      let effect := member.visit found
      ⟨effect.table, effect.next.map (.ofMember cls), effect.events⟩).map .mk

/-- Where a walk stands: the table as it is, what is still to be visited, and the events so far. -/
structure WalkState where
  table : SymbolTable
  pending : List Visit
  events : List Event

/-- One visit. When nothing is pending, the walk has come to its end. -/
def WalkState.step (state : WalkState) : WalkState :=
  match state.pending with
  | [] => state
  | visit :: pending =>
    let effect := visit.visit state.table
    ⟨effect.table, effect.next ++ pending, state.events ++ effect.events⟩

/-- Where the walk over a program starts. -/
def Program.start (program : Program) : WalkState :=
  ⟨⟨.empty⟩, program.classes.map .ofClass, [.started program.name]⟩

/-- Where the walk over a program stands after so many visits. -/
def Program.after (program : Program) (n : Nat) : WalkState := WalkState.step^[n] program.start

theorem Program.after_succ (program : Program) (n : Nat) : program.after (n + 1) = (program.after n).step :=
  Function.iterate_succ_apply' _ _ _

/-! ## §D What is complete when some declarations have been visited -/

/-- The scope of a method when some of its variables have been visited, and the events of these visits. -/
def FunctionDecl.scopeAfter (method : FunctionDecl) (visited : List Variable) : NameMap Variable × List Event :=
  ((NameMap.empty : NameMap Variable).insert method.name.spelling method.result).register
    (fun v : Variable => v.name.spelling) (fun v => (v, [Event.variableDeclared v]))
    (fun first v => [.conflict (.ofRejected .ofVariable v.name.spelling first.line v.name)]) visited

/-- The fields of a class when some of them have been visited. -/
def fieldsAfter (visited : List FieldName) : NameMap VarDecl × List Event :=
  (NameMap.empty : NameMap VarDecl).register (fun f : FieldName => f.name.spelling)
    (fun f => (f.group, [Event.fieldDeclared f])) (fun _ f => [.fieldRepeated f]) visited

/-- The methods of a class when some of them have been visited with all that is inside. -/
def methodsAfter (visited : List FunctionDecl) : NameMap MethodTable × List Event :=
  (NameMap.empty : NameMap MethodTable).register (fun m : FunctionDecl => m.name.spelling) FunctionDecl.walk
    (fun first m => [.conflict (.ofRejected .ofMethod m.name.spelling first.name.line m.name)]) visited

theorem FunctionDecl.walk_eq (method : FunctionDecl) :
    method.walk =
      (⟨method, (method.scopeAfter method.declared).1⟩,
        .methodRegistered method.name :: (method.scopeAfter method.declared).2) := rfl

/-- The table of a class, what is still to be visited inside it, and the events so far. -/
inductive InClass (cls : ClassDecl) : ClassTable → List ClassMember → List Event → Prop where
  /-- Some of the fields have been visited. -/
  | fields {visited rest : List FieldName} (h : cls.fieldNames = visited ++ rest) :
    InClass cls ⟨cls, (fieldsAfter visited).1, .empty⟩ (rest.map .ofField ++ cls.block.methods.map .ofMethod)
      (fieldsAfter visited).2
  /-- All fields have been visited, and some of the methods with all that is inside. -/
  | methods {visited rest : List FunctionDecl} (h : cls.block.methods = visited ++ rest) :
    InClass cls ⟨cls, cls.walkFields.1, (methodsAfter visited).1⟩ (rest.map .ofMethod)
      (cls.walkFields.2 ++ (methodsAfter visited).2)
  /-- Behind these methods, one more has been entered, and its result is next. -/
  | atResult {visited rest : List FunctionDecl} {method : FunctionDecl}
    (h : cls.block.methods = visited ++ method :: rest)
    (hfree : (methodsAfter visited).1.find? method.name.spelling = none) :
    InClass cls ⟨cls, cls.walkFields.1, (methodsAfter visited).1.insert method.name.spelling ⟨method, .empty⟩⟩
      (method.members ++ rest.map .ofMethod)
      (cls.walkFields.2 ++ (methodsAfter visited).2 ++ [.methodRegistered method.name])
  /-- Behind these methods, one more has its result, and some of its variables have been visited. -/
  | inMethod {visited rest : List FunctionDecl} {method : FunctionDecl} {seen coming : List Variable}
    (h : cls.block.methods = visited ++ method :: rest)
    (hfree : (methodsAfter visited).1.find? method.name.spelling = none) (hin : method.declared = seen ++ coming) :
    InClass cls
      ⟨cls, cls.walkFields.1, (methodsAfter visited).1.insert method.name.spelling ⟨method, (method.scopeAfter seen).1⟩⟩
      (coming.map (.ofVariable method) ++ rest.map .ofMethod)
      (cls.walkFields.2 ++ (methodsAfter visited).2 ++ .methodRegistered method.name :: (method.scopeAfter seen).2)

/-- The states of the walk over a program. -/
inductive At (program : Program) : WalkState → Prop where
  /-- Some of the classes have been visited with all that is inside. -/
  | between {visited rest : List ClassDecl} (h : program.classes = visited ++ rest) :
    At program
      ⟨⟨(walkClasses visited).1⟩, rest.map .ofClass, .started program.name :: (walkClasses visited).2⟩
  /-- Behind these classes, one more has been entered, and something inside it has been visited. -/
  | inside {visited rest : List ClassDecl} {cls : ClassDecl} {table : ClassTable} {members : List ClassMember}
    {events : List Event} (h : program.classes = visited ++ cls :: rest)
    (hfree : (walkClasses visited).1.find? cls.name.spelling = none) (hin : InClass cls table members events) :
    At program
      ⟨⟨(walkClasses visited).1.insert cls.name.spelling table⟩, members.map (.ofMember cls) ++ rest.map .ofClass,
        .started program.name :: (walkClasses visited).2 ++ .classRegistered cls.name :: events⟩

/-! ## §E Visits inside a class -/

/-- What the next visit inside a class leads to; when there is none, the table is that of the class. -/
def InClass.Next (cls : ClassDecl) (table : ClassTable) (members : List ClassMember) (events : List Event) : Prop :=
  match members with
  | [] => (table, .classRegistered cls.name :: events) = cls.walk
  | member :: rest =>
    InClass cls (member.visit table).table ((member.visit table).next ++ rest) (events ++ (member.visit table).events)

namespace InClass

variable {cls : ClassDecl}

/-- A class that has just been entered. -/
theorem entered (cls : ClassDecl) : InClass cls ⟨cls, .empty, .empty⟩ cls.members [] :=
  fields (List.nil_append _).symm

theorem next_field {visited rest : List FieldName} {field : FieldName}
    (h : cls.fieldNames = visited ++ field :: rest) :
    Next cls ⟨cls, (fieldsAfter visited).1, .empty⟩
      (.ofField field :: (rest.map .ofField ++ cls.block.methods.map .ofMethod)) (fieldsAfter visited).2 := by
  obtain ⟨events, henter, hevents⟩ :=
    NameMap.enter_registers (N := ClassMember) (fun items => (rfl : fieldsAfter items = _)) visited field
  have hvisit : (ClassMember.ofField field).visit ⟨cls, (fieldsAfter visited).1, .empty⟩ =
      ⟨⟨cls, (fieldsAfter (visited ++ [field])).1, .empty⟩, [], events⟩ :=
    congrArg (Effect.map fun fields => (⟨cls, fields, .empty⟩ : ClassTable)) henter
  rw [Next, hvisit]
  dsimp only
  rw [← hevents, List.nil_append]
  exact fields (by rw [h, List.append_assoc]; rfl)

/-- **next_method**: a method whose name is free is entered with an empty scope, and its result is next. -/
theorem next_method {visited rest : List FunctionDecl} (h : cls.block.methods = visited ++ rest) :
    Next cls ⟨cls, cls.walkFields.1, (methodsAfter visited).1⟩ (rest.map .ofMethod)
      (cls.walkFields.2 ++ (methodsAfter visited).2) := by
  cases rest with
  | nil =>
    rw [List.append_nil] at h
    rw [← h]
    rfl
  | cons method rest =>
    have hvisit : ∀ effect, (methodsAfter visited).1.enter method.name.spelling ⟨method, .empty⟩ method.members
        [.methodRegistered method.name]
        (fun first => [.conflict (.ofRejected .ofMethod method.name.spelling first.name.line method.name)]) = effect →
        (ClassMember.ofMethod method).visit ⟨cls, cls.walkFields.1, (methodsAfter visited).1⟩ =
          effect.map fun methods => ⟨cls, cls.walkFields.1, methods⟩ := by
      rintro effect rfl
      rfl
    rw [List.map_cons, Next]
    cases hfind : (methodsAfter visited).1.find? method.name.spelling with
    | none =>
      rw [hvisit _ (NameMap.enter_free hfind _ _ _ _)]
      exact atResult h hfind
    | some entry =>
      have htaken : (methodsAfter visited).1.get? method.name.spelling = some entry.value := NameMap.get?_of_find? hfind
      rw [hvisit _ (NameMap.enter_taken htaken _ _ _ _)]
      show InClass cls ⟨cls, cls.walkFields.1, (methodsAfter visited).1⟩ (rest.map .ofMethod) _
      have hmore : methodsAfter (visited ++ [method]) = ((methodsAfter visited).1, (methodsAfter visited).2 ++ _) :=
        NameMap.register_snoc_taken htaken
      have hnext := @methods cls (visited ++ [method]) rest (by simp [h])
      rw [hmore] at hnext
      dsimp only at hnext
      rw [← List.append_assoc] at hnext
      exact hnext

/-- **next_result**: the result of a method is put into the scope that the method was entered with, and its variables
are next. -/
theorem next_result {visited rest : List FunctionDecl} {method : FunctionDecl}
    (h : cls.block.methods = visited ++ method :: rest)
    (hfree : (methodsAfter visited).1.find? method.name.spelling = none) :
    Next cls ⟨cls, cls.walkFields.1, (methodsAfter visited).1.insert method.name.spelling ⟨method, .empty⟩⟩
      (method.members ++ rest.map .ofMethod)
      (cls.walkFields.2 ++ (methodsAfter visited).2 ++ [.methodRegistered method.name]) := by
  have hvisit : (ClassMember.ofResult method).visit
      ⟨cls, cls.walkFields.1, (methodsAfter visited).1.insert method.name.spelling ⟨method, .empty⟩⟩ =
      ⟨⟨cls, cls.walkFields.1, (methodsAfter visited).1.insert method.name.spelling
        ⟨method, (method.scopeAfter []).1⟩⟩, [], []⟩ := by
    rw [ClassMember.visit]
    dsimp only
    rw [NameMap.reach_entered hfree]
    rfl
  rw [FunctionDecl.members, List.cons_append, Next, hvisit, List.append_nil]
  exact inMethod h hfree (List.nil_append _).symm

theorem next_variable {visited rest : List FunctionDecl} {method : FunctionDecl} {seen coming : List Variable}
    {v : Variable} (h : cls.block.methods = visited ++ method :: rest)
    (hfree : (methodsAfter visited).1.find? method.name.spelling = none)
    (hin : method.declared = seen ++ v :: coming) :
    Next cls
      ⟨cls, cls.walkFields.1, (methodsAfter visited).1.insert method.name.spelling ⟨method, (method.scopeAfter seen).1⟩⟩
      (.ofVariable method v :: (coming.map (.ofVariable method) ++ rest.map .ofMethod))
      (cls.walkFields.2 ++ (methodsAfter visited).2 ++
        .methodRegistered method.name :: (method.scopeAfter seen).2) := by
  obtain ⟨events, henter, hevents⟩ :=
    NameMap.enter_registers (N := ClassMember) (fun items => (rfl : method.scopeAfter items = _)) seen v
  have hreach : (v.visit ⟨method, (method.scopeAfter seen).1⟩ : Effect MethodTable ClassMember) =
      ⟨⟨method, (method.scopeAfter (seen ++ [v])).1⟩, [], events⟩ :=
    congrArg (Effect.map fun scope => (⟨method, scope⟩ : MethodTable)) henter
  have hvisit : (ClassMember.ofVariable method v).visit
      ⟨cls, cls.walkFields.1,
        (methodsAfter visited).1.insert method.name.spelling ⟨method, (method.scopeAfter seen).1⟩⟩ =
      ⟨⟨cls, cls.walkFields.1, (methodsAfter visited).1.insert method.name.spelling
        ⟨method, (method.scopeAfter (seen ++ [v])).1⟩⟩, [], events⟩ := by
    rw [ClassMember.visit]
    dsimp only
    rw [NameMap.reach_entered hfree, hreach]
    rfl
  rw [Next, hvisit]
  dsimp only
  rw [List.nil_append, List.append_assoc, List.cons_append, ← hevents]
  exact inMethod h hfree (by rw [hin, List.append_assoc]; rfl)

/-- **InClass.next**: every visit inside a class leads on, and the last one to the table of the class. -/
theorem next {table : ClassTable} {members : List ClassMember} {events : List Event}
    (h : InClass cls table members events) : Next cls table members events := by
  cases h with
  | @fields visited rest h =>
    cases rest with
    | cons field rest => exact next_field h
    | nil =>
      -- All fields have been visited, so a method is next.
      have hmethods : Next cls ⟨cls, cls.walkFields.1, .empty⟩ (cls.block.methods.map .ofMethod) _ :=
        @next_method cls [] _ (List.nil_append _).symm
      rw [List.append_nil] at h
      rw [← h, List.map_nil, List.nil_append]
      have hnone : (methodsAfter []).2 = [] := rfl
      rw [hnone, List.append_nil] at hmethods
      exact hmethods
  | @methods visited rest h => exact next_method h
  | @atResult visited rest method h hfree => exact next_result h hfree
  | @inMethod visited rest method seen coming h hfree hin =>
    cases coming with
    | cons v coming => exact next_variable h hfree hin
    | nil =>
      -- The method is complete, and it is registered with what is in front of it.
      have hmore : methodsAfter (visited ++ [method]) =
          ((methodsAfter visited).1.insert method.name.spelling method.walk.1,
            (methodsAfter visited).2 ++ method.walk.2) := NameMap.register_snoc_free hfree
      have hmethods := @next_method cls (visited ++ [method]) rest (by simp [h])
      rw [hmore, method.walk_eq] at hmethods
      dsimp only at hmethods
      rw [List.append_nil] at hin
      rw [← hin, List.map_nil, List.nil_append, List.append_assoc]
      exact hmethods

end InClass

/-! ## §F Visits in a program -/

namespace At

variable {program : Program}

theorem start (program : Program) : At program program.start := between (List.nil_append _).symm

/-- A class whose name is free is entered, and its members are next. -/
theorem step_class {visited rest : List ClassDecl} (h : program.classes = visited ++ rest) :
    At program (WalkState.step
      ⟨⟨(walkClasses visited).1⟩, rest.map .ofClass, .started program.name :: (walkClasses visited).2⟩) := by
  cases rest with
  | nil => exact between h
  | cons cls rest =>
    rw [List.map_cons, WalkState.step]
    dsimp only [Visit.visit]
    cases hfind : (walkClasses visited).1.find? cls.name.spelling with
    | none =>
      rw [NameMap.enter_free hfind]
      exact inside h hfind (.entered cls)
    | some entry =>
      have htaken : (walkClasses visited).1.get? cls.name.spelling = some entry.value := NameMap.get?_of_find? hfind
      have hmore : walkClasses (visited ++ [cls]) = ((walkClasses visited).1, (walkClasses visited).2 ++ _) :=
        NameMap.register_snoc_taken htaken
      have hnext := @between program (visited ++ [cls]) rest (by simp [h])
      rw [hmore] at hnext
      rw [NameMap.enter_taken htaken]
      exact hnext

/-- **At.complete**: a class that is complete is registered with what is in front of it. -/
theorem complete {visited rest : List ClassDecl} {cls : ClassDecl} {table : ClassTable} {events : List Event}
    (hfree : (walkClasses visited).1.find? cls.name.spelling = none)
    (hwalk : (table, .classRegistered cls.name :: events) = cls.walk) :
    (⟨⟨(walkClasses visited).1.insert cls.name.spelling table⟩, [].map (.ofMember cls) ++ rest.map .ofClass,
        .started program.name :: (walkClasses visited).2 ++ .classRegistered cls.name :: events⟩ : WalkState) =
      ⟨⟨(walkClasses (visited ++ [cls])).1⟩, rest.map .ofClass,
        .started program.name :: (walkClasses (visited ++ [cls])).2⟩ := by
  have hmore : walkClasses (visited ++ [cls]) =
      ((walkClasses visited).1.insert cls.name.spelling cls.walk.1, (walkClasses visited).2 ++ cls.walk.2) :=
    NameMap.register_snoc_free hfree
  rw [hmore, ← hwalk]
  rfl

/-- **At.step**: every visit leads from a state of the walk to another. -/
theorem step {state : WalkState} (h : At program state) : At program state.step := by
  cases h with
  | between h => exact step_class h
  | @inside visited rest cls table members events h hfree hin =>
    cases members with
    | nil =>
      rw [complete hfree hin.next]
      exact step_class (by simp [h])
    | cons member members =>
      have hreach := NameMap.reach_entered hfree table fun found =>
        (⟨(member.visit found).table, (member.visit found).next.map (Visit.ofMember cls), (member.visit found).events⟩ :
          Effect ClassTable Visit)
      have hnext := inside h hfree hin.next
      rw [List.map_cons, List.cons_append, WalkState.step]
      dsimp only [Visit.visit]
      rw [hreach]
      rw [List.map_append, List.append_assoc, ← List.cons_append,
        ← List.append_assoc (Event.started program.name :: _)] at hnext
      exact hnext

/-- **At.ended**: where nothing is pending, the table and the events are those of the analysis. -/
theorem ended {state : WalkState} (h : At program state) (hpending : state.pending = []) :
    state = ⟨program.analyse.table, [], program.analyse.events⟩ := by
  cases h with
  | @between visited rest h =>
    obtain rfl := List.map_eq_nil_iff.mp hpending
    rw [List.append_nil] at h
    rw [← h]
    rfl
  | @inside visited rest cls table members events h hfree hin =>
    obtain ⟨hmembers, hrest⟩ := List.append_eq_nil_iff.mp hpending
    obtain rfl := List.map_eq_nil_iff.mp hmembers
    obtain rfl := List.map_eq_nil_iff.mp hrest
    rw [complete hfree hin.next, ← h]
    rfl

end At

theorem Program.after_at (program : Program) (n : Nat) : At program (program.after n) := by
  induction n with
  | zero => exact .start program
  | succ n ih =>
    rw [after_succ]
    exact ih.step

/-! ## §G The end of a walk -/

/-- How many visits a member amounts to at most. -/
def ClassMember.weight : ClassMember → Nat
  | ofField _ => 1
  | ofMethod method => 2 + method.declared.length
  | ofResult _ => 1
  | ofVariable _ _ => 1

/-- How many visits a visit amounts to at most, with those that it leads to. -/
def Visit.weight : Visit → Nat
  | ofClass cls => 1 + (cls.members.map ClassMember.weight).sum
  | ofMember _ member => member.weight

/-- How many visits are still to come at most. -/
def WalkState.weight (state : WalkState) : Nat := (state.pending.map Visit.weight).sum

namespace NameMap

variable {map : NameMap V} {name : String}

/-- What is next is what was given, or nothing. -/
theorem enter_next (map : NameMap V) (name : String) (value : V) (next : List N) (entered : List Event)
    (clash : V → List Event) :
    (map.enter name value next entered clash).next = next ∨
      (map.enter name value next entered clash).next = [] := by
  rw [enter]
  split
  · exact .inr rfl
  · exact .inl rfl

theorem reach_next (map : NameMap V) (name : String) (effect : V → Effect V N) :
    (∃ value, (map.reach name effect).next = (effect value).next) ∨ (map.reach name effect).next = [] := by
  rw [reach]
  split
  · exact .inl ⟨_, rfl⟩
  · exact .inr rfl

end NameMap

theorem Variable.visit_next (table : MethodTable) (v : Variable) : (v.visit table).next = [] :=
  (NameMap.enter_next ..).elim id id

theorem ClassMember.visit_weight (table : ClassTable) (member : ClassMember) :
    ((member.visit table).next.map weight).sum < member.weight := by
  cases member with
  | ofField field =>
    have hnone : ((ofField field).visit table).next = [] := (NameMap.enter_next ..).elim id id
    rw [hnone]
    exact Nat.one_pos
  | ofResult method =>
    have hnone : ((ofResult method).visit table).next = [] := by
      rcases NameMap.reach_next table.methods method.name.spelling method.visitResult with ⟨found, h⟩ | h
      · exact h
      · exact h
    rw [hnone]
    exact Nat.one_pos
  | ofVariable method v =>
    have hnone : ((ofVariable method v).visit table).next = [] := by
      rcases NameMap.reach_next table.methods method.name.spelling fun found => v.visit found with ⟨found, h⟩ | h
      · exact h.trans (v.visit_next found)
      · exact h
    rw [hnone]
    exact Nat.one_pos
  | ofMethod method =>
    have hnext : ((ofMethod method).visit table).next = method.members ∨ ((ofMethod method).visit table).next = [] :=
      NameMap.enter_next ..
    have hweight : (method.members.map weight).sum = 1 + method.declared.length := by
      rw [FunctionDecl.members, List.map_cons, List.sum_cons, List.map_map]
      have hone : weight ∘ ofVariable method = fun _ => 1 := rfl
      simp [hone, weight]
    rw [weight]
    rcases hnext with h | h
    · rw [h, hweight]
      omega
    · rw [h]
      exact Nat.add_pos_left Nat.two_pos _

theorem Visit.visit_weight (table : SymbolTable) (visit : Visit) :
    ((visit.visit table).next.map weight).sum < visit.weight := by
  have hmembers : ∀ (cls : ClassDecl) (members : List ClassMember),
      ((members.map (ofMember cls)).map weight).sum = (members.map ClassMember.weight).sum := by
    intro cls members
    rw [List.map_map]
    rfl
  cases visit with
  | ofClass cls =>
    have hnext : ((ofClass cls).visit table).next = cls.members.map (ofMember cls) ∨
        ((ofClass cls).visit table).next = [] := NameMap.enter_next ..
    rw [weight]
    rcases hnext with h | h
    · rw [h, hmembers]
      omega
    · rw [h]
      exact Nat.add_pos_left Nat.one_pos _
  | ofMember cls member =>
    rcases NameMap.reach_next table.classes cls.name.spelling fun found =>
      (⟨(member.visit found).table, (member.visit found).next.map (ofMember cls), (member.visit found).events⟩ :
        Effect ClassTable Visit) with ⟨found, h⟩ | h
    · have hnext : ((ofMember cls member).visit table).next = (member.visit found).next.map (ofMember cls) := h
      rw [hnext, hmembers]
      exact member.visit_weight found
    · have hnext : ((ofMember cls member).visit table).next = [] := h
      have hpositive := member.visit_weight ⟨cls, .empty, .empty⟩
      rw [hnext, weight]
      exact Nat.zero_lt_of_lt hpositive

/-- **step_weight**: a visit leads to less than it amounts to. -/
theorem WalkState.step_weight {state : WalkState} (h : state.pending ≠ []) : state.step.weight < state.weight := by
  obtain ⟨table, pending, events⟩ := state
  cases pending with
  | nil => exact absurd rfl h
  | cons visit pending =>
    have hless := visit.visit_weight table
    rw [step, weight, weight]
    dsimp only
    rw [List.map_append, List.sum_append, List.map_cons, List.sum_cons]
    omega

/-- A walk has come to its end after as many visits as it amounts to at most. -/
theorem WalkState.iterate_pending {n : Nat} {state : WalkState} (h : state.weight ≤ n) :
    (step^[n] state).pending = [] := by
  induction n generalizing state with
  | zero =>
    by_contra hpending
    have hless := step_weight hpending
    simp only [Function.iterate_zero, id_eq] at hless
    omega
  | succ n ih =>
    rw [Function.iterate_succ_apply]
    apply ih
    by_cases hpending : state.pending = []
    · have hstep : state.step = state := by rw [step, hpending]
      have hzero : state.weight = 0 := by rw [weight, hpending]; rfl
      rw [hstep, hzero]
      exact Nat.zero_le n
    · have hless := step_weight hpending
      omega

/-- **walk_ends**: visit by visit, the walk over a program comes to the table and the events of its analysis. -/
theorem Program.walk_ends (program : Program) {n : Nat} (h : program.start.weight ≤ n) :
    program.after n = ⟨program.analyse.table, [], program.analyse.events⟩ :=
  (program.after_at n).ended (WalkState.iterate_pending h)

end ScopeTable
