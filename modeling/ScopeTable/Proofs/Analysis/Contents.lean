/-
# ScopeTable.Proofs.Analysis.Contents -- what a table holds, against what the program declares

A table is described from the declarations alone. `NameMap.Holds` says what it is for one map to hold a list
of declarations: one entry for each of them, in their order, under its fold and with its spelling, and no two
under one fold. `MethodTable.Describes`, `ClassTable.Describes` and `SymbolTable.Describes` apply it to the
four kinds of maps, level by level, together with what every look-up then answers: the first declaration of
the name, and nothing when there is none.

The table of a program that is built describes the program (`built_table_describes`).
-/
import ScopeTable.Analysis.Lookup
import ScopeTable.Proofs.Analysis.Redeclaration

namespace ScopeTable

open Text

variable {α V : Type} {spelling : α → String}

/-! ## §A Maps that hold declarations -/

namespace NameMap

/-- The entry is that of the item: under its fold, with its spelling, and with a value that suits it. -/
structure EntryFor (spelling : α → String) (suits : α → V → Prop) (item : α) (entry : Entry V) : Prop where
  key : entry.key = fold (spelling item)
  spelled : entry.spelling = spelling item
  value : suits item entry.value

/-- The map has one entry for each of the items and no other, and no two of them under one fold. -/
structure Holds (spelling : α → String) (suits : α → V → Prop) (items : List α) (map : NameMap V) :
    Prop where
  entries : List.Forall₂ (EntryFor spelling suits) items map.entries
  keys_nodup : (map.entries.map Entry.key).Nodup

/-- **Lists.holds**: a map that lists a scope holds its first items. -/
theorem Lists.holds {value : α → V} {items : List α} {map : NameMap V} {suits : α → V → Prop}
    (h : map.Lists spelling value items)
    (hsuits : ∀ item ∈ firsts spelling items, suits item (value item)) :
    map.Holds spelling suits (firsts spelling items) := by
  refine ⟨?_, h.keys_nodup⟩
  rw [h, List.forall₂_map_right_iff, List.forall₂_same]
  intro item hitem
  exact ⟨rfl, rfl, hsuits item hitem⟩

/-- **Lists.get?_rel**: what is found under a name suits the first item of the name, and nothing is found when
there is none. -/
theorem Lists.get?_rel {value : α → V} {items : List α} {map : NameMap V} {suits : α → V → Prop}
    (h : map.Lists spelling value items)
    (hsuits : ∀ item ∈ firsts spelling items, suits item (value item)) (name : String) :
    Option.Rel (fun stored item => suits item stored) (map.get? name)
      (firstNamed spelling items name) := by
  rw [h.get?_eq]
  cases hfirst : firstNamed spelling items name with
  | none => exact .none
  | some item => exact .some (hsuits item (mem_firsts_of_firstNamed hfirst))

/-- **Lists.get_eq_ok_iff**: what a look-up finds is the value of the first item of the name. -/
theorem Lists.get_eq_ok_iff {ε : Type} {value : α → V} {items : List α} {map : NameMap V}
    (h : map.Lists spelling value items) {name : String} {failure : NotFound → ε} {v : V} :
    (map.get name).mapError failure = .ok v ↔
      ∃ item ∈ firsts spelling items, fold (spelling item) = fold name ∧ value item = v := by
  have hget : (map.get name).mapError failure = .ok v ↔ map.get? name = some v := by
    rw [get]
    cases map.get? name <;> simp [Except.mapError]
  rw [hget, h.get?_eq, Option.map_eq_some_iff]
  simp only [firstNamed_eq_some_iff, and_assoc]

end NameMap

/-! ## §B Descriptions -/

/-- The table of a method is that of the declaration: it holds the result, every parameter and every local,
each with its kind, the type of its own group, its own identifier and the line on which that stands. -/
structure MethodTable.Describes (table : MethodTable) (decl : FunctionDecl) : Prop where
  decl_eq : table.decl = decl
  scope : table.scope.Holds Variable.spelling (fun v stored => stored = v) decl.allVariables
  lookup : ∀ name, (table.lookupVariable name).toOption =
    decl.allVariables.find? fun v => fold v.name.spelling == fold name

/-- The group has a name that differs from the given one at most in case. -/
def VarDecl.hasName (group : VarDecl) (name : String) : Bool :=
  group.names.any fun declared => fold declared.spelling == fold name

/-- The table of a class is that of the declaration: of its fields it holds the first of every name, with
the group that declares it, and of its methods every one, each with a table of its own. -/
structure ClassTable.Describes (table : ClassTable) (decl : ClassDecl) : Prop where
  decl_eq : table.decl = decl
  fields : table.fields.Holds FieldName.spelling (fun field group => group = field.group)
    (firsts FieldName.spelling decl.fieldNames)
  methods : table.methods.Holds FunctionDecl.spelling
    (fun method stored => stored.Describes method) decl.block.methods
  lookupField : ∀ name, (table.lookupField name).toOption =
    decl.block.fields.find? fun group => group.hasName name
  fieldSpelling : ∀ name, table.fields.spelling? name =
    (decl.block.fields.find? fun group => group.hasName name).bind fun group =>
      (group.names.find? fun declared => fold declared.spelling == fold name).map Ident.spelling
  lookupMethod : ∀ name, Option.Rel (fun stored method => stored.Describes method)
    (table.lookupMethod name).toOption
    (decl.block.methods.find? fun method => fold method.name.spelling == fold name)

/-- The table is that of the program: it holds the first class of every name, each with a table of its
own. -/
structure SymbolTable.Describes (table : SymbolTable) (program : Program) : Prop where
  classes : table.classes.Holds ClassDecl.spelling (fun cls stored => stored.Describes cls)
    (firsts ClassDecl.spelling program.classes)
  lookupClass : ∀ name, Option.Rel (fun stored cls => stored.Describes cls)
    (table.lookupClass name).toOption
    (program.classes.find? fun cls => fold cls.name.spelling == fold name)

/-! ## §C The tables of the walk -/

theorem FunctionDecl.Consistent.distinct {method : FunctionDecl} (h : method.Consistent) :
    Distinct Variable.spelling method.allVariables := by
  have hnames : method.allVariables.map Variable.name = [method.name] ++ method.declaredNames := by
    rw [← FunctionDecl.declared_map_name]
    rfl
  rw [FunctionDecl.Consistent, ← hnames, Distinct, List.map_map] at h
  exact h

/-- **FunctionDecl.walk_describes**: the table of a method in which no name is repeated. -/
theorem FunctionDecl.walk_describes {method : FunctionDecl} (h : method.Consistent) :
    method.walk.1.Describes method := by
  have hscope := method.walk_scope_lists
  refine ⟨rfl, ?_, ?_⟩
  · rw [← firsts_eq_self h.distinct]
    exact hscope.holds fun v _ => rfl
  · intro name
    rw [MethodTable.lookupVariable, NameMap.toOption_mapError_get, hscope.get?_eq, Option.map_id']
    rfl

/-- A group has a name when the name is found in it. -/
theorem VarDecl.hasName_eq_isSome (group : VarDecl) (name : String) :
    group.hasName name =
      (group.names.find? fun declared => fold declared.spelling == fold name).isSome := by
  rw [VarDecl.hasName, List.isSome_find?]

/-- The first field of a name is the first such name in the first group that has one. -/
theorem firstNamed_fieldNames (decl : ClassDecl) (name : String) :
    firstNamed FieldName.spelling decl.fieldNames name =
      (decl.block.fields.find? fun group => group.hasName name).bind fun group =>
        (group.names.find? fun declared => fold declared.spelling == fold name).map
          fun declared => ⟨declared, group⟩ := by
  have hgroup : ∀ group : VarDecl,
      firstNamed FieldName.spelling (group.names.map fun declared => ⟨declared, group⟩) name =
        (group.names.find? fun declared => fold declared.spelling == fold name).map
          fun declared => ⟨declared, group⟩ := fun group => List.find?_map
  rw [ClassDecl.fieldNames]
  induction decl.block.fields with
  | nil => rfl
  | cons group groups ih =>
    rw [List.flatMap_cons, firstNamed_append, hgroup, ih, List.find?_cons,
      VarDecl.hasName_eq_isSome group]
    cases hfound : group.names.find? (fun declared => fold declared.spelling == fold name) with
    | some declared => simp [hfound]
    | none => rfl

/-- **find?_group_names**: the group of a field has the name, and the first identifier of that name in it is that of
the field. -/
theorem find?_group_names {cls : ClassDecl} {field : FieldName} {name : String}
    (hfield : field ∈ firsts FieldName.spelling cls.fieldNames) (hname : fold field.spelling = fold name) :
    (field.group.names.find? fun declared => fold declared.spelling == fold name) = some field.name := by
  have hfirst := firstNamed_eq_some_iff.mpr ⟨hfield, hname⟩
  -- The first field of the name stands in the first group that has the name, and is the first with it there.
  rw [firstNamed_fieldNames, Option.bind_eq_some_iff] at hfirst
  obtain ⟨group, -, hgroup⟩ := hfirst
  obtain ⟨declared, hdeclared, rfl⟩ := Option.map_eq_some_iff.mp hgroup
  exact hdeclared

/-- **ClassDecl.walk_describes**: the table of a class in which no method is repeated and no name inside a
method. -/
theorem ClassDecl.walk_describes {cls : ClassDecl} (h : cls.Consistent) : cls.walk.1.Describes cls := by
  have hfields := cls.walk_fields_lists
  have hmethods := cls.walk_methods_lists
  have hfirsts := firsts_eq_self h.1
  have hstored : ∀ method ∈ firsts FunctionDecl.spelling cls.block.methods,
      method.walk.1.Describes method := by
    rw [hfirsts]
    intro method hmethod
    exact FunctionDecl.walk_describes (h.2 method hmethod)
  refine ⟨rfl, hfields.holds fun field _ => rfl, ?_, ?_, ?_, ?_⟩
  · rw [← hfirsts]
    exact hmethods.holds hstored
  · intro name
    rw [ClassTable.lookupField, NameMap.toOption_mapError_get, hfields.get?_eq, firstNamed_fieldNames]
    cases hgroup : cls.block.fields.find? (fun group => group.hasName name) with
    | none => rfl
    | some group =>
      -- The group was found because it has the name, so the name is found in it.
      have hname : group.hasName name = true :=
        List.find?_some (p := fun group : VarDecl => group.hasName name) hgroup
      rw [VarDecl.hasName_eq_isSome] at hname
      obtain ⟨declared, hdeclared⟩ := Option.isSome_iff_exists.mp hname
      simp [hdeclared]
  · intro name
    rw [hfields.spelling?_eq, firstNamed_fieldNames, Option.map_bind]
    congr 1
    funext group
    exact Option.map_map ..
  · intro name
    rw [ClassTable.lookupMethod, NameMap.toOption_mapError_get]
    exact hmethods.get?_rel hstored name

/-! ## §D The table of a program -/

/-- **built_table_describes**: the table of a program that is built holds the first class of every name with
its fields, methods and variables, and nothing else, and look-ups find just that. -/
theorem Program.built_table_describes {program : Program} {table : SymbolTable}
    (h : program.build = .ok table) : table.Describes program := by
  obtain ⟨rfl, hconsistent⟩ := Program.build_eq_ok_iff.mp h
  have hclasses := walkClasses_lists program.classes
  have hstored : ∀ cls ∈ firsts ClassDecl.spelling program.classes, cls.walk.1.Describes cls := by
    intro cls hcls
    exact ClassDecl.walk_describes (hconsistent cls hcls)
  refine ⟨hclasses.holds hstored, ?_⟩
  intro name
  rw [SymbolTable.lookupClass, NameMap.toOption_mapError_get]
  exact hclasses.get?_rel hstored name

/-- A program in which a field is declared again, with another type, and a class, with other members. -/
def bank : Program :=
  let balance : FunctionDecl :=
    ⟨.new "Balance" 4, [⟨[.new "on" 4], .boolean⟩], .real, ⟨[⟨[.new "sum" 5], .real⟩], []⟩⟩
  let account : ClassDecl :=
    ⟨.new "Account" 1, none,
      ⟨[⟨[.new "owner" 2, .new "OWNER" 2], .integer⟩, ⟨[.new "id" 3, .new "Owner" 3], .real⟩], [balance]⟩⟩
  ⟨.new "Bank" 1, [account, ⟨.new "ACCOUNT" 9, none, ⟨[], [balance, balance]⟩⟩]⟩

/-- What is declared again in `bank` does no harm. -/
theorem bank_built : bank.build = .ok bank.analyse.table := by
  have hclean : bank.redeclarations.any Conflict.fails = false := by decide +kernel
  rw [bank.build_eq, hclean]
  rfl

/-- What is related to something has been found. -/
theorem exists_found {ε : Type} {R : α → V → Prop} {answer : Except ε α} {v : V}
    (h : Option.Rel R answer.toOption (some v)) : ∃ found, answer = .ok found ∧ R found v := by
  cases answer with
  | error failure => nomatch h
  | ok found =>
    cases h with
    | some hrel => exact ⟨found, rfl, hrel⟩

/-- The repeated declarations of `bank` leave its table sound, and a parameter and a local are found in it. -/
theorem bank_table_describes :
    bank.build = .ok bank.analyse.table ∧ bank.analyse.table.Describes bank ∧
      ∃ account balance, bank.analyse.table.lookupClass "account" = .ok account ∧
        account.lookupMethod "BALANCE" = .ok balance ∧
        (balance.lookupVariable "ON").toOption = some ⟨.parameter, .new "on" 4, .boolean, 4⟩ ∧
        (balance.lookupVariable "Sum").toOption = some ⟨.localVar, .new "sum" 5, .real, 5⟩ := by
  have hclean : bank.redeclarations.any Conflict.fails = false := by decide +kernel
  have hbuild : bank.build = .ok bank.analyse.table := by
    rw [Program.build_eq, hclean]
    rfl
  have hdescribes := Program.built_table_describes hbuild
  -- Each look-up is related to the first declaration of the name, and the declarations are at hand.
  obtain ⟨account, haccount, hclass⟩ := exists_found (hdescribes.lookupClass "account")
  obtain ⟨balance, hbalance, hmethod⟩ := exists_found (hclass.lookupMethod "BALANCE")
  refine ⟨hbuild, hdescribes, account, balance, haccount, hbalance, ?_, ?_⟩
  · rw [hmethod.lookup]
    rfl
  · rw [hmethod.lookup]
    rfl

end ScopeTable
