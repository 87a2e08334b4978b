/-
# ScopeTable.Proofs.Analysis.Namespaces -- fields, methods and variables are kept apart

A class has a namespace for its fields and one for its methods, and every method has one for its own name, its
parameters and its locals. What is declared in one of them is not read where another is filled. This is a statement
about two programs: if they differ only in what belongs to one namespace, then all that the others hold is the same, and
so is what is rejected there.

Parents, types and statements belong to no namespace at all, so they may differ as well. `SameMethods` is the relation
of programs that may differ in all but classes, methods and variables, and `SameFields` that of programs that may differ
in methods. Each is carried through the walk level by level, and `Program.namespaces_apart` has both. That fields take no
part in any conflict is the case of a program whose fields are taken away.
-/
import ScopeTable.Proofs.Analysis.Arrangement
import ScopeTable.Proofs.Analysis.Composition

namespace ScopeTable

open Text

variable {α β V : Type}

/-! ## §A Programs that differ in one namespace -/

/-- Groups that declare the same names, of whatever type. -/
def VarDecl.SameNames (a b : VarDecl) : Prop := a.names = b.names

/-- Methods of one name with the same parameters and locals. Their types and statements may differ. -/
structure FunctionDecl.SameVariables (a b : FunctionDecl) : Prop where
  name : a.name = b.name
  params : List.Forall₂ VarDecl.SameNames a.params b.params
  locals : List.Forall₂ VarDecl.SameNames a.block.locals b.block.locals

/-- Classes of one name with the same methods and variables. Their parents and fields may differ. -/
structure ClassDecl.SameMethods (a b : ClassDecl) : Prop where
  name : a.name = b.name
  methods : List.Forall₂ FunctionDecl.SameVariables a.block.methods b.block.methods

/-- Programs with the same classes, methods and variables. -/
structure Program.SameMethods (p q : Program) : Prop where
  name : p.name = q.name
  classes : List.Forall₂ ClassDecl.SameMethods p.classes q.classes

/-- Classes of one name and parent with the same fields. Their methods may differ. -/
structure ClassDecl.SameFields (a b : ClassDecl) : Prop where
  name : a.name = b.name
  parent : a.parent = b.parent
  fields : a.block.fields = b.block.fields

/-- Programs with the same classes and fields. -/
structure Program.SameFields (p q : Program) : Prop where
  name : p.name = q.name
  classes : List.Forall₂ ClassDecl.SameFields p.classes q.classes

/-! ## §B Tables that differ in one namespace -/

/-- Variables of one kind and name, which stand on one line. -/
structure Variable.SameName (v w : Variable) : Prop where
  kind : v.kind = w.kind
  name : v.name = w.name
  line : v.line = w.line

/-- Tables of methods of one name that hold the same variables. -/
structure MethodTable.SameVariables (t u : MethodTable) : Prop where
  name : t.name = u.name
  scope : t.scope.Reordered Variable.SameName u.scope

/-- Tables of classes of one name that hold the same methods. -/
structure ClassTable.SameMethods (t u : ClassTable) : Prop where
  name : t.name = u.name
  methods : t.methods.Reordered MethodTable.SameVariables u.methods

/-- Tables that hold the same classes, with the same methods. -/
structure SymbolTable.SameMethods (t u : SymbolTable) : Prop where
  classes : t.classes.Reordered ClassTable.SameMethods u.classes

/-- Tables of classes of one name and parent that hold the same fields, in the same groups. -/
structure ClassTable.SameFields (t u : ClassTable) : Prop where
  name : t.name = u.name
  parent : t.parent = u.parent
  fields : t.fields = u.fields

/-- Tables that hold the same classes, with the same fields. -/
structure SymbolTable.SameFields (t u : SymbolTable) : Prop where
  classes : t.classes.Reordered ClassTable.SameFields u.classes

/-- **Lists.reordered**: maps of lists of items with the same spellings hold related values if related items have
them. -/
theorem NameMap.Lists.reordered {R : α → β → Prop} {S : V → V → Prop} {s : α → String} {t : β → String}
    {value : α → V} {value' : β → V} {xs : List α} {ys : List β} {map other : NameMap V}
    (hmap : map.Lists s value xs) (hother : other.Lists t value' ys) (hspelling : ∀ a b, R a b → s a = t b)
    (hvalue : ∀ a b, R a b → S (value a) (value' b)) (h : List.Forall₂ R xs ys) : map.Reordered S other := by
  -- The entries stand in one order already, that of the items.
  refine ⟨map.entries, .refl _, ?_⟩
  rw [hmap, hother, List.forall₂_map_left_iff, List.forall₂_map_right_iff]
  refine (firsts_rel (fun a b hab => congrArg fold (hspelling a b hab)) h).imp ?_
  intro a b hab
  exact ⟨congrArg fold (hspelling a b hab), hspelling a b hab, hvalue a b hab⟩

/-! ## §C Methods and variables -/

/-- Groups that declare the same names one by one declare the same names in all. -/
theorem groups_names {xs ys : List VarDecl} (h : List.Forall₂ VarDecl.SameNames xs ys) :
    xs.flatMap VarDecl.names = ys.flatMap VarDecl.names := by
  have hnames : xs.map VarDecl.names = ys.map VarDecl.names := by
    rw [← List.forall₂_eq_eq_eq, List.forall₂_map_left_iff, List.forall₂_map_right_iff]
    exact h
  rw [List.flatMap_def, hnames, List.flatMap_def]

theorem VarDecl.SameNames.declares {a b : VarDecl} (h : a.SameNames b) (kind : VariableKind) :
    List.Forall₂ Variable.SameName (a.declares kind) (b.declares kind) := by
  have hnames : a.names = b.names := h
  rw [VarDecl.declares, VarDecl.declares, List.forall₂_map_left_iff, List.forall₂_map_right_iff, hnames,
    List.forall₂_same]
  exact fun name _ => ⟨rfl, rfl, rfl⟩

namespace FunctionDecl.SameVariables

variable {a b : FunctionDecl}

theorem redeclarations (h : a.SameVariables b) : a.redeclarations = b.redeclarations := by
  have hdeclared : a.declaredNames = b.declaredNames := by
    rw [FunctionDecl.declaredNames, FunctionDecl.declaredNames, groups_names h.params, groups_names h.locals]
  rw [FunctionDecl.redeclarations, FunctionDecl.redeclarations, h.name, hdeclared]

theorem allVariables (h : a.SameVariables b) :
    List.Forall₂ Variable.SameName a.allVariables b.allVariables := by
  refine .cons ⟨rfl, h.name, congrArg Ident.line h.name⟩ (List.rel_append ?_ ?_)
  · exact List.rel_flatMap h.params fun _ _ hgroup => hgroup.declares .parameter
  · exact List.rel_flatMap h.locals fun _ _ hgroup => hgroup.declares .localVar

theorem walk (h : a.SameVariables b) : a.walk.1.SameVariables b.walk.1 := by
  refine ⟨h.name, a.walk_scope_lists.reordered b.walk_scope_lists ?_ ?_ h.allVariables⟩
  · exact fun _ _ hv => congrArg Ident.spelling hv.name
  · exact fun _ _ hv => hv

end FunctionDecl.SameVariables

/-- What is rejected against the same names, under the same names, is the same. -/
theorem Conflict.forall₂_same {what : Redeclared} {name name' : String} {first first' a b : Ident}
    (hname : name = name') (hfirst : first = first') (h : a = b) :
    List.Forall₂ Eq [(⟨what, name, first.line, a.line, a.span.map Span.label⟩ : Conflict)]
      [⟨what, name', first'.line, b.line, b.span.map Span.label⟩] := by
  rw [hname, hfirst, h]
  exact .cons rfl .nil

namespace ClassDecl.SameMethods

variable {a b : ClassDecl}

/-- **ClassDecl.SameMethods.redeclarations**: the fields, the parent and the types of a class play no part in what is
rejected inside it. -/
theorem redeclarations (h : a.SameMethods b) : a.redeclarations = b.redeclarations := by
  rw [← List.forall₂_eq_eq_eq]
  refine visits_flatMap_rel ?_ .nil h.methods ?_ ?_
  · intro method method' hmethod
    exact congrArg (fun name : Ident => fold name.spelling) hmethod.name
  · intro first first' method method' hfirst hmethod
    exact Conflict.forall₂_same (congrArg Ident.spelling hmethod.name) hfirst.name hmethod.name
  · intro method method' hmethod
    rw [List.forall₂_eq_eq_eq]
    exact hmethod.redeclarations

theorem walk (h : a.SameMethods b) : a.walk.1.SameMethods b.walk.1 := by
  refine ⟨h.name, a.walk_methods_lists.reordered b.walk_methods_lists ?_ ?_ h.methods⟩
  · exact fun _ _ hmethod => congrArg Ident.spelling hmethod.name
  · exact fun _ _ hmethod => hmethod.walk

end ClassDecl.SameMethods

/-! ## §D Fields -/

theorem ClassDecl.SameFields.walk {a b : ClassDecl} (h : a.SameFields b) : a.walk.1.SameFields b.walk.1 := by
  refine ⟨h.name, h.parent, ?_⟩
  show a.walkFields.1 = b.walkFields.1
  rw [ClassDecl.walkFields, ClassDecl.walkFields, ClassDecl.fieldNames, ClassDecl.fieldNames, h.fields]

/-! ## §E Programs -/

namespace Program

variable {p q : Program}

/-- **Program.SameMethods.redeclarations**: what is rejected in a program does not depend on its fields, parents, types
and statements. -/
theorem SameMethods.redeclarations (h : p.SameMethods q) : p.redeclarations = q.redeclarations := by
  rw [← List.forall₂_eq_eq_eq]
  refine visits_flatMap_rel ?_ .nil h.classes ?_ ?_
  · intro cls cls' hcls
    exact congrArg (fun name : Ident => fold name.spelling) hcls.name
  · intro first first' cls cls' hfirst hcls
    exact Conflict.forall₂_same (congrArg Ident.spelling hfirst.name) hfirst.name hcls.name
  · intro cls cls' hcls
    rw [List.forall₂_eq_eq_eq]
    exact hcls.redeclarations

theorem SameMethods.walk (h : p.SameMethods q) : p.analyse.table.SameMethods q.analyse.table := by
  refine ⟨(walkClasses_lists p.classes).reordered (walkClasses_lists q.classes) ?_ ?_ h.classes⟩
  · exact fun _ _ hcls => congrArg Ident.spelling hcls.name
  · exact fun _ _ hcls => hcls.walk

theorem SameFields.walk (h : p.SameFields q) : p.analyse.table.SameFields q.analyse.table := by
  refine ⟨(walkClasses_lists p.classes).reordered (walkClasses_lists q.classes) ?_ ?_ h.classes⟩
  · exact fun _ _ hcls => congrArg Ident.spelling hcls.name
  · exact fun _ _ hcls => hcls.walk

/-- The program with no fields left in its classes. -/
def withoutFields (program : Program) : Program :=
  { program with
    classes := program.classes.map fun cls => { cls with block := { cls.block with fields := [] } } }

theorem withoutFields_sameMethods (program : Program) : program.SameMethods program.withoutFields := by
  refine ⟨rfl, ?_⟩
  rw [withoutFields, List.forall₂_map_right_iff, List.forall₂_same]
  intro cls _
  refine ⟨rfl, List.forall₂_same.mpr ?_⟩
  intro method _
  exact ⟨rfl, List.forall₂_same.mpr fun _ _ => rfl, List.forall₂_same.mpr fun _ _ => rfl⟩

/-- **found_in_method**: what is found inside a method is declared there, as its result, a parameter or a local. -/
theorem found_in_method {className methodName name : String} {cls : ClassTable} {method : MethodTable} {v : Variable}
    (hcls : p.analyse.table.lookupClass className = .ok cls) (hmethod : cls.lookupMethod methodName = .ok method)
    (hv : method.lookupVariable name = .ok v) :
    cls.decl ∈ p.classes ∧ method.decl ∈ cls.decl.block.methods ∧
      v ∈ method.decl.allVariables ∧ fold v.name.spelling = fold name := by
  obtain ⟨c, hc, -, rfl⟩ := (walkClasses_lists p.classes).get_eq_ok_iff.mp hcls
  obtain ⟨m, hm, -, rfl⟩ := c.walk_methods_lists.get_eq_ok_iff.mp hmethod
  obtain ⟨w, hw, hname, rfl⟩ := m.walk_scope_lists.get_eq_ok_iff.mp hv
  exact ⟨mem_of_mem_firsts hc, mem_of_mem_firsts hm, mem_of_mem_firsts hw, hname⟩

/-- **namespaces_apart**: programs that differ only in fields, parents, types and statements have the same conflicts,
diagnostics and outcome, and where they are built the same classes, methods and variables. Programs that differ only in
methods have the same fields where both are built. Without its fields a program has the conflicts it has with them, and
what a name stands for inside a method is declared by the method. -/
theorem namespaces_apart (p : Program) :
    (∀ q, p.SameMethods q →
      p.analyse.conflicts = q.analyse.conflicts ∧ p.analyse.diagnostics = q.analyse.diagnostics ∧
      (∀ failure, p.build = .error failure ↔ q.build = .error failure) ∧
      ∀ t, p.build = .ok t → ∃ u, q.build = .ok u ∧ t.SameMethods u) ∧
    (∀ q t u, p.SameFields q → p.build = .ok t → q.build = .ok u → t.SameFields u) ∧
    p.withoutFields.analyse.conflicts = p.analyse.conflicts ∧
    ∀ t className methodName name cls method v, p.build = .ok t → t.lookupClass className = .ok cls →
      cls.lookupMethod methodName = .ok method → method.lookupVariable name = .ok v →
      cls.decl ∈ p.classes ∧ method.decl ∈ cls.decl.block.methods ∧
        v ∈ method.decl.allVariables ∧ fold v.name.spelling = fold name := by
  refine ⟨?_, ?_, ?_, ?_⟩
  · intro q h
    have hrejected := h.redeclarations
    refine ⟨?_, ?_, ?_, ?_⟩
    · rw [p.conflicts_eq, q.conflicts_eq, hrejected]
    · rw [p.diagnostics_eq, q.diagnostics_eq, hrejected]
    · intro failure
      rw [p.build_eq, q.build_eq, hrejected]
      split
      · rfl
      · simp
    · intro t ht
      have hclean := p.exists_build_iff.mp ⟨t, ht⟩
      rw [hrejected] at hclean
      obtain ⟨u, hu⟩ := q.exists_build_iff.mpr hclean
      obtain ⟨rfl, -⟩ := build_eq_ok_iff.mp ht
      obtain ⟨rfl, -⟩ := build_eq_ok_iff.mp hu
      exact ⟨_, hu, h.walk⟩
  · intro q t u h ht hu
    obtain ⟨rfl, -⟩ := build_eq_ok_iff.mp ht
    obtain ⟨rfl, -⟩ := build_eq_ok_iff.mp hu
    exact h.walk
  · rw [conflicts_eq, conflicts_eq, p.withoutFields_sameMethods.redeclarations]
  · intro t className methodName name cls method v ht
    obtain ⟨rfl, -⟩ := build_eq_ok_iff.mp ht
    exact found_in_method

end Program

/-- A class with a method, of which the fields, the parent and all types are left open. -/
def booth (fields : List VarDecl) (parent : Option Ident) (type : TypeDenoter) : Program :=
  let sell : FunctionDecl := ⟨.new "Sell" 3, [⟨[.new "price" 3], type⟩], type, ⟨[⟨[.new "stock" 4], type⟩], []⟩⟩
  ⟨.new "Fair" 1, [⟨.new "Booth" 1, parent, ⟨fields, [sell]⟩⟩]⟩

theorem booth_sameMethods (fields fields' : List VarDecl) (parent parent' : Option Ident)
    (type type' : TypeDenoter) : (booth fields parent type).SameMethods (booth fields' parent' type') :=
  ⟨rfl, .cons ⟨rfl, .cons ⟨rfl, .cons rfl .nil, .cons rfl .nil⟩ .nil⟩ .nil⟩

/-- The booth with fields that have the names of its method, of the parameter and of the local. -/
def crowdedBooth : Program :=
  booth [⟨[.new "SELL" 2, .new "Price" 2], .integer⟩, ⟨[.new "STOCK" 2], .char⟩] none .real

/-- Fields with the names of a method, a parameter and a local are in nobody's way. -/
theorem crowdedBooth_apart :
    crowdedBooth.SameMethods (booth [] (some (.new "Stall" 1)) .boolean) ∧
      crowdedBooth.analyse.conflicts = [] ∧
      ∃ t u, crowdedBooth.build = .ok t ∧ (booth [] (some (.new "Stall" 1)) .boolean).build = .ok u ∧
        t.SameMethods u := by
  have hsame : crowdedBooth.SameMethods (booth [] (some (.new "Stall" 1)) .boolean) := booth_sameMethods ..
  obtain ⟨t, ht⟩ := crowdedBooth.exists_build_iff.mpr (by decide +kernel)
  obtain ⟨hmethods, -, hfields, -⟩ := crowdedBooth.namespaces_apart
  obtain ⟨-, -, -, hbuilt⟩ := hmethods _ hsame
  obtain ⟨u, hu, htables⟩ := hbuilt t ht
  refine ⟨hsame, ?_, t, u, ht, hu, htables⟩
  rw [← hfields]
  decide +kernel

end ScopeTable
