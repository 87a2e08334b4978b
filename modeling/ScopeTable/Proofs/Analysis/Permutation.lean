/-
# ScopeTable.Proofs.Analysis.Permutation -- the order of declarations where nothing is declared twice

A walk keeps the first declaration of a name, so order matters where names are repeated, and only there. Here two
programs are compared of which one is the other with its classes, the members of each class, the groups of each method
and the names in each group put into any order, at every level independently. If nothing is declared twice in the one,
nothing is in the other; every look-up designates the same declaration in both tables, and both have the same listing
(`Program.order_irrelevant`).

Every level of the declarations is a case of `PermutedBy`, and so is what a level shows: its names, its variables, its
sections of the listing. That the listings are equal is then a matter of sorting by keys of which no two are equal.
-/
import ScopeTable.Proofs.Analysis.Arrangement
import ScopeTable.Proofs.Analysis.Composition

namespace ScopeTable

open Text

/-! ## §A Declarations in any order -/

/-- Groups of one type with the same names in any order. -/
structure VarDecl.Permuted (a b : VarDecl) : Prop where
  names : a.names.Perm b.names
  type : a.type = b.type

/-- Methods that differ in the order of their groups of parameters and of their groups of locals, and in the order of
the names in each group. -/
structure FunctionDecl.Permuted (a b : FunctionDecl) : Prop where
  name : a.name = b.name
  params : PermutedBy VarDecl.Permuted a.params b.params
  returnType : a.returnType = b.returnType
  locals : PermutedBy VarDecl.Permuted a.block.locals b.block.locals
  body : a.block.body = b.block.body

/-- Classes that differ in the order of their groups of fields and of their methods, and inside these. -/
structure ClassDecl.Permuted (a b : ClassDecl) : Prop where
  name : a.name = b.name
  parent : a.parent = b.parent
  fields : PermutedBy VarDecl.Permuted a.block.fields b.block.fields
  methods : PermutedBy FunctionDecl.Permuted a.block.methods b.block.methods

/-- Programs that differ in the order of their classes, and inside these. -/
structure Program.Permuted (p q : Program) : Prop where
  name : p.name = q.name
  classes : PermutedBy ClassDecl.Permuted p.classes q.classes

/-- No two names of fields of the class have one fold. -/
def ClassDecl.FieldsDistinct (cls : ClassDecl) : Prop := Distinct FieldName.spelling cls.fieldNames

/-! ## §B Names and variables in any order -/

theorem VarDecl.Permuted.declares {a b : VarDecl} (h : a.Permuted b) (kind : VariableKind) :
    (a.declares kind).Perm (b.declares kind) := by
  rw [VarDecl.declares, VarDecl.declares, h.type]
  exact h.names.map _

/-- What permuted groups give is permuted if it is group by group. -/
theorem groups_perm {β : Type} {f : VarDecl → List β} (hgroup : ∀ a b : VarDecl, a.Permuted b → (f a).Perm (f b))
    {xs ys : List VarDecl} (h : PermutedBy VarDecl.Permuted xs ys) : (xs.flatMap f).Perm (ys.flatMap f) :=
  (h.flatMap fun a _ b _ hab => .of_perm (hgroup a b hab)).perm

namespace FunctionDecl.Permuted

variable {a b : FunctionDecl}

theorem declaredNames (h : a.Permuted b) : a.declaredNames.Perm b.declaredNames :=
  (groups_perm (fun _ _ => VarDecl.Permuted.names) h.params).append
    (groups_perm (fun _ _ => VarDecl.Permuted.names) h.locals)

theorem allVariables (h : a.Permuted b) : a.allVariables.Perm b.allVariables := by
  have hnamed : a.namedVariables.Perm b.namedVariables :=
    (groups_perm (fun _ _ hgroup => hgroup.declares .parameter) h.params).append
      (groups_perm (fun _ _ hgroup => hgroup.declares .localVar) h.locals)
  rw [FunctionDecl.allVariables, FunctionDecl.allVariables, h.name, h.returnType]
  exact hnamed.cons _

/-- **FunctionDecl.Permuted.consistent**: no name is repeated in a method in which none is in another order. -/
theorem consistent (h : a.Permuted b) (ha : a.Consistent) : b.Consistent := by
  rw [Consistent, ← h.name]
  exact (PermutedBy.of_perm (h.declaredNames.append_left [a.name])).distinct (fun _ _ => congrArg _) ha

end FunctionDecl.Permuted

namespace ClassDecl.Permuted

variable {a b : ClassDecl}

theorem consistent (h : a.Permuted b) (ha : a.Consistent) : b.Consistent := by
  refine ⟨h.methods.distinct (fun _ _ hmethod => congrArg Ident.spelling hmethod.name) ha.1, ?_⟩
  intro method hmethod
  obtain ⟨method', hmethod', hpermuted⟩ := h.methods.exists_left hmethod
  exact hpermuted.consistent (ha.2 method' hmethod')

/-- The names of the fields are the same in any order, each in a group with the same names. -/
theorem fieldNames (h : a.Permuted b) :
    PermutedBy (fun f g : FieldName => f.name = g.name ∧ f.group.Permuted g.group) a.fieldNames b.fieldNames := by
  refine h.fields.flatMap ?_
  intro group _ group' _ hgroup
  -- First the names are put into the other order, in the old group; then the group is exchanged.
  refine ⟨group'.names.map fun name => ⟨name, group⟩, hgroup.names.map _, ?_⟩
  rw [List.forall₂_map_left_iff, List.forall₂_map_right_iff, List.forall₂_same]
  exact fun name _ => ⟨rfl, hgroup⟩

theorem fieldsDistinct (h : a.Permuted b) (ha : a.FieldsDistinct) : b.FieldsDistinct :=
  h.fieldNames.distinct (fun _ _ hfield => congrArg Ident.spelling hfield.1) ha

end ClassDecl.Permuted

/-- **Program.Permuted.redeclarations**: where nothing is rejected, nothing is in another order. -/
theorem Program.Permuted.redeclarations {p q : Program} (h : p.Permuted q) (hp : p.redeclarations = []) :
    q.redeclarations = [] := by
  rw [Program.redeclarations_eq_nil_iff] at hp ⊢
  refine ⟨h.classes.distinct (fun _ _ hcls => congrArg Ident.spelling hcls.name) hp.1, ?_⟩
  intro cls hcls
  obtain ⟨cls', hcls', hpermuted⟩ := h.classes.exists_left hcls
  exact hpermuted.consistent (hp.2 cls' hcls')

/-! ## §C Tables that correspond -/

/-- Tables of one method up to order, in which every name stands for the same variable or for none. -/
structure MethodTable.Corresponds (t u : MethodTable) : Prop where
  decl : t.decl.Permuted u.decl
  lookupVariable : ∀ name, t.lookupVariable name = u.lookupVariable name

/-- Groups that are the same up to order, in which the name stands for the same identifier. -/
structure VarDecl.DesignateAlike (name : String) (a b : VarDecl) : Prop where
  group : a.Permuted b
  identifier : ∃ declared, firstNamed Ident.spelling a.names name = some declared ∧
    firstNamed Ident.spelling b.names name = some declared

/-- Tables of one class up to order, in which every name stands for the same field and the same method up to order, or
for none. -/
structure ClassTable.Corresponds (t u : ClassTable) : Prop where
  decl : t.decl.Permuted u.decl
  lookupField : ∀ name,
    Option.Rel (VarDecl.DesignateAlike name) (t.lookupField name).toOption (u.lookupField name).toOption
  fieldSpelling : ∀ name, t.fields.spelling? name = u.fields.spelling? name
  lookupMethod : ∀ name,
    Option.Rel MethodTable.Corresponds (t.lookupMethod name).toOption (u.lookupMethod name).toOption

/-- Tables in which every name stands for the same class up to order, or for none. -/
structure SymbolTable.Corresponds (t u : SymbolTable) : Prop where
  lookupClass : ∀ name,
    Option.Rel ClassTable.Corresponds (t.lookupClass name).toOption (u.lookupClass name).toOption

theorem FunctionDecl.Permuted.walk {a b : FunctionDecl} (h : a.Permuted b) (ha : a.Consistent) :
    a.walk.1.Corresponds b.walk.1 := by
  refine ⟨h, ?_⟩
  intro name
  have hvariable := firstNamed_perm h.allVariables ha.distinct name
  have hmethod : a.walk.1.name = b.walk.1.name := h.name
  rw [MethodTable.lookupVariable, MethodTable.lookupVariable, NameMap.get, NameMap.get,
    a.walk_scope_lists.get?_eq, b.walk_scope_lists.get?_eq, hvariable, hmethod]

namespace ClassDecl.Permuted

variable {a b : ClassDecl}

/-- A name stands for the same field in groups that are the same up to order, or for none. -/
theorem firstNamed_field (h : a.Permuted b) (hfields : a.FieldsDistinct) (name : String) :
    Option.Rel (fun f g : FieldName => f.name = g.name ∧ VarDecl.DesignateAlike name f.group g.group)
      (firstNamed FieldName.spelling a.fieldNames name) (firstNamed FieldName.spelling b.fieldNames name) := by
  refine optionRel_imp
    (h.fieldNames.firstNamed_rel (fun _ _ hfield => congrArg Ident.spelling hfield.1) hfields name) ?_
  -- The name of the field is in both groups, and it is the same occurrence of it.
  rintro f g hf hg ⟨hname, hgroup⟩
  obtain ⟨hf, hfname⟩ := firstNamed_eq_some_iff.mp hf
  obtain ⟨hg, hgname⟩ := firstNamed_eq_some_iff.mp hg
  have hdeclared := find?_group_names hg hgname
  rw [← hname] at hdeclared
  exact ⟨hname, hgroup, f.name, find?_group_names hf hfname, hdeclared⟩

/-- A name stands for methods whose tables correspond, or for none. -/
theorem firstNamed_method (h : a.Permuted b) (ha : a.Consistent) (name : String) :
    Option.Rel (fun m n : FunctionDecl => m.walk.1.Corresponds n.walk.1)
      (firstNamed FunctionDecl.spelling a.block.methods name)
      (firstNamed FunctionDecl.spelling b.block.methods name) := by
  refine optionRel_imp
    (h.methods.firstNamed_rel (fun _ _ hmethod => congrArg Ident.spelling hmethod.name) ha.1 name) ?_
  intro method method' hfound _ hpermuted
  exact hpermuted.walk (ha.2 method (List.mem_of_find?_eq_some hfound))

/-- **ClassDecl.Permuted.walk**: the walks over a class and over the same class up to order leave tables that
correspond. -/
theorem walk (h : a.Permuted b) (ha : a.Consistent) (hfields : a.FieldsDistinct) :
    a.walk.1.Corresponds b.walk.1 := by
  refine ⟨h, ?_, ?_, ?_⟩
  · intro name
    exact a.walk_fields_lists.lookup_rel b.walk_fields_lists (fun _ _ hfield => hfield.2)
      (h.firstNamed_field hfields name)
  · intro name
    rw [a.walk_fields_lists.spelling?_eq, b.walk_fields_lists.spelling?_eq]
    exact optionRel_map_eq (fun _ _ hfield => congrArg Ident.spelling hfield.1) (h.firstNamed_field hfields name)
  · intro name
    exact a.walk_methods_lists.lookup_rel b.walk_methods_lists (fun _ _ hmethod => hmethod)
      (h.firstNamed_method ha name)

end ClassDecl.Permuted

/-! ## §D Rows in one order -/

theorem FunctionDecl.Permuted.rows {a b : FunctionDecl} (h : a.Permuted b) (ha : a.Consistent) :
    a.walk.1.rows = b.walk.1.rows := by
  have hrow : a.walk.1.row = b.walk.1.row := by
    show Row.ofMethod a.name a.returnType = .ofMethod b.name b.returnType
    rw [h.name, h.returnType]
  have hvalues : a.walk.1.scope.values.Perm b.walk.1.scope.values := by
    -- Nothing is repeated in either method, so nothing is left out in either order.
    rw [a.walk_values, b.walk_values, firsts_eq_self ha.distinct, firsts_eq_self (h.consistent ha).distinct]
    exact h.allVariables
  rw [MethodTable.rows, MethodTable.rows, hrow,
    variableOrder_sortsBy.mergeSort_eq hvalues a.walk_sortKeys_nodup]

namespace ClassDecl.Permuted

variable {a b : ClassDecl}

/-- The fields are seen the same in any order, each with its spelling and its row. -/
theorem fieldRows (h : a.Permuted b) (hfields : a.FieldsDistinct) :
    (a.walk.1.fields.toList.mergeSort fun f g => nameOrder f.1 g.1).map (fun f => Row.ofField f.1 f.2.type) =
      (b.walk.1.fields.toList.mergeSort fun f g => nameOrder f.1 g.1).map fun f => Row.ofField f.1 f.2.type := by
  rw [List.map_eq_flatMap, List.map_eq_flatMap]
  refine (nameOrder_sortsBy Prod.fst).flatMap_eq ?_ a.walk_fieldKeys_nodup
  rw [a.walk_toList, b.walk_toList, firsts_eq_self hfields, firsts_eq_self (h.fieldsDistinct hfields), List.map_map,
    List.map_map]
  refine h.fieldNames.map_perm ?_
  -- What is sorted is compared together with the key it is sorted by.
  rintro f - g ⟨hname, hgroup⟩
  show (fold f.name.spelling, [Row.ofField f.name.spelling f.group.type]) =
    (fold g.name.spelling, [Row.ofField g.name.spelling g.group.type])
  rw [hname, hgroup.type]

theorem methodRows (h : a.Permuted b) (ha : a.Consistent) :
    (a.walk.1.methods.values.mergeSort fun m n => nameOrder m.name.spelling n.name.spelling).flatMap
        MethodTable.rows =
      (b.walk.1.methods.values.mergeSort fun m n => nameOrder m.name.spelling n.name.spelling).flatMap
        MethodTable.rows := by
  refine (nameOrder_sortsBy fun m : MethodTable => m.name.spelling).flatMap_eq ?_ a.walk_methodKeys_nodup
  rw [a.walk_values, b.walk_values, firsts_eq_self ha.1, firsts_eq_self (h.consistent ha).1, List.map_map,
    List.map_map]
  refine h.methods.map_perm ?_
  intro m hm n hmn
  show (fold m.name.spelling, m.walk.1.rows) = (fold n.name.spelling, n.walk.1.rows)
  rw [hmn.name, hmn.rows (ha.2 m hm)]

/-- **ClassDecl.Permuted.rows**: a class without repetition has the same rows in any order. -/
theorem rows (h : a.Permuted b) (ha : a.Consistent) (hfields : a.FieldsDistinct) :
    a.walk.1.rows = b.walk.1.rows := by
  have hrow : a.walk.1.row = b.walk.1.row := by
    show Row.ofClass a.name a.parent = .ofClass b.name b.parent
    rw [h.name, h.parent]
  rw [ClassTable.rows, ClassTable.rows, hrow, h.fieldRows hfields, h.methodRows ha]

end ClassDecl.Permuted

/-! ## §E Programs without repetition -/

namespace Program

variable {p q : Program}

/-- **Program.Permuted.walk**: the walks over a program without repetition and over the same program up to order leave
tables that correspond. -/
theorem Permuted.walk (h : p.Permuted q) (hp : p.redeclarations = [])
    (hfields : ∀ cls ∈ p.classes, cls.FieldsDistinct) : p.analyse.table.Corresponds q.analyse.table := by
  obtain ⟨hclasses, hconsistent⟩ := p.redeclarations_eq_nil_iff.mp hp
  constructor
  intro name
  have hp : p.analyse.table.classes.Lists ClassDecl.spelling (fun c => c.walk.1) p.classes :=
    walkClasses_lists p.classes
  have hq : q.analyse.table.classes.Lists ClassDecl.spelling (fun c => c.walk.1) q.classes :=
    walkClasses_lists q.classes
  have hfound : Option.Rel (fun c d : ClassDecl => c.walk.1.Corresponds d.walk.1)
      (firstNamed ClassDecl.spelling p.classes name) (firstNamed ClassDecl.spelling q.classes name) := by
    refine optionRel_imp
      (h.classes.firstNamed_rel (fun _ _ hcls => congrArg Ident.spelling hcls.name) hclasses name) ?_
    intro cls cls' hcls _ hpermuted
    have hmem : cls ∈ p.classes := List.mem_of_find?_eq_some hcls
    exact hpermuted.walk (hconsistent cls hmem) (hfields cls hmem)
  exact hp.lookup_rel hq (fun _ _ hcls => hcls) hfound

/-- **Program.Permuted.rows**: a program without repetition has the same rows in any order. -/
theorem Permuted.rows (h : p.Permuted q) (hp : p.redeclarations = [])
    (hfields : ∀ cls ∈ p.classes, cls.FieldsDistinct) : p.analyse.table.rows = q.analyse.table.rows := by
  have hq := h.redeclarations hp
  rw [redeclarations_eq_nil_iff] at hp hq
  refine (nameOrder_sortsBy fun cls : ClassTable => cls.name.spelling).flatMap_eq ?_ p.walk_classKeys_nodup
  rw [p.walk_values, q.walk_values, firsts_eq_self hp.1, firsts_eq_self hq.1, List.map_map, List.map_map]
  refine h.classes.map_perm ?_
  intro c hc d hcd
  show (fold c.name.spelling, c.walk.1.rows) = (fold d.name.spelling, d.walk.1.rows)
  rw [hcd.name, hcd.rows (hp.2 c hc) (hfields c hc)]

/-- **order_irrelevant**: if a program is built without any diagnostic and no class has two fields of one name, then so
is every program that differs from it in order only. Every name stands for the same declaration in both tables or for
none, at every level, and the listings are the same. -/
theorem order_irrelevant {table : SymbolTable} (hbuild : p.build = .ok table) (hclean : p.analyse.diagnostics = [])
    (hfields : ∀ cls ∈ p.classes, (cls.fieldNames.map fun field => fold field.name.spelling).Nodup)
    (h : p.Permuted q) :
    ∃ other, q.build = .ok other ∧ q.analyse.diagnostics = [] ∧ table.Corresponds other ∧
      other.listing = table.listing := by
  rw [diagnostics_eq, List.map_eq_nil_iff] at hclean
  have hq := h.redeclarations hclean
  obtain ⟨other, hother⟩ := exists_build hq
  obtain ⟨rfl, -⟩ := build_eq_ok_iff.mp hbuild
  obtain ⟨rfl, -⟩ := build_eq_ok_iff.mp hother
  refine ⟨_, hother, ?_, h.walk hclean hfields, ?_⟩
  · rw [diagnostics_eq, hq]
    rfl
  · rw [SymbolTable.listing_eq, SymbolTable.listing_eq, h.rows hclean hfields]

end Program

/-! ## §F A program that is read backwards -/

theorem PermutedBy.reverse {α : Type} {R : α → α → Prop} {f : α → α} (h : ∀ a, R a (f a)) (items : List α) :
    PermutedBy R items (items.map f).reverse := by
  refine ⟨items.reverse, (List.reverse_perm items).symm, ?_⟩
  rw [← List.map_reverse, List.forall₂_map_right_iff, List.forall₂_same]
  exact fun a _ => h a

/-- The group with its names in the opposite order. -/
def VarDecl.reversed (group : VarDecl) : VarDecl := { group with names := group.names.reverse }

/-- The groups in the opposite order, and the names in each of them. -/
def reversedGroups (groups : List VarDecl) : List VarDecl := (groups.map VarDecl.reversed).reverse

/-- The method with its parameters and its locals in the opposite order. -/
def FunctionDecl.reversed (method : FunctionDecl) : FunctionDecl :=
  { method with
    params := reversedGroups method.params
    block := { method.block with locals := reversedGroups method.block.locals } }

/-- The class with its fields and its methods in the opposite order, and all that is in them. -/
def ClassDecl.reversed (cls : ClassDecl) : ClassDecl :=
  { cls with
    block :=
      { fields := reversedGroups cls.block.fields
        methods := (cls.block.methods.map FunctionDecl.reversed).reverse } }

/-- The program with its classes in the opposite order, and all that is in them. -/
def Program.reversed (program : Program) : Program :=
  { program with classes := (program.classes.map ClassDecl.reversed).reverse }

/-- **Program.reversed_permuted**: a program read backwards differs in order only. -/
theorem Program.reversed_permuted (program : Program) : program.Permuted program.reversed := by
  have hgroups : ∀ groups, PermutedBy VarDecl.Permuted groups (reversedGroups groups) :=
    PermutedBy.reverse fun group => ⟨(List.reverse_perm group.names).symm, rfl⟩
  have hmethod : ∀ method : FunctionDecl, method.Permuted method.reversed := fun method =>
    ⟨rfl, hgroups method.params, rfl, hgroups method.block.locals, rfl⟩
  have hclass : ∀ cls : ClassDecl, cls.Permuted cls.reversed := fun cls =>
    ⟨rfl, rfl, hgroups cls.block.fields, PermutedBy.reverse hmethod cls.block.methods⟩
  exact ⟨rfl, PermutedBy.reverse hclass program.classes⟩

/-- A program in which nothing is declared twice, with something to put in another order at every level. -/
def harbour : Program :=
  let dock : FunctionDecl :=
    ⟨.new "Dock" 4, [⟨[.new "ship" 4, .new "pilot" 4], .named (.new "Ship" 4)⟩, ⟨[.new "toll" 4], .real⟩], .boolean,
      ⟨[⟨[.new "free" 5], .integer⟩, ⟨[.new "Berth" 6, .new "anchor" 6], .char⟩], []⟩⟩
  ⟨.new "Harbour" 1,
    [⟨.new "Quay" 2, none,
      ⟨[⟨[.new "length" 3, .new "depth" 3], .real⟩, ⟨[.new "Name" 3], .char⟩],
        [dock, ⟨.new "clear" 7, [], .integer, .empty⟩]⟩⟩,
      ⟨.new "Ship" 8, some (.new "Vessel" 8), .empty⟩]⟩

/-- The harbour read backwards is built as well, and its listing is the same. -/
theorem harbour_reversed :
    harbour.build = .ok harbour.analyse.table ∧ harbour.analyse.diagnostics = [] ∧
      (∀ cls ∈ harbour.classes, (cls.fieldNames.map fun field => fold field.name.spelling).Nodup) ∧
      harbour.Permuted harbour.reversed ∧ harbour.reversed ≠ harbour ∧
      ∃ other, harbour.reversed.build = .ok other ∧ harbour.analyse.table.Corresponds other ∧
        other.listing = harbour.analyse.table.listing := by
  have hclean : harbour.redeclarations = [] := by decide +kernel
  have hdiagnostics : harbour.analyse.diagnostics = [] := by
    rw [Program.diagnostics_eq, hclean]
    rfl
  have hbuild : harbour.build = .ok harbour.analyse.table := by
    rw [Program.build_eq, hclean]
    rfl
  have hfields : ∀ cls ∈ harbour.classes, (cls.fieldNames.map fun field => fold field.name.spelling).Nodup := by
    decide +kernel
  have hother : harbour.reversed ≠ harbour := by
    intro heq
    have hnames := congrArg (fun program => program.classes.map ClassDecl.spelling) heq
    exact absurd hnames (by decide)
  obtain ⟨other, hbuilt, -, hcorresponds, hlisting⟩ :=
    Program.order_irrelevant hbuild hdiagnostics hfields harbour.reversed_permuted
  exact ⟨hbuild, hdiagnostics, hfields, harbour.reversed_permuted, hother, other, hbuilt, hcorresponds, hlisting⟩

end ScopeTable
