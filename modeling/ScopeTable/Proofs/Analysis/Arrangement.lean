/-
# ScopeTable.Proofs.Analysis.Arrangement -- how a listing is arranged, whatever the order of its table

A table holds its entries in some order, and a listing must not show it. `Reordered` is the relation between tables
that differ in that order only, in every map of every scope independently. `Arranged` says how the rows of a listing
stand: every entry has one row, what belongs to an entry follows it before the next entry of its kind, and the entries
of a scope come in strictly increasing order.

Strictness is what makes the order of the table irrelevant: sorting leaves no choice where no two keys are equal
(`SortsBy.mergeSort_eq`). It holds because the items that a walk enters into one scope have different folds, and so
it is proved of the tables of walks, level by level, and holds of every table that is built (`listing_arranged`).
-/
import Mathlib.Data.Prod.Lex
import Mathlib.Data.List.Sort
import Mathlib.Data.String.Basic
import ScopeTable.Analysis.Listing
import ScopeTable.Proofs.Analysis.AnyOrder
import ScopeTable.Proofs.Analysis.Contents

namespace ScopeTable

open Text

variable {α β V K : Type}

/-! ## §A Sorting by keys -/

section SortsBy

variable [LinearOrder K] {le : α → α → Bool} {key : α → K} {xs ys : List α}

/-- The test compares items by their keys. -/
def SortsBy (le : α → α → Bool) (key : α → K) : Prop := ∀ a b, le a b = decide (key a ≤ key b)

theorem SortsBy.mergeSort_sorted (h : SortsBy le key) (xs : List α) :
    (xs.mergeSort le).Pairwise fun a b => key a ≤ key b := by
  have hsorted : (xs.mergeSort le).Pairwise fun a b => le a b = true := by
    apply List.pairwise_mergeSort
    · intro a b c hab hbc
      rw [h, decide_eq_true_iff] at hab hbc ⊢
      exact hab.trans hbc
    · intro a b
      rw [h, h, Bool.or_eq_true, decide_eq_true_iff, decide_eq_true_iff]
      exact le_total _ _
  exact hsorted.imp fun hab => by rwa [h, decide_eq_true_iff] at hab

/-- **SortsBy.mergeSort_increasing**: where no two keys are equal, they increase strictly. -/
theorem SortsBy.mergeSort_increasing (h : SortsBy le key) (hkeys : (xs.map key).Nodup) :
    (xs.mergeSort le).Pairwise fun a b => key a < key b := by
  have hnodup : ((xs.mergeSort le).map key).Nodup :=
    ((xs.mergeSort_perm le).map key).nodup_iff.mpr hkeys
  have hne : (xs.mergeSort le).Pairwise fun a b => key a ≠ key b := List.pairwise_map.mp hnodup
  exact (h.mergeSort_sorted xs).imp₂ (fun _ _ hle hne => lt_of_le_of_ne hle hne) hne

/-- **SortsBy.mergeSort_eq**: where no two keys are equal, the order before sorting plays no part. -/
theorem SortsBy.mergeSort_eq (h : SortsBy le key) (hperm : xs.Perm ys) (hkeys : (xs.map key).Nodup) :
    xs.mergeSort le = ys.mergeSort le := by
  refine List.Perm.eq_of_pairwise ?_ (h.mergeSort_sorted xs) (h.mergeSort_sorted ys)
    ((xs.mergeSort_perm le).trans (hperm.trans (ys.mergeSort_perm le).symm))
  intro a b ha hb hab hba
  exact List.inj_on_of_nodup_map hkeys (List.mem_mergeSort.mp ha)
    (hperm.mem_iff.mpr (List.mem_mergeSort.mp hb)) (le_antisymm hab hba)

/-- **SortsBy.flatMap_eq**: lists of items that give the same sections under the same keys, in whatever order, give the
same sections when they are sorted. -/
theorem SortsBy.flatMap_eq (h : SortsBy le key) {rows : α → List β}
    (hperm : (xs.map fun x => (key x, rows x)).Perm (ys.map fun y => (key y, rows y)))
    (hkeys : (xs.map key).Nodup) :
    (xs.mergeSort le).flatMap rows = (ys.mergeSort le).flatMap rows := by
  let byKey : K × List β → K × List β → Bool := fun a b => a.1 ≤ b.1
  have hbyKey : SortsBy byKey Prod.fst := fun _ _ => rfl
  have hsections : ∀ items : List α, (items.mergeSort le).flatMap rows =
      ((items.map fun x => (key x, rows x)).mergeSort byKey).flatMap Prod.snd := by
    intro items
    rw [← List.map_mergeSort fun a _ b _ => h a b, List.flatMap_map]
  have hfirst : ((xs.map fun x => (key x, rows x)).map Prod.fst).Nodup := by
    rw [List.map_map]
    exact hkeys
  rw [hsections, hsections, hbyKey.mergeSort_eq hperm hfirst]

end SortsBy

/-! ## §B The orders of a listing -/

theorem nameOrder_sortsBy (spelling : α → String) :
    SortsBy (fun a b => nameOrder (spelling a) (spelling b)) fun a => fold (spelling a) := by
  intro a b
  simp [nameOrder]

/-- What the variables of a method are ordered by: their kind, then their line, then their folded name. -/
def Variable.sortKey (v : Variable) : ℕ ×ₗ ℕ ×ₗ String :=
  toLex (v.kind.rank, toLex (v.line.toNat, fold v.name.spelling))

theorem variableOrder_sortsBy : SortsBy variableOrder Variable.sortKey := by
  intro a b
  rw [variableOrder, Bool.eq_iff_iff, decide_eq_true_iff, Variable.sortKey, Variable.sortKey,
    Prod.Lex.toLex_le_toLex, Prod.Lex.toLex_le_toLex]
  by_cases hrank : a.kind.rank = b.kind.rank
  · by_cases hline : a.line = b.line
    · simp [hrank, hline, nameOrder]
    · have hlines : a.line.toNat ≠ b.line.toNat := fun h => hline (UInt64.toNat_inj.mp h)
      simp [hrank, hline, hlines, UInt64.lt_iff_toNat_lt]
  · simp [hrank]

/-! ## §C Tables in another order, and arranged rows -/

/-- An entry of the same key and spelling, with a value that is related. -/
structure Entry.Matches (R : V → V → Prop) (e f : Entry V) : Prop where
  key : e.key = f.key
  spelling : e.spelling = f.spelling
  value : R e.value f.value

/-- The same entries in any order, with values that are related. -/
def NameMap.Reordered (R : V → V → Prop) (a b : NameMap V) : Prop :=
  ∃ entries, a.entries.Perm entries ∧ List.Forall₂ (Entry.Matches R) entries b.entries

/-- The same method with its variables in any order. -/
structure MethodTable.Reordered (a b : MethodTable) : Prop where
  decl : a.decl = b.decl
  scope : a.scope.Reordered Eq b.scope

/-- The same class with its fields and its methods in any order, and the variables of each method. -/
structure ClassTable.Reordered (a b : ClassTable) : Prop where
  decl : a.decl = b.decl
  fields : a.fields.Reordered Eq b.fields
  methods : a.methods.Reordered MethodTable.Reordered b.methods

/-- The same table with its classes in any order, and all that is in them. -/
structure SymbolTable.Reordered (a b : SymbolTable) : Prop where
  classes : a.classes.Reordered ClassTable.Reordered b.classes

/-- The rows of a method: its own, then one for each of its variables in strictly increasing order, of which the
result comes first. -/
inductive MethodTable.Arranged (method : MethodTable) : List Row → Prop where
  | mk {members : List Variable}
    (hmembers : (method.decl.result :: members).Perm method.scope.values)
    (hincreasing : (method.decl.result :: members).Pairwise fun v w => v.sortKey < w.sortKey) :
    Arranged method (method.row :: (method.decl.result :: members).map Variable.row)

/-- The rows of a class: its own, then one for each of its fields and then those of each of its methods, both in
strictly increasing order of their folded names. -/
inductive ClassTable.Arranged (cls : ClassTable) : List Row → Prop where
  | mk {fields : List (String × VarDecl)} {methods : List MethodTable} {sections : List (List Row)}
    (hfields : fields.Perm cls.fields.toList)
    (hfieldsIncreasing : fields.Pairwise fun f g => fold f.1 < fold g.1)
    (hmethods : methods.Perm cls.methods.values)
    (hmethodsIncreasing : methods.Pairwise fun m n => fold m.name.spelling < fold n.name.spelling)
    (hsections : List.Forall₂ MethodTable.Arranged methods sections) :
    Arranged cls (cls.row :: fields.map (fun f => .ofField f.1 f.2.type) ++ sections.flatten)

/-- The rows of a table: those of each of its classes, in strictly increasing order of their folded names. -/
inductive SymbolTable.Arranged (table : SymbolTable) : List Row → Prop where
  | mk {classes : List ClassTable} {sections : List (List Row)}
    (hclasses : classes.Perm table.classes.values)
    (hincreasing : classes.Pairwise fun c d => fold c.name.spelling < fold d.name.spelling)
    (hsections : List.Forall₂ ClassTable.Arranged classes sections) :
    Arranged table sections.flatten

/-- **Reordered.map_perm**: what the entries are seen as is the same, in some order, when entries that match are seen
as the same. -/
theorem NameMap.Reordered.map_perm {R : V → V → Prop} {a b : NameMap V} (h : a.Reordered R b)
    {view : Entry V → β} (hview : ∀ e ∈ a.entries, ∀ f, Entry.Matches R e f → view e = view f) :
    (a.entries.map view).Perm (b.entries.map view) :=
  PermutedBy.map_perm hview h

theorem NameMap.Reordered.perm {a b : NameMap V} (h : a.Reordered Eq b) : a.entries.Perm b.entries := by
  have hview : ∀ e ∈ a.entries, ∀ f, Entry.Matches Eq e f → id e = id f := by
    rintro ⟨key, spelling, value⟩ _ ⟨_, _, _⟩ ⟨rfl, rfl, rfl⟩
    rfl
  have hperm := h.map_perm hview
  rwa [List.map_id, List.map_id] at hperm

/-- **Reordered.sections_eq**: the sections of the values, in the order of their names, are the same when related
values have one name and the same section, and no two of them one fold. -/
theorem NameMap.Reordered.sections_eq {R : V → V → Prop} {a b : NameMap V} (h : a.Reordered R b)
    (spelling : V → String) (rows : V → List β)
    (hsame : ∀ v ∈ a.values, ∀ w, R v w → spelling v = spelling w ∧ rows v = rows w)
    (hkeys : (a.values.map fun v => fold (spelling v)).Nodup) :
    (a.values.mergeSort fun v w => nameOrder (spelling v) (spelling w)).flatMap rows =
      (b.values.mergeSort fun v w => nameOrder (spelling v) (spelling w)).flatMap rows := by
  refine (nameOrder_sortsBy spelling).flatMap_eq ?_ hkeys
  rw [NameMap.values, NameMap.values, List.map_map, List.map_map]
  apply h.map_perm
  intro e he f hef
  obtain ⟨hspelling, hrows⟩ := hsame e.value (List.mem_map_of_mem he) f.value hef.value
  show (fold (spelling e.value), rows e.value) = (fold (spelling f.value), rows f.value)
  rw [hspelling, hrows]

/-! ## §D The rows of a method -/

/-- Where folds are different, so are the keys that variables are sorted by. -/
theorem sortKeys_nodup {members : List Variable} (h : Distinct Variable.spelling members) :
    (members.map Variable.sortKey).Nodup := by
  refine List.Nodup.of_map (fun key => (ofLex (ofLex key).2).2) ?_
  rw [List.map_map]
  exact h

namespace FunctionDecl

theorem walk_values (method : FunctionDecl) :
    method.walk.1.scope.values = firsts Variable.spelling method.allVariables := by
  rw [method.walk_scope_lists.values_eq, List.map_id']

theorem walk_sortKeys_nodup (method : FunctionDecl) :
    (method.walk.1.scope.values.map Variable.sortKey).Nodup := by
  rw [walk_values]
  exact sortKeys_nodup (firsts_distinct _)

theorem declared_rank {method : FunctionDecl} {v : Variable} (h : v ∈ method.declared) :
    0 < v.kind.rank := by
  rw [declared, List.mem_append, List.mem_flatMap, List.mem_flatMap] at h
  rcases h with ⟨group, _, hv⟩ | ⟨group, _, hv⟩
  · obtain ⟨name, _, rfl⟩ := List.mem_map.mp hv
    exact Nat.zero_lt_one
  · obtain ⟨name, _, rfl⟩ := List.mem_map.mp hv
    exact Nat.zero_lt_two

/-- **walk_result_first**: the result stands before all other variables. -/
theorem walk_result_first (method : FunctionDecl) :
    ∃ members, method.walk.1.scope.values.mergeSort variableOrder = method.result :: members := by
  have hincreasing := variableOrder_sortsBy.mergeSort_increasing method.walk_sortKeys_nodup
  have hresult : method.result ∈ method.walk.1.scope.values.mergeSort variableOrder := by
    rw [List.mem_mergeSort, walk_values, mem_firsts_iff]
    exact ⟨[], method.declared, rfl, fun _ h => nomatch h⟩
  cases hsorted : method.walk.1.scope.values.mergeSort variableOrder with
  | nil =>
    rw [hsorted] at hresult
    cases hresult
  | cons v members =>
    have hmem : v ∈ method.allVariables := by
      have hv : v ∈ method.walk.1.scope.values.mergeSort variableOrder := hsorted ▸ List.mem_cons_self
      rw [List.mem_mergeSort, walk_values, mem_firsts_iff] at hv
      obtain ⟨before, after, hall, -⟩ := hv
      rw [hall]
      exact List.mem_append_right _ List.mem_cons_self
    rcases List.mem_cons.mp hmem with rfl | hdeclared
    · exact ⟨members, rfl⟩
    · -- A parameter or a local cannot stand before the result, whose kind is the least.
      rw [hsorted] at hresult hincreasing
      rcases List.mem_cons.mp hresult with rfl | hlater
      · exact ⟨members, rfl⟩
      · have hlt := (List.pairwise_cons.mp hincreasing).1 _ hlater
        rw [Variable.sortKey, Variable.sortKey, Prod.Lex.toLex_lt_toLex] at hlt
        have hrank := declared_rank hdeclared
        have hzero : method.result.kind.rank = 0 := rfl
        omega

/-- **FunctionDecl.walk_arranged**: the rows of a method are arranged. -/
theorem walk_arranged (method : FunctionDecl) : method.walk.1.Arranged method.walk.1.rows := by
  obtain ⟨members, hsorted⟩ := method.walk_result_first
  have hincreasing := variableOrder_sortsBy.mergeSort_increasing method.walk_sortKeys_nodup
  have hperm := List.mergeSort_perm method.walk.1.scope.values variableOrder
  rw [hsorted] at hincreasing hperm
  rw [MethodTable.rows, hsorted]
  exact .mk hperm hincreasing

/-- **FunctionDecl.rows_reordered**: the rows of a method do not depend on the order of its variables. -/
theorem rows_reordered {method : FunctionDecl} {other : MethodTable}
    (h : method.walk.1.Reordered other) : other.rows = method.walk.1.rows := by
  have hrow : method.walk.1.row = other.row := by
    rw [MethodTable.row, MethodTable.row, MethodTable.name, MethodTable.name, h.decl]
  have hsorted : method.walk.1.scope.values.mergeSort variableOrder =
      other.scope.values.mergeSort variableOrder :=
    variableOrder_sortsBy.mergeSort_eq (h.scope.perm.map Entry.value) method.walk_sortKeys_nodup
  rw [MethodTable.rows, MethodTable.rows, hrow, hsorted]

end FunctionDecl

/-! ## §E The rows of a class -/

namespace ClassDecl

theorem walk_toList (cls : ClassDecl) :
    cls.walk.1.fields.toList =
      (firsts FieldName.spelling cls.fieldNames).map fun field => (field.spelling, field.group) :=
  cls.walk_fields_lists.toList_eq

theorem walk_values (cls : ClassDecl) :
    cls.walk.1.methods.values =
      (firsts FunctionDecl.spelling cls.block.methods).map fun method => method.walk.1 :=
  cls.walk_methods_lists.values_eq

theorem walk_fieldKeys_nodup (cls : ClassDecl) :
    (cls.walk.1.fields.toList.map fun field => fold field.1).Nodup := by
  rw [walk_toList, List.map_map]
  exact firsts_distinct cls.fieldNames

theorem walk_methodKeys_nodup (cls : ClassDecl) :
    (cls.walk.1.methods.values.map fun method => fold method.name.spelling).Nodup := by
  rw [walk_values, List.map_map]
  exact firsts_distinct cls.block.methods

/-- **ClassDecl.walk_arranged**: the rows of a class are arranged. -/
theorem walk_arranged (cls : ClassDecl) : cls.walk.1.Arranged cls.walk.1.rows := by
  have hfields := nameOrder_sortsBy (Prod.fst : String × VarDecl → String)
  have hmethods := nameOrder_sortsBy fun method : MethodTable => method.name.spelling
  rw [ClassTable.rows, List.flatMap_def]
  refine .mk (List.mergeSort_perm _ _) (hfields.mergeSort_increasing cls.walk_fieldKeys_nodup)
    (List.mergeSort_perm _ _) (hmethods.mergeSort_increasing cls.walk_methodKeys_nodup) ?_
  rw [List.forall₂_map_right_iff, List.forall₂_same]
  intro method hmethod
  rw [List.mem_mergeSort, walk_values] at hmethod
  obtain ⟨decl, -, rfl⟩ := List.mem_map.mp hmethod
  exact decl.walk_arranged

/-- **ClassDecl.rows_reordered**: the rows of a class do not depend on the order of its members. -/
theorem rows_reordered {cls : ClassDecl} {other : ClassTable} (h : cls.walk.1.Reordered other) :
    other.rows = cls.walk.1.rows := by
  have hrow : cls.walk.1.row = other.row := by
    rw [ClassTable.row, ClassTable.row, ClassTable.name, ClassTable.name, ClassTable.parent,
      ClassTable.parent, h.decl]
  have hfields : cls.walk.1.fields.toList.mergeSort (fun a b => nameOrder a.1 b.1) =
      other.fields.toList.mergeSort fun a b => nameOrder a.1 b.1 :=
    (nameOrder_sortsBy Prod.fst).mergeSort_eq (h.fields.perm.map _) cls.walk_fieldKeys_nodup
  have hmethods := h.methods.sections_eq (fun method => method.name.spelling) MethodTable.rows ?_
    cls.walk_methodKeys_nodup
  · rw [ClassTable.rows, ClassTable.rows, hrow, hfields, hmethods]
  · rw [walk_values]
    intro method hmethod other hreordered
    obtain ⟨decl, -, rfl⟩ := List.mem_map.mp hmethod
    refine ⟨?_, (FunctionDecl.rows_reordered hreordered).symm⟩
    rw [MethodTable.name, MethodTable.name, hreordered.decl]

end ClassDecl

/-! ## §F The rows of a table -/

namespace Program

theorem walk_values (program : Program) :
    program.analyse.table.classes.values =
      (firsts ClassDecl.spelling program.classes).map fun cls => cls.walk.1 :=
  (walkClasses_lists program.classes).values_eq

theorem walk_classKeys_nodup (program : Program) :
    (program.analyse.table.classes.values.map fun cls => fold cls.name.spelling).Nodup := by
  rw [walk_values, List.map_map]
  exact firsts_distinct program.classes

/-- **Program.walk_arranged**: the rows of the table of a walk are arranged. -/
theorem walk_arranged (program : Program) :
    program.analyse.table.Arranged program.analyse.table.rows := by
  have hclasses := nameOrder_sortsBy fun cls : ClassTable => cls.name.spelling
  rw [SymbolTable.rows, List.flatMap_def]
  refine .mk (List.mergeSort_perm _ _) (hclasses.mergeSort_increasing program.walk_classKeys_nodup) ?_
  rw [List.forall₂_map_right_iff, List.forall₂_same]
  intro cls hcls
  rw [List.mem_mergeSort, walk_values] at hcls
  obtain ⟨decl, -, rfl⟩ := List.mem_map.mp hcls
  exact decl.walk_arranged

/-- **Program.rows_reordered**: the rows of the table of a walk do not depend on the order of its entries. -/
theorem rows_reordered {program : Program} {other : SymbolTable}
    (h : program.analyse.table.Reordered other) : other.rows = program.analyse.table.rows := by
  refine (h.classes.sections_eq (fun cls => cls.name.spelling) ClassTable.rows ?_
    program.walk_classKeys_nodup).symm
  rw [walk_values]
  intro cls hcls other hreordered
  obtain ⟨decl, -, rfl⟩ := List.mem_map.mp hcls
  refine ⟨?_, (ClassDecl.rows_reordered hreordered).symm⟩
  rw [ClassTable.name, ClassTable.name, hreordered.decl]

/-- **listing_arranged**: in the listing of a program that is built every entry has one row; members follow their
owner; classes, fields and methods come in strictly increasing order of their folded names, and the variables of a
method in that of their kind, line and folded name, the result first. Every row is written as one line: blanks, the
text of the row, and one line break. Whatever the order in which a table holds the same entries, the same lines are
written, and the same of them to a writer that fails. -/
theorem listing_arranged {program : Program} {table : SymbolTable} (h : program.build = .ok table) :
    table.Arranged table.rows ∧
      ∀ other, table.Reordered other →
        other.rows = table.rows ∧
        other.listing = String.join (table.rows.map fun row =>
          String.ofList (List.replicate row.depth ' ') ++ row.text ++ "\n") ∧
        ∀ (ω ε : Type) (out : PieceWriter ω ε) (held : ω), other.render out held = table.render out held := by
  obtain ⟨rfl, -⟩ := build_eq_ok_iff.mp h
  refine ⟨program.walk_arranged, ?_⟩
  intro other hreordered
  have hrows := rows_reordered hreordered
  refine ⟨hrows, ?_, ?_⟩
  · rw [SymbolTable.listing_eq, hrows]
    exact congrArg String.join (List.map_congr_left fun row _ => row.written_eq)
  · intro ω ε out held
    rw [SymbolTable.render, SymbolTable.render, hrows]

end Program

/-! ## §G A table that is read backwards -/

/-- The entries in the opposite order, with values that are changed. -/
def NameMap.backwards (change : V → V) (map : NameMap V) : NameMap V :=
  ⟨(map.entries.map fun entry => { entry with value := change entry.value }).reverse⟩

theorem NameMap.backwards_reordered {R : V → V → Prop} {change : V → V} (h : ∀ v, R v (change v))
    (map : NameMap V) : map.Reordered R (map.backwards change) := by
  refine ⟨map.entries.reverse, (List.reverse_perm _).symm, ?_⟩
  rw [backwards, ← List.map_reverse, List.forall₂_map_right_iff, List.forall₂_same]
  exact fun entry _ => ⟨rfl, rfl, h entry.value⟩

/-- The method with its variables in the opposite order. -/
def MethodTable.backwards (method : MethodTable) : MethodTable :=
  { method with scope := method.scope.backwards id }

/-- The class with its members in the opposite order, and the variables of each method. -/
def ClassTable.backwards (cls : ClassTable) : ClassTable :=
  { cls with
    fields := cls.fields.backwards id
    methods := cls.methods.backwards MethodTable.backwards }

/-- The table with its classes in the opposite order, and all that is in them. -/
def SymbolTable.backwards (table : SymbolTable) : SymbolTable :=
  ⟨table.classes.backwards ClassTable.backwards⟩

/-- **SymbolTable.backwards_reordered**: a table read backwards holds the same entries. -/
theorem SymbolTable.backwards_reordered (table : SymbolTable) : table.Reordered table.backwards := by
  have hmethod : ∀ method : MethodTable, method.Reordered method.backwards := fun method =>
    ⟨rfl, NameMap.backwards_reordered (fun _ => rfl) method.scope⟩
  have hclass : ∀ cls : ClassTable, cls.Reordered cls.backwards := fun cls =>
    ⟨rfl, NameMap.backwards_reordered (fun _ => rfl) cls.fields,
      NameMap.backwards_reordered hmethod cls.methods⟩
  exact ⟨NameMap.backwards_reordered hclass table.classes⟩

/-- The table of `bank` has two fields to put in order, and a method with three variables. Read backwards it has the
same listing. -/
theorem bank_listing_arranged :
    bank.build = .ok bank.analyse.table ∧ bank.analyse.table.Reordered bank.analyse.table.backwards ∧
      bank.analyse.table.Arranged bank.analyse.table.rows ∧
      bank.analyse.table.backwards.listing = bank.analyse.table.listing := by
  have hreordered := bank.analyse.table.backwards_reordered
  obtain ⟨harranged, hsame⟩ := Program.listing_arranged bank_built
  obtain ⟨-, -, hrender⟩ := hsame _ hreordered
  exact ⟨bank_built, hreordered, harranged, congrArg Prod.fst (hrender String Empty .string "")⟩

end ScopeTable
