/-
# ScopeTable.Proofs.Analysis.CaseVariants -- programs that differ in the case of their names only

Two programs are case variants of each other when one is the other with some ASCII letters of its declared
names in another case, every occurrence on its own. Nothing that is compared or looked up can tell them
apart: they are built or rejected together, their conflicts agree one by one, and their tables give the same
answers, of which each designates the declaration that stands in the same place (`caseVariants_indistinguishable`).

The statement is about two walks at once. What carries it through the four kinds of scopes is one relation
between the lists of declarations, item by item: names that fold alike on both sides are visited alike
(`visits_rel`) and found alike (`firstNamed_rel`).
-/
import ScopeTable.Proofs.Analysis.Contents
import ScopeTable.Proofs.Analysis.Lockstep
import ScopeTable.Proofs.Text.AsciiCase

namespace ScopeTable

open Text

/-! ## §A Case variants -/

/-- The same occurrence of a name, spelled with ASCII letters of any case. -/
structure Ident.CaseVariant (a b : Ident) : Prop where
  spelling : Text.CaseVariant a.spelling b.spelling
  line : a.line = b.line
  span : a.span = b.span

/-- Groups of one type that declare case variants of the same names. -/
structure VarDecl.CaseVariant (a b : VarDecl) : Prop where
  names : List.Forall₂ Ident.CaseVariant a.names b.names
  type : a.type = b.type

/-- Methods that differ only in the case of the names they declare, their own included. -/
structure FunctionDecl.CaseVariant (a b : FunctionDecl) : Prop where
  name : a.name.CaseVariant b.name
  params : List.Forall₂ VarDecl.CaseVariant a.params b.params
  returnType : a.returnType = b.returnType
  locals : List.Forall₂ VarDecl.CaseVariant a.block.locals b.block.locals
  body : a.block.body = b.block.body

/-- Classes that differ only in the case of the names they declare, their own included. -/
structure ClassDecl.CaseVariant (a b : ClassDecl) : Prop where
  name : a.name.CaseVariant b.name
  parent : a.parent = b.parent
  fields : List.Forall₂ VarDecl.CaseVariant a.block.fields b.block.fields
  methods : List.Forall₂ FunctionDecl.CaseVariant a.block.methods b.block.methods

/-- Programs that differ only in the case of the names they declare. -/
structure Program.CaseVariant (a b : Program) : Prop where
  name : a.name = b.name
  classes : List.Forall₂ ClassDecl.CaseVariant a.classes b.classes

/-- Variables of one kind, type and line with case variants of one name. -/
structure Variable.CaseVariant (a b : Variable) : Prop where
  kind : a.kind = b.kind
  name : a.name.CaseVariant b.name
  type : a.type = b.type
  line : a.line = b.line

/-- Conflicts that agree in all but the case of the name they quote. -/
structure Conflict.CaseVariant (a b : Conflict) : Prop where
  what : a.what = b.what
  name : Text.CaseVariant a.name b.name
  firstLine : a.firstLine = b.firstLine
  line : a.line = b.line
  label : a.label = b.label

/-! ## §B Items in the same place -/

section Lists

variable {α β : Type} {R : α → β → Prop} {xs : List α} {ys : List β}

/-- The two items stand in the same place of the two lists. -/
def SamePlace (xs : List α) (ys : List β) (a : α) (b : β) : Prop :=
  ∃ i : Nat, xs[i]? = some a ∧ ys[i]? = some b

theorem SamePlace.cons {a : α} {b : β} (x : α) (y : β) (h : SamePlace xs ys a b) :
    SamePlace (x :: xs) (y :: ys) a b := by
  obtain ⟨i, ha, hb⟩ := h
  exact ⟨i + 1, ha, hb⟩

/-- Lists that are related item by item are related so that items in the same place belong together. -/
theorem forall₂_samePlace (h : List.Forall₂ R xs ys) :
    List.Forall₂ (fun a b => R a b ∧ SamePlace xs ys a b) xs ys := by
  induction h with
  | nil => exact .nil
  | @cons x y xs ys hxy _ ih =>
    refine .cons ⟨hxy, 0, rfl, rfl⟩ (ih.imp ?_)
    rintro a b ⟨hab, hplace⟩
    exact ⟨hab, hplace.cons x y⟩

end Lists

/-! ## §C The declarations of case variants -/

theorem Ident.CaseVariant.fold_eq {a b : Ident} (h : a.CaseVariant b) :
    fold a.spelling = fold b.spelling := h.spelling.fold_eq

theorem FunctionDecl.CaseVariant.declaredNames {a b : FunctionDecl} (h : a.CaseVariant b) :
    List.Forall₂ Ident.CaseVariant a.declaredNames b.declaredNames :=
  List.rel_append (List.rel_flatMap h.params fun _ _ => VarDecl.CaseVariant.names)
    (List.rel_flatMap h.locals fun _ _ => VarDecl.CaseVariant.names)

theorem VarDecl.CaseVariant.declares {a b : VarDecl} (h : a.CaseVariant b) (kind : VariableKind) :
    List.Forall₂ Variable.CaseVariant (a.declares kind) (b.declares kind) :=
  List.rel_map (fun _ _ hname => ⟨rfl, hname, h.type, hname.line⟩) h.names

/-- The variables of a method and of its case variant correspond. -/
theorem FunctionDecl.CaseVariant.allVariables {a b : FunctionDecl} (h : a.CaseVariant b) :
    List.Forall₂ Variable.CaseVariant a.allVariables b.allVariables := by
  refine .cons ⟨rfl, h.name, h.returnType, h.name.line⟩ (List.rel_append ?_ ?_)
  · exact List.rel_flatMap h.params fun _ _ hgroup => hgroup.declares .parameter
  · exact List.rel_flatMap h.locals fun _ _ hgroup => hgroup.declares .localVar

/-- The fields of a class and of its case variant correspond, and their groups stand in the same place. -/
theorem ClassDecl.CaseVariant.fieldNames {a b : ClassDecl} (h : a.CaseVariant b) :
    List.Forall₂
      (fun f g : FieldName => f.name.CaseVariant g.name ∧ f.group.CaseVariant g.group ∧
        SamePlace a.block.fields b.block.fields f.group g.group)
      a.fieldNames b.fieldNames := by
  refine List.rel_flatMap (forall₂_samePlace h.fields) ?_
  rintro group group' ⟨hgroup, hplace⟩
  exact List.rel_map (fun _ _ hname => ⟨hname, hgroup, hplace⟩) hgroup.names

/-! ## §D The conflicts of case variants -/

theorem Conflict.CaseVariant.fails_eq {a b : Conflict} (h : a.CaseVariant b) : a.fails = b.fails := by
  rw [Conflict.fails, Conflict.fails, h.what]

/-- The same identifier is rejected against the same one, under the same name. -/
theorem Conflict.caseVariant_of {what : Redeclared} {name name' : String} {first first' a b : Ident}
    (hname : Text.CaseVariant name name') (hfirst : first.CaseVariant first') (h : a.CaseVariant b) :
    List.Forall₂ Conflict.CaseVariant [⟨what, name, first.line, a.line, a.span.map Span.label⟩]
      [⟨what, name', first'.line, b.line, b.span.map Span.label⟩] := by
  refine .cons ⟨rfl, hname, hfirst.line, h.line, ?_⟩ .nil
  rw [h.span]

theorem FunctionDecl.CaseVariant.redeclarations {a b : FunctionDecl} (h : a.CaseVariant b) :
    List.Forall₂ Conflict.CaseVariant a.redeclarations b.redeclarations := by
  refine visits_flatMap_rel (fun _ _ => Ident.CaseVariant.fold_eq) (.cons h.name .nil) h.declaredNames ?_ ?_
  · intro first first' name name' hfirst hname
    exact Conflict.caseVariant_of hname.spelling hfirst hname
  · exact fun _ _ _ => .nil

theorem ClassDecl.CaseVariant.redeclarations {a b : ClassDecl} (h : a.CaseVariant b) :
    List.Forall₂ Conflict.CaseVariant a.redeclarations b.redeclarations := by
  refine visits_flatMap_rel (fun _ _ hmethod => hmethod.name.fold_eq) .nil h.methods ?_ ?_
  · intro first first' method method' hfirst hmethod
    exact Conflict.caseVariant_of hmethod.name.spelling hfirst.name hmethod.name
  · exact fun _ _ => FunctionDecl.CaseVariant.redeclarations

/-- **Program.CaseVariant.redeclarations**: what is rejected in a program and in its case variant agrees one by
one. -/
theorem Program.CaseVariant.redeclarations {p q : Program} (h : p.CaseVariant q) :
    List.Forall₂ Conflict.CaseVariant p.redeclarations q.redeclarations := by
  refine visits_flatMap_rel (fun _ _ hcls => hcls.name.fold_eq) .nil h.classes ?_ ?_
  · intro first first' cls cls' hfirst hcls
    exact Conflict.caseVariant_of hfirst.name.spelling hfirst.name hcls.name
  · exact fun _ _ => ClassDecl.CaseVariant.redeclarations

/-! ## §E The tables of case variants -/

/-- Tables of case variants of one method, in which case variants of one name stand for variables of one
kind, type and line that are declared in the same place, or for none. -/
structure MethodTable.Matches (t u : MethodTable) : Prop where
  decl : t.decl.CaseVariant u.decl
  lookupVariable : ∀ name name', Text.CaseVariant name name' →
    Option.Rel
      (fun v w => v.CaseVariant w ∧ SamePlace t.decl.allVariables u.decl.allVariables v w)
      (t.lookupVariable name).toOption (u.lookupVariable name').toOption

/-- Tables of case variants of one class, in which case variants of one name stand for fields and methods that
are declared in the same place, or for none. -/
structure ClassTable.Matches (t u : ClassTable) : Prop where
  decl : t.decl.CaseVariant u.decl
  lookupField : ∀ name name', Text.CaseVariant name name' →
    Option.Rel
      (fun group group' => group.CaseVariant group' ∧
        SamePlace t.decl.block.fields u.decl.block.fields group group')
      (t.lookupField name).toOption (u.lookupField name').toOption
  fieldSpelling : ∀ name name', Text.CaseVariant name name' →
    Option.Rel Text.CaseVariant (t.fields.spelling? name) (u.fields.spelling? name')
  lookupMethod : ∀ name name', Text.CaseVariant name name' →
    Option.Rel
      (fun method method' => method.Matches method' ∧
        SamePlace t.decl.block.methods u.decl.block.methods method.decl method'.decl)
      (t.lookupMethod name).toOption (u.lookupMethod name').toOption

/-- Tables of the two programs in which case variants of one name stand for classes that are declared in the
same place, or for none. -/
structure SymbolTable.Matches (p q : Program) (t u : SymbolTable) : Prop where
  lookupClass : ∀ name name', Text.CaseVariant name name' →
    Option.Rel
      (fun cls cls' => cls.Matches cls' ∧ SamePlace p.classes q.classes cls.decl cls'.decl)
      (t.lookupClass name).toOption (u.lookupClass name').toOption

theorem FunctionDecl.CaseVariant.walk {a b : FunctionDecl} (h : a.CaseVariant b) :
    a.walk.1.Matches b.walk.1 := by
  refine ⟨h, ?_⟩
  intro name name' hname
  have hfirst := firstNamed_rel (s := Variable.spelling) (t := Variable.spelling)
    (fun _ _ hv => hv.1.name.fold_eq) (forall₂_samePlace h.allVariables) hname.fold_eq
  exact a.walk_scope_lists.lookup_rel b.walk_scope_lists (fun _ _ hv => hv) hfirst

theorem ClassDecl.CaseVariant.walk {a b : ClassDecl} (h : a.CaseVariant b) :
    a.walk.1.Matches b.walk.1 := by
  have hfields : ∀ {name name' : String}, Text.CaseVariant name name' → _ := fun hname =>
    firstNamed_rel (s := FieldName.spelling) (t := FieldName.spelling)
      (fun _ _ hfield => hfield.1.fold_eq) h.fieldNames hname.fold_eq
  refine ⟨h, ?_, ?_, ?_⟩
  · intro name name' hname
    exact a.walk_fields_lists.lookup_rel b.walk_fields_lists (fun _ _ hfield => hfield.2) (hfields hname)
  · intro name name' hname
    rw [a.walk_fields_lists.spelling?_eq, b.walk_fields_lists.spelling?_eq]
    exact optionRel_map (fun _ _ hfield => hfield.1.spelling) (hfields hname)
  · intro name name' hname
    have hfirst := firstNamed_rel (s := FunctionDecl.spelling) (t := FunctionDecl.spelling)
      (fun _ _ hmethod => hmethod.1.name.fold_eq) (forall₂_samePlace h.methods) hname.fold_eq
    exact a.walk_methods_lists.lookup_rel b.walk_methods_lists
      (fun _ _ hmethod => ⟨hmethod.1.walk, hmethod.2⟩) hfirst

/-- **Program.CaseVariant.walk**: the walks over a program and over its case variant leave tables that match. -/
theorem Program.CaseVariant.walk {p q : Program} (h : p.CaseVariant q) :
    p.analyse.table.Matches p q q.analyse.table := by
  constructor
  intro name name' hname
  have hp : p.analyse.table.classes.Lists ClassDecl.spelling (fun c => c.walk.1) p.classes :=
    walkClasses_lists p.classes
  have hq : q.analyse.table.classes.Lists ClassDecl.spelling (fun c => c.walk.1) q.classes :=
    walkClasses_lists q.classes
  have hfirst := firstNamed_rel (s := ClassDecl.spelling) (t := ClassDecl.spelling)
    (fun _ _ hcls => hcls.1.name.fold_eq) (forall₂_samePlace h.classes) hname.fold_eq
  exact hp.lookup_rel hq (fun _ _ hcls => ⟨hcls.1.walk, hcls.2⟩) hfirst

/-! ## §F Programs in which no one can tell case apart -/

/-- **caseVariants_indistinguishable**: a program and a case variant of it are built or rejected together, with
conflicts that agree one by one, and where they are built every path of look-ups, in any case, succeeds in both
tables or in none and designates declarations in the same place. -/
theorem Program.caseVariants_indistinguishable {p q : Program} (h : p.CaseVariant q) :
    ((∃ t, p.build = .ok t) ↔ ∃ u, q.build = .ok u) ∧
      List.Forall₂ Conflict.CaseVariant p.analyse.conflicts q.analyse.conflicts ∧
      ∀ t u, p.build = .ok t → q.build = .ok u → t.Matches p q u := by
  have hconflicts := h.redeclarations
  have hfails : p.redeclarations.any Conflict.fails = q.redeclarations.any Conflict.fails :=
    forall₂_any_eq (fun _ _ => Conflict.CaseVariant.fails_eq) hconflicts
  refine ⟨?_, ?_, ?_⟩
  · rw [p.build_eq, q.build_eq, hfails]
    cases q.redeclarations.any Conflict.fails with
    | true => simp
    | false => simp
  · rw [p.conflicts_eq, q.conflicts_eq]
    exact hconflicts
  · intro t u ht hu
    obtain ⟨rfl, -⟩ := build_eq_ok_iff.mp ht
    obtain ⟨rfl, -⟩ := build_eq_ok_iff.mp hu
    exact h.walk

/-- A class that is declared again in other letters, and a method that has a parameter, all with a sigma or a
dotted capital I next to ASCII letters. -/
def kiosk : Program :=
  let load : FunctionDecl :=
    ⟨.new "LoadΣ" 3, [⟨[.new "iİi" 3], .boolean⟩], .real, ⟨[⟨[.new "aΣb" 4], .char⟩], []⟩⟩
  let first : ClassDecl :=
    ⟨.new "kİosΣk" 1, none, ⟨[⟨[.new "sΣ" 2, .new "Σs" 2], .integer⟩], [load]⟩⟩
  ⟨.new "Kiosk" 1, [first, ⟨.new "Kİosσk" 9, none, ⟨[], []⟩⟩]⟩

/-- The same with each letter in the other case. -/
def kioskInverted : Program :=
  let load : FunctionDecl :=
    ⟨.new "lOADΣ" 3, [⟨[.new "IİI" 3], .boolean⟩], .real, ⟨[⟨[.new "AΣB" 4], .char⟩], []⟩⟩
  let first : ClassDecl :=
    ⟨.new "KİOSΣK" 1, none, ⟨[⟨[.new "SΣ" 2, .new "ΣS" 2], .integer⟩], [load]⟩⟩
  ⟨.new "Kiosk" 1, [first, ⟨.new "kİOSσK" 9, none, ⟨[], []⟩⟩]⟩

theorem kiosk_caseVariant : kiosk.CaseVariant kioskInverted := by
  have hname : ∀ (a b : String) (line : UInt64), Text.CaseVariant a b →
      (Ident.new a line).CaseVariant (Ident.new b line) := fun _ _ _ h => ⟨h, rfl, rfl⟩
  refine ⟨rfl, .cons ⟨hname _ _ _ (by decide), rfl, ?_, ?_⟩
    (.cons ⟨hname _ _ _ (by decide), rfl, .nil, .nil⟩ .nil)⟩
  · exact .cons ⟨.cons (hname _ _ _ (by decide)) (.cons (hname _ _ _ (by decide)) .nil), rfl⟩ .nil
  · exact .cons
      ⟨hname _ _ _ (by decide), .cons ⟨.cons (hname _ _ _ (by decide)) .nil, rfl⟩ .nil, rfl,
        .cons ⟨.cons (hname _ _ _ (by decide)) .nil, rfl⟩ .nil, rfl⟩ .nil

/-- Both programs are built, each with one conflict, and their tables match. -/
theorem kiosk_indistinguishable :
    kiosk.redeclarations.length = 1 ∧ kiosk.build = .ok kiosk.analyse.table ∧
      kioskInverted.build = .ok kioskInverted.analyse.table ∧
      kiosk.analyse.table.Matches kiosk kioskInverted kioskInverted.analyse.table := by
  have hlength : kiosk.redeclarations.length = 1 := by decide +kernel
  have hbuilt : ∀ p : Program, p.redeclarations.any Conflict.fails = false →
      p.build = .ok p.analyse.table := by
    intro p hclean
    rw [p.build_eq, hclean]
    rfl
  have hkiosk := hbuilt kiosk (by decide +kernel)
  have hinverted := hbuilt kioskInverted (by decide +kernel)
  obtain ⟨-, -, htables⟩ := Program.caseVariants_indistinguishable kiosk_caseVariant
  exact ⟨hlength, hkiosk, hinverted, htables _ _ hkiosk hinverted⟩

end ScopeTable
