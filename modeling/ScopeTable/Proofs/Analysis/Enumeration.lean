/-
# ScopeTable.Proofs.Analysis.Enumeration -- what can be looked up is what is enumerated

A scope can be asked in two ways: for one name, or for all that it holds. The look-ups go by the keys of its map and
the enumerations by the names in the entries, and nothing in a map alone says that these agree. `Agrees` is what it is
that they do: a look-up finds an entry exactly when the enumeration has one of that name, there is then only one, and a
look-up that fails says so in the words of its scope.

A map that lists a scope agrees with its enumeration (`NameMap.Lists.agrees`), because it holds the first item of
every name under the fold of its own spelling. So it is in the tables of walks at every level, and in every table that
is built (`lookups_match_enumerations`).
-/
import ScopeTable.Proofs.Analysis.Contents

namespace ScopeTable

open Text

variable {α β V : Type} {spelling : α → String} {items : List α}

/-! ## §A Enumerations without repetition -/

/-- **Distinct.filter_eq**: where no two items have the same name, each is alone with its name. -/
theorem Distinct.filter_eq (h : Distinct spelling items) {item : α} (hitem : item ∈ items) {name : String}
    (hname : fold (spelling item) = fold name) :
    (items.filter fun other => fold (spelling other) == fold name) = [item] := by
  induction items with
  | nil => cases hitem
  | cons head items ih =>
    obtain ⟨hhead, hitems⟩ := List.nodup_cons.mp h
    rcases List.mem_cons.mp hitem with rfl | htail
    · have hothers : ∀ other ∈ items, ¬(fold (spelling other) == fold name) = true := by
        intro other hother heq
        exact hhead (List.mem_map.mpr ⟨other, hother, (beq_iff_eq.mp heq).trans hname.symm⟩)
      rw [List.filter_cons_of_pos (by simpa using hname), List.filter_eq_nil_iff.mpr hothers]
    · have hother : fold (spelling head) ≠ fold name := by
        intro heq
        exact hhead (List.mem_map.mpr ⟨item, htail, hname.trans heq.symm⟩)
      rw [List.filter_cons_of_neg (by simpa using hother)]
      exact ih hitems htail

/-! ## §B A scope asked in both ways -/

/-- The look-ups in a scope and its enumeration describe the same contents. `named` is the name that an enumerated
item goes by, `content` what a look-up gives of it, and `failure` what is said of a name that has no item. -/
structure Agrees (lookup : String → Except LookupError V) (listed : List β) (named : β → String) (content : β → V)
    (failure : String → LookupError) : Prop where
  /-- What is found is the content of an item of that name, and every item is found by its name, in any case. -/
  found : ∀ name v, lookup name = .ok v ↔ ∃ item ∈ listed, fold (named item) = fold name ∧ content item = v
  /-- What is found is the content of the only item of that name. -/
  only : ∀ name v, lookup name = .ok v →
    ∃ item, content item = v ∧ (listed.filter fun other => fold (named other) == fold name) = [item]
  /-- A look-up fails when no item has the name, and names what was asked for as it was asked for. -/
  failed : ∀ name e, lookup name = .error e ↔ e = failure name ∧ ∀ item ∈ listed, fold (named item) ≠ fold name

namespace NameMap

variable {value : α → V} {map : NameMap V} {failure : NotFound → LookupError}

/-- **Lists.lookup_eq**: a look-up gives the value of the first item of the name, or the failure if there is none. -/
theorem Lists.lookup_eq (h : map.Lists spelling value items) (name : String) :
    (map.get name).mapError failure =
      match firstNamed spelling items name with
      | some item => .ok (value item)
      | none => .error (failure ⟨name⟩) := by
  rw [get, h.get?_eq]
  cases firstNamed spelling items name with
  | some item => rfl
  | none => rfl

/-- **Lists.agrees**: a map that lists a scope agrees with every enumeration that shows the first items of the scope
under their names and with their values. -/
theorem Lists.agrees (h : map.Lists spelling value items) {listed : List β} {shown : α → β} {named : β → String}
    {content : β → V} (hlisted : listed = (firsts spelling items).map shown)
    (hnamed : ∀ item, named (shown item) = spelling item) (hcontent : ∀ item, content (shown item) = value item) :
    Agrees (fun name => (map.get name).mapError failure) listed named content fun name => failure ⟨name⟩ := by
  subst hlisted
  refine ⟨?_, ?_, ?_⟩
  · intro name v
    rw [h.get_eq_ok_iff]
    simp only [List.mem_map, exists_exists_and_eq_and, hnamed, hcontent]
  · intro name v hv
    obtain ⟨item, hitem, hname, rfl⟩ := h.get_eq_ok_iff.mp hv
    refine ⟨shown item, hcontent item, ?_⟩
    have hshown : ((fun other => fold (named other) == fold name) ∘ shown) =
        fun other => fold (spelling other) == fold name := by
      funext other
      rw [Function.comp_apply, hnamed]
    rw [List.filter_map, hshown, (firsts_distinct items).filter_eq hitem hname, List.map_singleton]
  · intro name e
    simp only [List.forall_mem_map, hnamed]
    rw [h.lookup_eq, ← firstNamed_eq_none_iff, firstNamed_firsts]
    cases firstNamed spelling items name with
    | some item => simp
    | none => simp [eq_comm]

end NameMap

/-! ## §C The scopes of a walk -/

namespace FunctionDecl

theorem walk_agrees (method : FunctionDecl) :
    Agrees method.walk.1.lookupVariable method.walk.1.variableList Prod.fst Prod.snd
      (.undefinedVariable method.spelling) :=
  method.walk_scope_lists.agrees method.walk_scope_lists.toList_eq (fun _ => rfl) fun _ => rfl

/-- The variables of a method are enumerated under the spellings of their own identifiers. -/
theorem walk_variables_named (method : FunctionDecl) {entry : String × Variable}
    (h : entry ∈ method.walk.1.variableList) : entry.1 = entry.2.name.spelling := by
  rw [MethodTable.variableList, method.walk_scope_lists.toList_eq] at h
  obtain ⟨v, -, rfl⟩ := List.mem_map.mp h
  rfl

end FunctionDecl

namespace ClassDecl

theorem walk_fields_agree (cls : ClassDecl) :
    Agrees cls.walk.1.lookupField cls.walk.1.fieldList Prod.fst Prod.snd (.undefinedField cls.spelling) :=
  cls.walk_fields_lists.agrees cls.walk_fields_lists.toList_eq (fun _ => rfl) fun _ => rfl

theorem walk_methods_agree (cls : ClassDecl) :
    Agrees cls.walk.1.lookupMethod cls.walk.1.methodList (fun method => method.name.spelling) id
      (.undefinedMethod cls.spelling) :=
  cls.walk_methods_lists.agrees cls.walk_methods_lists.values_eq (fun _ => rfl) fun _ => rfl

end ClassDecl

namespace Program

theorem walk_classes_agree (program : Program) :
    Agrees program.analyse.table.lookupClass program.analyse.table.classList (fun cls => cls.name.spelling) id
      .undefinedClass :=
  (walkClasses_lists program.classes).agrees (walkClasses_lists program.classes).values_eq (fun _ => rfl) fun _ => rfl

theorem containsClass_iff (program : Program) (name : String) :
    program.analyse.table.containsClass name = true ↔ ∃ cls, program.analyse.table.lookupClass name = .ok cls := by
  have hclasses := walkClasses_lists program.classes
  have hlookup : program.analyse.table.lookupClass name = _ := hclasses.lookup_eq name
  have hcontains : program.analyse.table.containsClass name = _ := congrArg Option.isSome (hclasses.find?_eq name)
  rw [hcontains, hlookup]
  cases firstNamed ClassDecl.spelling program.classes name with
  | some cls => simp
  | none => simp

/-! ## §D Tables that are built -/

/-- **lookups_match_enumerations**: in a table that is built, look-ups and enumerations describe the same contents: its
classes, and in every class that is found its fields and methods, and in every method that is found its variables. A
failed look-up names the class or method it was made in as it is declared, however that was asked for. -/
theorem lookups_match_enumerations {program : Program} {table : SymbolTable} (h : program.build = .ok table) :
    Agrees table.lookupClass table.classList (fun cls => cls.name.spelling) id .undefinedClass ∧
      (∀ name, table.containsClass name = true ↔ ∃ cls, table.lookupClass name = .ok cls) ∧
      ∀ className cls, table.lookupClass className = .ok cls →
        cls.decl ∈ program.classes ∧
        Agrees cls.lookupField cls.fieldList Prod.fst Prod.snd (.undefinedField cls.decl.name.spelling) ∧
        Agrees cls.lookupMethod cls.methodList (fun method => method.name.spelling) id
          (.undefinedMethod cls.decl.name.spelling) ∧
        ∀ methodName method, cls.lookupMethod methodName = .ok method →
          method.decl ∈ cls.decl.block.methods ∧
          Agrees method.lookupVariable method.variableList Prod.fst Prod.snd
            (.undefinedVariable method.decl.name.spelling) ∧
          ∀ entry ∈ method.variableList, entry.1 = entry.2.name.spelling := by
  obtain ⟨rfl, -⟩ := build_eq_ok_iff.mp h
  refine ⟨program.walk_classes_agree, program.containsClass_iff, ?_⟩
  intro className cls hcls
  obtain ⟨decl, hdecl, -, rfl⟩ := (walkClasses_lists program.classes).get_eq_ok_iff.mp hcls
  refine ⟨mem_of_mem_firsts hdecl, decl.walk_fields_agree, decl.walk_methods_agree, ?_⟩
  intro methodName method hmethod
  obtain ⟨own, hown, -, rfl⟩ := decl.walk_methods_lists.get_eq_ok_iff.mp hmethod
  exact ⟨mem_of_mem_firsts hown, own.walk_agrees, fun _ => own.walk_variables_named⟩

end Program

/-- `bank` is asked for its class in capitals. A field of the class is found under its third spelling, and what is found
is enumerated; and where something is missing, the class is named as it is declared. -/
theorem bank_fields_enumerated :
    bank.build = .ok bank.analyse.table ∧
      ∃ cls, bank.analyse.table.lookupClass "ACCOUNT" = .ok cls ∧
        (∃ entry ∈ cls.fieldList, fold entry.1 = fold "Owner" ∧ cls.lookupField "Owner" = .ok entry.2) ∧
        cls.lookupField "Balance" = .error (.undefinedField "Account" "Balance") := by
  have hfirst : bank.classes.head nofun ∈ firsts ClassDecl.spelling bank.classes :=
    mem_firsts_iff.mpr ⟨[], _, rfl, nofun⟩
  have hcls : bank.analyse.table.lookupClass "ACCOUNT" = .ok (bank.classes.head nofun).walk.1 :=
    (walkClasses_lists bank.classes).get_eq_ok_iff.mpr ⟨_, hfirst, by decide +kernel, rfl⟩
  obtain ⟨-, -, hmembers⟩ := Program.lookups_match_enumerations bank_built
  obtain ⟨-, hfields, -⟩ := hmembers "ACCOUNT" _ hcls
  refine ⟨bank_built, _, hcls, ?_, (hfields.failed _ _).mpr ⟨rfl, by decide +kernel⟩⟩
  cases hfound : (bank.classes.head nofun).walk.1.lookupField "Owner" with
  | ok group =>
    obtain ⟨entry, hentry, hname, rfl⟩ := (hfields.found _ _).mp hfound
    exact ⟨entry, hentry, hname, rfl⟩
  | error e =>
    have hnone := ((hfields.failed _ _).mp hfound).2
    exact absurd hnone (by decide +kernel)

end ScopeTable
