/-
# ScopeTable.Proofs.Analysis.Representation -- what is true of the tables at every moment of a walk

The maps of a table refer to one another and to the declarations only by names. `SymbolTable.Sound` says what keeps
them together: every entry stands under the fold of its spelling, the spelling is that of the declaration in the entry,
and that declaration is the first of its name in the scope around it. `SymbolTable.Grows` says that a table has become
another by additions alone.

Neither is a matter of finished tables. Soundness holds of all states of a walk, because `At` shows every map as one
that lists a part of its scope (`Lists.draws`), with at most one incomplete entry behind it (`Lists.draws_insert`). One
thing can be missing: a method that has just been entered has no result yet, and then its scope is empty
(`MethodTable.SoundUnless`).

A visit offers one name to one map, and nothing that is offered or reached takes anything away (`enter_extends`,
`reach_extends`). The result of a method is put in whatever is there; that this only adds to the table as well depends
on where the walk stands (`InClass.visit_grows`).
-/
import ScopeTable.Proofs.Analysis.Repair
import ScopeTable.Proofs.Analysis.Stepwise

namespace ScopeTable

open Text

variable {α V N : Type}

/-! ## §A Sound tables -/

/-- A variable of a method: its result, or an identifier of a group of parameters or of locals, with the type of the
group and the line of the identifier. -/
inductive FunctionDecl.Introduces (method : FunctionDecl) : Variable → Prop where
  | result : Introduces method ⟨.result, method.name, method.returnType, method.name.line⟩
  | parameter {group : VarDecl} {name : Ident} (hgroup : group ∈ method.params) (hname : name ∈ group.names) :
    Introduces method ⟨.parameter, name, group.type, name.line⟩
  | localVar {group : VarDecl} {name : Ident} (hgroup : group ∈ method.block.locals) (hname : name ∈ group.names) :
    Introduces method ⟨.localVar, name, group.type, name.line⟩

/-- The table of a method has only variables of the method, each under its own name. -/
structure MethodTable.Proper (table : MethodTable) : Prop where
  keyed : table.scope.WellKeyed
  scope : ∀ entry ∈ table.scope.entries,
    entry.spelling = entry.value.name.spelling ∧ table.decl.Introduces entry.value

/-- The table of a method has only variables of the method, each under its own name, and of them one result. -/
structure MethodTable.Sound (table : MethodTable) : Prop extends table.Proper where
  result : (table.scope.entries.filter fun entry => entry.value.kind = .result) =
    [⟨fold table.decl.name.spelling, table.decl.name.spelling,
      ⟨.result, table.decl.name, table.decl.returnType, table.decl.name.line⟩⟩]

/-- The table of a method is sound, unless its result is awaited. Then nothing is in its scope. -/
structure MethodTable.SoundUnless (awaited : Prop) (table : MethodTable) : Prop where
  proper : table.Proper
  entered : awaited → table.scope = .empty
  complete : ¬awaited → table.Sound

/-- The table of a class has fields of the class, each with the group whose first identifier of the name has just the
spelling of the entry, and the first method of every name it has, with a table that is as it should be. -/
structure ClassTable.SoundWith (asItShould : MethodTable → Prop) (table : ClassTable) : Prop where
  fieldsKeyed : table.fields.WellKeyed
  fields : ∀ entry ∈ table.fields.entries,
    entry.value ∈ table.decl.block.fields ∧
      ∃ name, (entry.value.names.find? fun declared => fold declared.spelling == fold entry.spelling) = some name ∧
        name.spelling = entry.spelling
  methodsKeyed : table.methods.WellKeyed
  methods : ∀ entry ∈ table.methods.entries,
    entry.spelling = entry.value.decl.name.spelling ∧
      firstNamed FunctionDecl.spelling table.decl.block.methods entry.spelling = some entry.value.decl ∧
      asItShould entry.value

/-- The table of a program has the first class of every name it has, with a table in which those of the methods of the
class are as they should be. -/
structure SymbolTable.SoundWith (asItShould : ClassDecl → MethodTable → Prop) (table : SymbolTable)
    (program : Program) : Prop where
  keyed : table.classes.WellKeyed
  classes : ∀ entry ∈ table.classes.entries,
    entry.spelling = entry.value.decl.name.spelling ∧
      firstNamed ClassDecl.spelling program.classes entry.spelling = some entry.value.decl ∧
      entry.value.SoundWith (asItShould entry.value.decl)

/-- The table of a program in which the tables of all methods are sound. -/
def SymbolTable.Sound (table : SymbolTable) (program : Program) : Prop :=
  table.SoundWith (fun _ => MethodTable.Sound) program

/-- The result of a method of a class is what is visited next. -/
def WalkState.Awaits (state : WalkState) (cls : ClassDecl) (method : FunctionDecl) : Prop :=
  state.pending.head? = some (.ofMember cls (.ofResult method))

/-- Where a walk stands, the table is sound but for the method whose result is visited next. -/
def WalkState.Sound (state : WalkState) (program : Program) : Prop :=
  state.table.SoundWith (fun cls method => method.SoundUnless (state.Awaits cls method.decl)) program

theorem ClassTable.SoundWith.imp {P Q : MethodTable → Prop} {table : ClassTable} (h : table.SoundWith P)
    (himp : ∀ method, P method → Q method) : table.SoundWith Q := by
  refine ⟨h.fieldsKeyed, h.fields, h.methodsKeyed, ?_⟩
  intro entry hentry
  obtain ⟨hspelling, hfirst, hmethod⟩ := h.methods entry hentry
  exact ⟨hspelling, hfirst, himp _ hmethod⟩

/-- **WalkState.Sound.table**: where no result is awaited, the table is sound. -/
theorem WalkState.Sound.table {state : WalkState} {program : Program} (h : state.Sound program)
    (hnone : ∀ cls method, ¬state.Awaits cls method) : state.table.Sound program := by
  refine ⟨h.keyed, ?_⟩
  intro entry hentry
  obtain ⟨hspelling, hfirst, hcls⟩ := h.classes entry hentry
  exact ⟨hspelling, hfirst, hcls.imp fun _ hmethod => hmethod.complete (hnone _ _)⟩

/-! ## §B Maps that draw on a scope -/

namespace NameMap

/-- Every entry of the map is that of the first item of its name in the scope, with its spelling and a value that suits
it. Not every item need have been entered. -/
structure Draws (spelling : α → String) (suits : α → V → Prop) (scope : List α) (map : NameMap V) : Prop where
  keyed : map.WellKeyed
  first : ∀ entry ∈ map.entries, ∃ item,
    firstNamed spelling scope entry.spelling = some item ∧ spelling item = entry.spelling ∧ suits item entry.value

variable {spelling : α → String} {suits : α → V → Prop} {items : List α} {map : NameMap V}

theorem empty_draws (spelling : α → String) (suits : α → V → Prop) (scope : List α) :
    (empty : NameMap V).Draws spelling suits scope := ⟨empty_wellKeyed, nofun⟩

/-- **Lists.draws**: a map that lists the front of a scope draws on the scope. -/
theorem Lists.draws {value : α → V} (h : map.Lists spelling value items)
    (hsuits : ∀ item ∈ items, suits item (value item)) (more : List α) : map.Draws spelling suits (items ++ more) := by
  have hentry : ∀ entry ∈ map.entries, ∃ item ∈ firsts spelling items, entryOf spelling value item = entry := by
    intro entry hentry
    rw [h] at hentry
    exact List.mem_map.mp hentry
  refine ⟨⟨?_, h.keys_nodup⟩, ?_⟩
  · intro entry hmem
    obtain ⟨item, -, rfl⟩ := hentry entry hmem
    rfl
  · intro entry hmem
    obtain ⟨item, hitem, rfl⟩ := hentry entry hmem
    have hfirst : firstNamed spelling items (spelling item) = some item := firstNamed_eq_some_iff.mpr ⟨hitem, rfl⟩
    refine ⟨item, ?_, rfl, hsuits item (mem_of_mem_firsts hitem)⟩
    show firstNamed spelling _ (spelling item) = _
    rw [firstNamed_append, hfirst, Option.some_or]

/-- An item whose name is free is not among those that the map lists. -/
theorem Lists.ne_of_free {value : α → V} {item other : α} (h : map.Lists spelling value items)
    (hfree : map.find? (spelling item) = none) (hother : other ∈ items) : other ≠ item := by
  rintro rfl
  rw [h.find?_eq, Option.map_eq_none_iff, firstNamed, List.find?_eq_none] at hfree
  exact hfree other hother (by simp)

/-- **Lists.draws_insert**: behind a map that lists the front of a scope, the next item of the scope may be entered with
any value that suits it, if its name is free. -/
theorem Lists.draws_insert {value : α → V} {item : α} {v : V} (h : map.Lists spelling value items)
    (hfree : map.find? (spelling item) = none) (hsuits : ∀ item ∈ items, suits item (value item)) (hv : suits item v)
    (rest : List α) : (map.insert (spelling item) v).Draws spelling suits (items ++ item :: rest) := by
  have hfront := h.draws hsuits (item :: rest)
  have hnone : firstNamed spelling items (spelling item) = none := by
    rw [h.find?_eq, Option.map_eq_none_iff] at hfree
    exact hfree
  refine ⟨hfront.keyed.insert _ _, ?_⟩
  intro entry hentry
  rcases mem_insertEntry hentry with rfl | hold
  · refine ⟨item, ?_, rfl, hv⟩
    show firstNamed spelling _ (spelling item) = _
    rw [firstNamed_append, hnone, Option.none_or]
    exact List.find?_cons_of_pos (by simp)
  · exact hfront.first entry hold

end NameMap

/-! ## §C Every state of a walk is sound -/

namespace FunctionDecl

theorem introduces_declared {method : FunctionDecl} {v : Variable} (h : v ∈ method.declared) :
    method.Introduces v ∧ v.kind ≠ .result := by
  rw [declared, List.mem_append, List.mem_flatMap, List.mem_flatMap] at h
  rcases h with ⟨group, hgroup, hv⟩ | ⟨group, hgroup, hv⟩
  · obtain ⟨name, hname, rfl⟩ := List.mem_map.mp hv
    exact ⟨.parameter hgroup hname, by simp⟩
  · obtain ⟨name, hname, rfl⟩ := List.mem_map.mp hv
    exact ⟨.localVar hgroup hname, by simp⟩

theorem scopeAfter_lists (method : FunctionDecl) (seen : List Variable) :
    (method.scopeAfter seen).1.Lists Variable.spelling (fun v => v) (method.result :: seen) :=
  NameMap.register_lists (fun v : Variable => (v, [Event.variableDeclared v])) _ method.result_lists

/-- **scopeAfter_sound**: a method has a sound table from the moment when its result is there. -/
theorem scopeAfter_sound {method : FunctionDecl} {seen coming : List Variable}
    (h : method.declared = seen ++ coming) : (⟨method, (method.scopeAfter seen).1⟩ : MethodTable).Sound := by
  have hlists := method.scopeAfter_lists seen
  have hseen : ∀ v ∈ seen, v ∈ method.declared := by
    intro v hv
    rw [h]
    exact List.mem_append_left coming hv
  have hdraws : NameMap.Draws Variable.spelling Eq _ (method.scopeAfter seen).1 := hlists.draws (fun _ _ => rfl) []
  refine ⟨⟨hdraws.keyed, ?_⟩, ?_⟩
  · intro entry hentry
    obtain ⟨v, hfirst, hspelling, hv⟩ := hdraws.first entry hentry
    rw [List.append_nil] at hfirst
    refine ⟨hv ▸ hspelling.symm, ?_⟩
    rw [← hv]
    rcases List.mem_cons.mp (List.mem_of_find?_eq_some hfirst) with rfl | hmem
    · exact .result
    · exact (introduces_declared (hseen v hmem)).1
  · -- The result stands in front, and what has been entered behind it is a parameter or a local.
    have hfirsts : firsts Variable.spelling (method.result :: seen) =
        method.result :: fresh Variable.spelling [method.result] seen :=
      firsts_append (distinct_singleton method.result)
    have hothers : ∀ v ∈ fresh Variable.spelling [method.result] seen, v.kind ≠ .result := by
      intro v hv
      exact (introduces_declared (hseen v (mem_of_mem_fresh hv))).2
    show List.filter _ (method.scopeAfter seen).1.entries = _
    rw [hlists, hfirsts, List.map_cons]
    refine (List.filter_cons_of_pos (by rfl)).trans (congrArg _ (List.filter_eq_nil_iff.mpr ?_))
    intro entry hentry
    obtain ⟨v, hv, rfl⟩ := List.mem_map.mp hentry
    exact fun hkind => hothers v hv (of_decide_eq_true hkind)

end FunctionDecl

theorem fieldsAfter_lists (visited : List FieldName) :
    (fieldsAfter visited).1.Lists FieldName.spelling FieldName.group visited :=
  NameMap.register_lists (fun f : FieldName => (f.group, [Event.fieldDeclared f])) _ NameMap.lists_empty

theorem methodsAfter_lists (visited : List FunctionDecl) :
    (methodsAfter visited).1.Lists FunctionDecl.spelling (fun m => m.walk.1) visited :=
  NameMap.register_lists FunctionDecl.walk _ NameMap.lists_empty

theorem FunctionDecl.walk_sound (method : FunctionDecl) : method.walk.1.Sound :=
  scopeAfter_sound (List.append_nil _).symm

namespace MethodTable

theorem Sound.unless {table : MethodTable} (h : table.Sound) {awaited : Prop} (hnot : ¬awaited) :
    table.SoundUnless awaited :=
  ⟨h.toProper, fun hawaited => absurd hawaited hnot, fun _ => h⟩

/-- A method that has just been entered awaits its result. -/
theorem entered_soundUnless (method : FunctionDecl) {awaited : Prop} (h : awaited) :
    (⟨method, .empty⟩ : MethodTable).SoundUnless awaited :=
  ⟨⟨NameMap.empty_wellKeyed, nofun⟩, fun _ => rfl, fun hnot => absurd h hnot⟩

end MethodTable

/-- A class has a sound table if its maps draw on its fields and its methods. -/
theorem ClassTable.soundWith_of_draws {table : ClassTable} {P : MethodTable → Prop}
    (hfields : table.fields.Draws FieldName.spelling (fun field group => field.group = group) table.decl.fieldNames)
    (hmethods : table.methods.Draws FunctionDecl.spelling (fun method stored => stored.decl = method ∧ P stored)
      table.decl.block.methods) : table.SoundWith P := by
  refine ⟨hfields.keyed, ?_, hmethods.keyed, ?_⟩
  · intro entry hentry
    obtain ⟨field, hfirst, hspelling, hgroup⟩ := hfields.first entry hentry
    obtain ⟨hmem, hname⟩ := firstNamed_eq_some_iff.mp hfirst
    rw [← hgroup]
    refine ⟨?_, field.name, find?_group_names hmem hname, hspelling⟩
    obtain ⟨group, hmemGroup, hfield⟩ := List.mem_flatMap.mp (mem_of_mem_firsts hmem)
    obtain ⟨name, -, rfl⟩ := List.mem_map.mp hfield
    exact hmemGroup
  · intro entry hentry
    obtain ⟨method, hfirst, hspelling, rfl, hsound⟩ := hmethods.first entry hentry
    exact ⟨hspelling.symm, hfirst, hsound⟩

/-- **InClass.sound**: inside a class, its table is sound after every visit, but for the method whose result is next. -/
theorem InClass.sound {cls : ClassDecl} {table : ClassTable} {members : List ClassMember} {events : List Event}
    (h : InClass cls table members events) :
    table.decl = cls ∧
      table.SoundWith fun method => method.SoundUnless (members.head? = some (.ofResult method.decl)) := by
  have hall : ∀ visited rest, cls.fieldNames = visited ++ rest →
      (fieldsAfter visited).1.Draws FieldName.spelling (fun field group => field.group = group) cls.fieldNames := by
    intro visited rest h
    rw [h]
    exact (fieldsAfter_lists visited).draws (fun _ _ => rfl) rest
  have hcomplete : cls.walkFields.1.Draws FieldName.spelling (fun field group => field.group = group) cls.fieldNames :=
    hall _ [] (List.append_nil _).symm
  cases h with
  | fields h => exact ⟨rfl, ClassTable.soundWith_of_draws (hall _ _ h) (NameMap.empty_draws ..)⟩
  | @methods visited rest h =>
    have hnext : ∀ method, (rest.map ClassMember.ofMethod).head? ≠ some (.ofResult method) := by
      cases rest <;> simp
    refine ⟨rfl, ClassTable.soundWith_of_draws hcomplete ?_⟩
    show NameMap.Draws _ _ cls.block.methods _
    rw [h]
    exact (methodsAfter_lists visited).draws (fun method _ => ⟨rfl, method.walk_sound.unless (hnext _)⟩) rest
  | @atResult visited rest method h hfree =>
    have hlists := methodsAfter_lists visited
    refine ⟨rfl, ClassTable.soundWith_of_draws hcomplete ?_⟩
    show NameMap.Draws _ _ cls.block.methods _
    rw [h]
    refine hlists.draws_insert hfree ?_ ⟨rfl, MethodTable.entered_soundUnless method rfl⟩ rest
    -- The methods before are others, and have their results.
    intro other hother
    refine ⟨rfl, other.walk_sound.unless ?_⟩
    intro hnext
    have hsame : method = other := ClassMember.ofResult.inj (Option.some.inj hnext)
    exact hlists.ne_of_free hfree hother hsame.symm
  | @inMethod visited rest method seen coming h hfree hin =>
    have hnext : ∀ other, (coming.map (ClassMember.ofVariable method) ++ rest.map ClassMember.ofMethod).head? ≠
        some (.ofResult other) := by
      cases coming <;> cases rest <;> simp
    refine ⟨rfl, ClassTable.soundWith_of_draws hcomplete ?_⟩
    show NameMap.Draws _ _ cls.block.methods _
    rw [h]
    exact (methodsAfter_lists visited).draws_insert hfree (fun other _ => ⟨rfl, other.walk_sound.unless (hnext _)⟩)
      ⟨rfl, (FunctionDecl.scopeAfter_sound hin).unless (hnext _)⟩ rest

theorem ClassDecl.walk_sound (cls : ClassDecl) : cls.walk.1.SoundWith MethodTable.Sound := by
  obtain ⟨-, hsound⟩ := (InClass.methods (List.append_nil cls.block.methods).symm).sound
  exact hsound.imp fun _ hmethod => hmethod.complete nofun

/-- **At.sound**: after every visit, the table of a program is sound but for the method whose result is next. -/
theorem At.sound {program : Program} {state : WalkState} (h : At program state) : state.Sound program := by
  have hdraws : ∀ (table : SymbolTable) (P : ClassDecl → MethodTable → Prop),
      table.classes.Draws ClassDecl.spelling (fun cls stored => stored.decl = cls ∧ stored.SoundWith (P cls))
        program.classes →
        table.SoundWith P program := by
    intro table P hclasses
    refine ⟨hclasses.keyed, ?_⟩
    intro entry hentry
    obtain ⟨cls, hfirst, hspelling, rfl, hsound⟩ := hclasses.first entry hentry
    exact ⟨hspelling.symm, hfirst, hsound⟩
  -- The table of a class that has been left, where what is next is not in this class.
  have hleft : ∀ (cls : ClassDecl) (next : Option Visit), (∀ member, next ≠ some (.ofMember cls member)) →
      cls.walk.1.SoundWith fun method => method.SoundUnless (next = some (.ofMember cls (.ofResult method.decl))) :=
    fun cls next hnext => cls.walk_sound.imp fun _ hmethod => hmethod.unless (hnext _)
  apply hdraws
  cases h with
  | @between visited rest h =>
    rw [h]
    refine (walkClasses_lists visited).draws (fun cls _ => ⟨rfl, hleft cls _ ?_⟩) rest
    cases rest <;> simp
  | @inside visited rest cls table members events h hfree hin =>
    obtain ⟨hdecl, hsound⟩ := hin.sound
    have hlists := walkClasses_lists visited
    rw [h]
    refine hlists.draws_insert hfree ?_ ⟨hdecl, hsound.imp ?_⟩ rest
    · intro other hother
      refine ⟨rfl, hleft other _ ?_⟩
      have hne : cls ≠ other := (hlists.ne_of_free hfree hother).symm
      cases members with
      | nil => cases rest <;> simp
      | cons member members => simp [hne]
    · intro method hmethod
      -- What is next in the class is next in the program, or nothing is left in the class.
      have hnext : (members.map (Visit.ofMember cls) ++ rest.map Visit.ofClass).head? =
          some (.ofMember cls (.ofResult method.decl)) ↔ members.head? = some (.ofResult method.decl) := by
        cases members with
        | nil => cases rest <;> simp
        | cons member members => simp
      rw [← propext hnext] at hmethod
      exact hmethod

/-! ## §D Every visit only adds -/

namespace NameMap

/-- Every entry of the old map is in the new one, under its key and with its spelling, and its value is related to what
it was. -/
def Extends (R : V → V → Prop) (old new : NameMap V) : Prop :=
  ∀ entry ∈ old.entries, ∃ later ∈ new.entries,
    later.key = entry.key ∧ later.spelling = entry.spelling ∧ R entry.value later.value

variable {R : V → V → Prop} {old map new : NameMap V}

theorem Extends.refl (hR : ∀ v, R v v) (map : NameMap V) : map.Extends R map :=
  fun entry hentry => ⟨entry, hentry, rfl, rfl, hR _⟩

theorem Extends.trans (hR : ∀ u v w, R u v → R v w → R u w) (h : old.Extends R map) (hnew : map.Extends R new) :
    old.Extends R new := by
  intro entry hentry
  obtain ⟨later, hlater, hkey, hspelling, hvalue⟩ := h entry hentry
  obtain ⟨last, hlast, hkey', hspelling', hvalue'⟩ := hnew later hlater
  exact ⟨last, hlast, hkey'.trans hkey, hspelling'.trans hspelling, hR _ _ _ hvalue hvalue'⟩

/-- **enter_extends**: a name that is offered leaves every entry as it is. -/
theorem enter_extends (hR : ∀ v, R v v) {name : String} {value : V} {next : List N} {entered : List Event}
    {clash : V → List Event} : map.Extends R (map.enter name value next entered clash).table := by
  cases hfind : map.find? name with
  | some entry =>
    rw [enter_taken (get?_of_find? hfind)]
    exact .refl hR map
  | none =>
    have hfree : ∀ entry ∈ map.entries, entry.key ≠ fold name := by simpa [find?] using hfind
    rw [enter_free hfind]
    intro entry hentry
    refine ⟨entry, ?_, rfl, rfl, hR _⟩
    rw [NameMap.insert, insertEntry_new hfree]
    exact List.mem_append_left _ hentry

/-- **insert_extends_insert**: a name that was free may be entered with another value as well. -/
theorem insert_extends_insert (hR : ∀ v, R v v) {name : String} {v w : V} (hfree : map.find? name = none)
    (h : R v w) : (map.insert name v).Extends R (map.insert name w) := by
  have hnew : ∀ entry ∈ map.entries, entry.key ≠ fold name := by simpa [find?] using hfree
  intro entry hentry
  rw [NameMap.insert, insertEntry_new hnew, List.mem_append, List.mem_singleton] at hentry
  rw [NameMap.insert, insertEntry_new hnew]
  rcases hentry with hold | rfl
  · exact ⟨entry, List.mem_append_left _ hold, rfl, rfl, hR _⟩
  · exact ⟨_, List.mem_append_right _ (List.mem_singleton_self _), rfl, rfl, h⟩

/-- **reach_extends**: what is reached under a name is changed as the effect changes it, and nothing else. -/
theorem reach_extends (hR : ∀ v, R v v) {effect : V → Effect V N} (heffect : ∀ v, R v (effect v).table)
    {name : String} : map.Extends R (map.reach name effect).table := by
  rw [reach]
  split
  · intro entry hentry
    refine ⟨_, List.mem_map_of_mem hentry, ?_⟩
    split
    · exact ⟨rfl, rfl, heffect _⟩
    · exact ⟨rfl, rfl, hR _⟩
  · exact .refl hR map

end NameMap

/-- The table of a method has become the other one by additions alone. -/
structure MethodTable.Grows (old new : MethodTable) : Prop where
  decl : new.decl = old.decl
  scope : old.scope.Extends Eq new.scope

/-- The table of a class has become the other one by additions alone. -/
structure ClassTable.Grows (old new : ClassTable) : Prop where
  decl : new.decl = old.decl
  fields : old.fields.Extends Eq new.fields
  methods : old.methods.Extends MethodTable.Grows new.methods

/-- The table of a program has become the other one by additions alone. -/
def SymbolTable.Grows (old new : SymbolTable) : Prop := old.classes.Extends ClassTable.Grows new.classes

theorem MethodTable.Grows.refl (table : MethodTable) : table.Grows table := ⟨rfl, .refl (fun _ => rfl) _⟩

theorem MethodTable.Grows.trans (old table new : MethodTable) (h : old.Grows table) (hnew : table.Grows new) :
    old.Grows new :=
  ⟨hnew.decl.trans h.decl, h.scope.trans (fun _ _ _ => Eq.trans) hnew.scope⟩

theorem ClassTable.Grows.refl (table : ClassTable) : table.Grows table :=
  ⟨rfl, .refl (fun _ => rfl) _, .refl MethodTable.Grows.refl _⟩

theorem ClassTable.Grows.trans (old table new : ClassTable) (h : old.Grows table) (hnew : table.Grows new) :
    old.Grows new :=
  ⟨hnew.decl.trans h.decl, h.fields.trans (fun _ _ _ => Eq.trans) hnew.fields,
    h.methods.trans MethodTable.Grows.trans hnew.methods⟩

theorem SymbolTable.Grows.refl (table : SymbolTable) : table.Grows table := NameMap.Extends.refl ClassTable.Grows.refl _

theorem SymbolTable.Grows.trans {old table new : SymbolTable} (h : old.Grows table) (hnew : table.Grows new) :
    old.Grows new := NameMap.Extends.trans ClassTable.Grows.trans h hnew

theorem Variable.visit_grows (table : MethodTable) (v : Variable) : table.Grows (v.visit table).table :=
  ⟨rfl, NameMap.enter_extends fun _ => rfl⟩

/-- Where the result of a method is next, the method has just been entered with an empty scope. -/
theorem InClass.result_next {cls : ClassDecl} {table : ClassTable} {method : FunctionDecl} {members : List ClassMember}
    {events : List Event} (h : InClass cls table (.ofResult method :: members) events) :
    ∃ visited, (methodsAfter visited).1.find? method.name.spelling = none ∧
      table = ⟨cls, cls.walkFields.1, (methodsAfter visited).1.insert method.name.spelling ⟨method, .empty⟩⟩ := by
  generalize hpending : ClassMember.ofResult method :: members = pending at h
  cases h with
  | @fields visited rest h =>
    rcases List.cons_eq_append_iff.mp hpending with ⟨-, hmethods⟩ | ⟨tail, hfields, -⟩
    · cases hlist : cls.block.methods <;> simp [hlist] at hmethods
    · cases rest <;> simp at hfields
  | @methods visited rest h => cases rest <;> simp at hpending
  | @atResult visited rest other h hfree =>
    obtain ⟨hsame, -⟩ := List.cons_eq_cons.mp hpending
    obtain rfl := ClassMember.ofResult.inj hsame
    exact ⟨visited, hfree, rfl⟩
  | @inMethod visited rest other seen coming h hfree hin =>
    cases coming <;> cases rest <;> simp at hpending

/-- **InClass.visit_grows**: no visit inside a class takes anything out of its table. The result of a method is put into
a scope in which nothing is. -/
theorem InClass.visit_grows {cls : ClassDecl} {table : ClassTable} {member : ClassMember} {members : List ClassMember}
    {events : List Event} (h : InClass cls table (member :: members) events) :
    table.Grows (member.visit table).table := by
  have hsame : ∀ {W : Type} (map : NameMap W), map.Extends Eq map := fun map => .refl (fun _ => rfl) map
  cases member with
  | ofField field => exact ⟨rfl, NameMap.enter_extends fun _ => rfl, .refl MethodTable.Grows.refl _⟩
  | ofMethod method => exact ⟨rfl, hsame _, NameMap.enter_extends MethodTable.Grows.refl⟩
  | ofVariable method v =>
    exact ⟨rfl, hsame _, NameMap.reach_extends MethodTable.Grows.refl fun found => v.visit_grows found⟩
  | ofResult method =>
    obtain ⟨visited, hfree, rfl⟩ := h.result_next
    have hgrows : (⟨method, .empty⟩ : MethodTable).Grows (method.visitResult ⟨method, .empty⟩).table :=
      ⟨rfl, nofun⟩
    refine ⟨rfl, hsame _, ?_⟩
    show NameMap.Extends _ _ (NameMap.reach _ _ _).table
    rw [NameMap.reach_entered hfree]
    exact NameMap.insert_extends_insert MethodTable.Grows.refl hfree hgrows

/-- **At.step_grows**: a visit takes nothing out of the table and changes nothing in it. -/
theorem At.step_grows {program : Program} {state : WalkState} (h : At program state) :
    state.table.Grows state.step.table := by
  have hclasses : ∀ (table : SymbolTable) (classes : List ClassDecl) (events : List Event),
      table.Grows (WalkState.step ⟨table, classes.map .ofClass, events⟩).table := by
    intro table classes events
    cases classes with
    | nil => exact .refl table
    | cons cls classes => exact NameMap.enter_extends ClassTable.Grows.refl
  cases h with
  | between h => exact hclasses _ _ _
  | @inside visited rest cls table members events h hfree hin =>
    cases members with
    | nil => exact hclasses _ _ _
    | cons member members =>
      show NameMap.Extends _ _ (NameMap.reach _ _ _).table
      rw [NameMap.reach_entered hfree]
      exact NameMap.insert_extends_insert ClassTable.Grows.refl hfree hin.visit_grows

theorem Program.after_grows (program : Program) {m n : Nat} (h : m ≤ n) :
    (program.after m).table.Grows (program.after n).table := by
  induction n, h using Nat.le_induction with
  | base => exact .refl _
  | succ n _ ih =>
    rw [after_succ]
    exact ih.trans (program.after_at n).step_grows

/-! ## §E Tables at every moment -/

/-- **tables_sound**: after any number of visits the table of a program is sound, but for a method that has been entered
and whose result is visited next, and in the scope of that method is nothing. Later visits only add to the table. When a
method is entered, nothing is in its scope that its result could replace. The walk ends with the table and the events of
the analysis, and so a table that is built is sound. -/
theorem Program.tables_sound (program : Program) :
    (∀ n, (program.after n).Sound program) ∧
      (∀ n, (∀ cls method, ¬(program.after n).Awaits cls method) → (program.after n).table.Sound program) ∧
      (∀ m n, m ≤ n → (program.after m).table.Grows (program.after n).table) ∧
      (∀ (methods entered : NameMap MethodTable) (method : FunctionDecl),
        methods.insertIfNew method.name.spelling ⟨method, .empty⟩ = .inserted entered →
          ∃ table, entered.get? method.name.spelling = some table ∧ ∀ name, table.scope.find? name = none) ∧
      (∃ n, ∀ m, n ≤ m → program.after m = ⟨program.analyse.table, [], program.analyse.events⟩) ∧
      ∀ table, program.build = .ok table → table.Sound program := by
  have hsound : ∀ n, (program.after n).Sound program := fun n => (program.after_at n).sound
  refine ⟨hsound, fun n => (hsound n).table, fun m n => program.after_grows, ?_, ⟨_, fun m => program.walk_ends⟩, ?_⟩
  · intro methods entered method hentered
    rw [NameMap.insertIfNew] at hentered
    split at hentered
    · cases hentered
    · obtain rfl := NameMap.Insertion.inserted.inj hentered
      exact ⟨_, NameMap.get?_insert_same rfl, NameMap.find?_empty⟩
  · intro table hbuild
    obtain ⟨rfl, -⟩ := Program.build_eq_ok_iff.mp hbuild
    -- At the end nothing is pending, so no result is.
    have hend := hsound program.start.weight
    rw [program.walk_ends (Nat.le_refl _)] at hend
    exact hend.table fun cls method hawaits => by cases hawaits

/-- After four visits to `bank`, its first class is there with the first field, which the second visit to a field has
left as it was, and with the third. -/
example :
    (bank.after 4).table.classes.entries.map
      (fun entry => (entry.spelling, entry.value.fields.toList.map Prod.fst)) =
        [("Account", ["owner", "id"])] := by decide +kernel

end ScopeTable
