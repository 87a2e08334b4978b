/-
# ScopeTable.Proofs.Analysis.Scope -- a list of declarations read as a scope

Names are compared by their folds and the first declaration of a name counts. This module says so about
plain lists, without any map: `firstNamed` is what a name stands for, `visits` pairs every declaration
with the one it repeats, and `firsts` are the declarations that repeat none.

A map that is filled by `NameMap.register` is then exactly such a list. `NameMap.Lists` is the invariant
that ties the two together while the list is walked: the map has one entry for each of the `firsts` of what
has been walked so far, and no other. From it follow the entries at the end (`register_lists`) and the
events on the way (`register_events`), for every kind of scope at once.
-/
import Mathlib.Data.List.Induction
import Mathlib.Data.List.Nodup
import ScopeTable.Analysis.NameMap

namespace ScopeTable

open Text

variable {α β V E : Type}

/-! ## §A First declarations -/

/-- The first item with the given name, whatever its case. -/
def firstNamed (spelling : α → String) (items : List α) (name : String) : Option α :=
  items.find? fun item => fold (spelling item) == fold name

/-- The items of a list in order, each with the first item of its name that stands before it, if there is
one. The items `earlier` stand before the whole list. -/
def visits (spelling : α → String) (earlier : List α) : List α → List (Option α × α)
  | [] => []
  | item :: items =>
    (firstNamed spelling earlier (spelling item), item) ::
      visits spelling (earlier ++ [item]) items

/-- The items whose name no item before them has. -/
def firsts (spelling : α → String) (items : List α) : List α :=
  (visits spelling [] items).filterMap fun visit => if visit.1.isNone then some visit.2 else none

variable {spelling : α → String} {earlier items : List α}

theorem firstNamed_eq_none_iff {name : String} :
    firstNamed spelling items name = none ↔ ∀ item ∈ items, fold (spelling item) ≠ fold name := by
  simp [firstNamed]

/-- Only the fold of a name counts. -/
theorem firstNamed_congr {name other : String} (h : fold name = fold other) :
    firstNamed spelling items name = firstNamed spelling items other := by
  rw [firstNamed, firstNamed, h]

theorem firstNamed_append (more : List α) (name : String) :
    firstNamed spelling (items ++ more) name =
      (firstNamed spelling items name).or (firstNamed spelling more name) :=
  List.find?_append

theorem firstNamed_singleton_other {item : α} {name : String}
    (h : fold (spelling item) ≠ fold name) : firstNamed spelling [item] name = none := by
  simp [firstNamed, h]

/-- **visits_append**: a walk over two lists is a walk over the first and then one over the second. -/
theorem visits_append (more : List α) :
    visits spelling earlier (items ++ more) =
      visits spelling earlier items ++ visits spelling (earlier ++ items) more := by
  induction items generalizing earlier with
  | nil => simp [visits]
  | cons item items ih =>
    show _ :: visits spelling (earlier ++ [item]) (items ++ more) = _
    rw [ih, List.append_assoc]
    rfl

/-- Every item is visited once. -/
theorem visits_map_snd : (visits spelling earlier items).map Prod.snd = items := by
  induction items generalizing earlier with
  | nil => rfl
  | cons item items ih => rw [visits, List.map_cons, ih]

theorem mem_of_mem_visits {visit : Option α × α} (h : visit ∈ visits spelling earlier items) : visit.2 ∈ items := by
  have hsnd : visit.2 ∈ (visits spelling earlier items).map Prod.snd := List.mem_map_of_mem h
  rwa [visits_map_snd] at hsnd

/-- The item that a visited one repeats stands somewhere before it. -/
theorem first_mem_of_mem_visits {first item : α} (h : (some first, item) ∈ visits spelling earlier items) :
    first ∈ earlier ++ items := by
  induction items generalizing earlier with
  | nil => cases h
  | cons head items ih =>
    rw [visits, List.mem_cons] at h
    rcases h with h | h
    · have hfirst : firstNamed spelling earlier (spelling head) = some first := (Prod.mk.inj h).1.symm
      exact List.mem_append_left _ (List.mem_of_find?_eq_some hfirst)
    · rw [List.append_cons]
      exact ih h

/-- **visits_map**: what is compared is the spelling, so a walk may be seen through any map that keeps it. -/
theorem visits_map (spelling : β → String) (f : α → β) :
    visits spelling (earlier.map f) (items.map f) =
      (visits (fun item => spelling (f item)) earlier items).map (Prod.map (Option.map f) f) := by
  induction items generalizing earlier with
  | nil => rfl
  | cons item items ih =>
    have hfirst : firstNamed spelling (earlier.map f) (spelling (f item)) =
        (firstNamed (fun item => spelling (f item)) earlier (spelling (f item))).map f :=
      List.find?_map
    have hmore : earlier.map f ++ [f item] = (earlier ++ [item]).map f := by
      rw [List.map_append, List.map_singleton]
    rw [List.map_cons, visits, hfirst, hmore, ih]
    rfl

/-- **mem_visits_none_iff**: the items visited as new are those that differ from all before them. -/
theorem mem_visits_none_iff {item : α} :
    (none, item) ∈ visits spelling earlier items ↔
      ∃ before after, items = before ++ item :: after ∧
        ∀ other ∈ earlier ++ before, fold (spelling other) ≠ fold (spelling item) := by
  induction items generalizing earlier with
  | nil => simp [visits]
  | cons head items ih =>
    rw [visits, List.mem_cons, ih]
    constructor
    · rintro (h | ⟨before, after, rfl, hnew⟩)
      · obtain ⟨hnew, rfl⟩ := Prod.mk.inj h
        exact ⟨[], items, rfl, by simpa using firstNamed_eq_none_iff.mp hnew.symm⟩
      · exact ⟨head :: before, after, rfl, by simpa using hnew⟩
    · rintro ⟨before, after, heq, hnew⟩
      cases before with
      | nil =>
        obtain ⟨rfl, rfl⟩ := List.cons.inj heq
        exact Or.inl (by rw [firstNamed_eq_none_iff.mpr (by simpa using hnew)])
      | cons first before =>
        obtain ⟨rfl, rfl⟩ := List.cons.inj heq
        exact Or.inr ⟨before, after, rfl, by simpa using hnew⟩

/-! ## §B Lists without repetition -/

/-- No two items of a list have the same name. -/
def Distinct (spelling : α → String) (items : List α) : Prop :=
  (items.map fun item => fold (spelling item)).Nodup

theorem distinct_nil : Distinct spelling [] := List.nodup_nil

theorem distinct_singleton (item : α) : Distinct spelling [item] := List.nodup_singleton _

/-- A list stays without repetition when an item with a new name is added to it. -/
theorem distinct_snoc_iff {item : α} :
    Distinct spelling (earlier ++ [item]) ↔
      Distinct spelling earlier ∧ ∀ other ∈ earlier, fold (spelling other) ≠ fold (spelling item) := by
  rw [Distinct, List.map_append, List.nodup_append]
  constructor
  · rintro ⟨hearlier, _, hnew⟩
    refine ⟨hearlier, ?_⟩
    intro other hother
    exact hnew _ (List.mem_map_of_mem hother) _ (List.mem_singleton_self _)
  · rintro ⟨hearlier, hnew⟩
    refine ⟨hearlier, List.nodup_singleton _, ?_⟩
    rintro key hkey other hother
    obtain ⟨first, hfirst, rfl⟩ := List.mem_map.mp hkey
    rw [List.mem_singleton.mp hother]
    exact hnew first hfirst

/-- **visits_fresh_iff**: a walk meets no repetition exactly when all names are different. -/
theorem visits_fresh_iff (h : Distinct spelling earlier) :
    (∀ visit ∈ visits spelling earlier items, visit.1 = none) ↔
      Distinct spelling (earlier ++ items) := by
  induction items generalizing earlier with
  | nil => simpa [visits] using h
  | cons item items ih =>
    -- The invariant of the walk: what has been walked so far is without repetition.
    rw [visits, List.forall_mem_cons, firstNamed_eq_none_iff,
      List.append_cons earlier item items]
    constructor
    · rintro ⟨hnew, hrest⟩
      exact (ih (distinct_snoc_iff.mpr ⟨h, hnew⟩)).mp hrest
    · intro hall
      have hfront : Distinct spelling (earlier ++ [item]) := by
        rw [Distinct, List.map_append] at hall
        exact (List.nodup_append.mp hall).1
      exact ⟨(distinct_snoc_iff.mp hfront).2, (ih hfront).mpr hall⟩

/-- **visits_flatMap_eq_nil_iff**: if every repeated item gives results, a walk is without result exactly when
nothing is repeated and no new item gives any. -/
theorem visits_flatMap_eq_nil_iff {results : Option α × α → List E} {P : α → Prop}
    (h : Distinct spelling earlier) (hrepeated : ∀ first item, results (some first, item) ≠ [])
    (hnew : ∀ item, results (none, item) = [] ↔ P item) :
    (visits spelling earlier items).flatMap results = [] ↔
      Distinct spelling (earlier ++ items) ∧ ∀ item ∈ items, P item := by
  have hvisit : ∀ visit : Option α × α, results visit = [] ↔ visit.1 = none ∧ P visit.2 := by
    rintro ⟨first | first, item⟩
    · exact (hnew item).trans (and_iff_right rfl).symm
    · exact iff_of_false (hrepeated first item) fun h => Option.some_ne_none first h.1
  have hitems : (∀ visit ∈ visits spelling earlier items, P visit.2) ↔ ∀ item ∈ items, P item := by
    rw [← List.forall_mem_map, visits_map_snd]
  rw [List.flatMap_eq_nil_iff, ← hitems, ← visits_fresh_iff h, ← forall₂_and]
  exact forall₂_congr fun visit _ => hvisit visit

/-! ## §C The first items of a list -/

/-- One more item is one more first item, or none if its name is taken. -/
theorem firsts_snoc (item : α) :
    firsts spelling (items ++ [item]) =
      firsts spelling items ++
        if (firstNamed spelling items (spelling item)).isNone then [item] else [] := by
  rw [firsts, visits_append, List.filterMap_append]
  show _ ++ List.filterMap _ [(firstNamed spelling ([] ++ items) (spelling item), item)] = _
  rw [List.nil_append, firsts]
  congr 1
  cases h : firstNamed spelling items (spelling item) with
  | none => simp
  | some first => simp

/-- **firstNamed_firsts**: what a name stands for is found among the first items. -/
theorem firstNamed_firsts (items : List α) (name : String) :
    firstNamed spelling (firsts spelling items) name = firstNamed spelling items name := by
  induction items using List.reverseRecOn with
  | nil => rfl
  | append_singleton items item ih =>
    rw [firsts_snoc, firstNamed_append, firstNamed_append, ih]
    cases htaken : firstNamed spelling items (spelling item) with
    | none => simp
    | some first =>
      -- The name is taken: if it is the one asked for, the earlier item answers on both sides.
      by_cases h : fold (spelling item) = fold name
      · rw [← firstNamed_congr h, htaken]
        rfl
      · rw [firstNamed_singleton_other h]
        simp [firstNamed]

theorem mem_firsts_of_firstNamed {item : α} {name : String}
    (h : firstNamed spelling items name = some item) : item ∈ firsts spelling items := by
  rw [← firstNamed_firsts] at h
  exact List.mem_of_find?_eq_some h

/-- **firsts_distinct**: no two first items have the same name. -/
theorem firsts_distinct (items : List α) : Distinct spelling (firsts spelling items) := by
  induction items using List.reverseRecOn with
  | nil => exact distinct_nil
  | append_singleton items item ih =>
    rw [firsts_snoc]
    cases htaken : firstNamed spelling items (spelling item) with
    | some first => simpa using ih
    | none =>
      rw [Option.isNone_none, if_pos rfl, distinct_snoc_iff]
      refine ⟨ih, firstNamed_eq_none_iff.mp ?_⟩
      rw [firstNamed_firsts, htaken]

/-- **mem_firsts_iff**: an item is a first one when no item before it has its name. -/
theorem mem_firsts_iff {item : α} :
    item ∈ firsts spelling items ↔
      ∃ before after, items = before ++ item :: after ∧
        ∀ other ∈ before, fold (spelling other) ≠ fold (spelling item) := by
  have hvisit : item ∈ firsts spelling items ↔ (none, item) ∈ visits spelling [] items := by
    simp [firsts]
  rw [hvisit, mem_visits_none_iff]
  rfl

theorem mem_of_mem_firsts {item : α} (h : item ∈ firsts spelling items) : item ∈ items := by
  obtain ⟨before, after, rfl, -⟩ := mem_firsts_iff.mp h
  exact List.mem_append_right _ List.mem_cons_self

/-- **firstNamed_eq_some_iff**: a name stands for the first item that has it. -/
theorem firstNamed_eq_some_iff {item : α} {name : String} :
    firstNamed spelling items name = some item ↔
      item ∈ firsts spelling items ∧ fold (spelling item) = fold name := by
  constructor
  · intro h
    exact ⟨mem_firsts_of_firstNamed h, by simpa using List.find?_some h⟩
  · rintro ⟨hitem, hname⟩
    rw [← firstNamed_firsts]
    cases hfound : firstNamed spelling (firsts spelling items) name with
    | none => exact absurd hname (firstNamed_eq_none_iff.mp hfound item hitem)
    | some found =>
      have hsame : fold (spelling found) = fold name := by simpa using List.find?_some hfound
      rw [List.inj_on_of_nodup_map (firsts_distinct items) (List.mem_of_find?_eq_some hfound) hitem
        (hsame.trans hname.symm)]

/-- **firsts_eq_self**: where no name is repeated, every item is a first one. -/
theorem firsts_eq_self (h : Distinct spelling items) : firsts spelling items = items := by
  have hfresh : ∀ visit ∈ visits spelling [] items, visit.1 = none :=
    (visits_fresh_iff distinct_nil).mpr h
  calc firsts spelling items
      = (visits spelling [] items).filterMap (some ∘ Prod.snd) := by
        refine List.filterMap_congr ?_
        intro visit hvisit
        simp [hfresh visit hvisit]
    _ = (visits spelling [] items).map Prod.snd := by rw [List.filterMap_eq_map]
    _ = items := visits_map_snd

/-! ## §D Maps that list a scope -/

namespace NameMap

/-- The entry of an item. -/
def entryOf (spelling : α → String) (value : α → V) (item : α) : Entry V :=
  ⟨fold (spelling item), spelling item, value item⟩

/-- The map has one entry for each first item of a list, and no other. -/
def Lists (spelling : α → String) (value : α → V) (items : List α) (map : NameMap V) : Prop :=
  map.entries = (firsts spelling items).map (entryOf spelling value)

variable {value : α → V} {map : NameMap V}

theorem lists_empty : (empty : NameMap V).Lists spelling value [] := rfl

/-- **Lists.find?_eq**: a name is looked up in the map as it is in the list. -/
theorem Lists.find?_eq (h : map.Lists spelling value items) (name : String) :
    map.find? name = (firstNamed spelling items name).map (entryOf spelling value) := by
  rw [find?, h, List.find?_map, ← firstNamed_firsts]
  rfl

theorem Lists.get?_eq (h : map.Lists spelling value items) (name : String) :
    map.get? name = (firstNamed spelling items name).map value := by
  rw [get?, h.find?_eq, Option.map_map]
  rfl

/-- The answer of a look-up, whatever is said when there is none. -/
theorem toOption_mapError_get {ε : Type} (map : NameMap V) (name : String) (f : NotFound → ε) :
    ((map.get name).mapError f).toOption = map.get? name := by
  rw [get]
  cases map.get? name <;> rfl

theorem Lists.spelling?_eq (h : map.Lists spelling value items) (name : String) :
    map.spelling? name = (firstNamed spelling items name).map spelling := by
  rw [spelling?, h.find?_eq, Option.map_map]
  rfl

theorem Lists.values_eq (h : map.Lists spelling value items) :
    map.values = (firsts spelling items).map value := by
  rw [values, h, List.map_map]
  rfl

theorem Lists.toList_eq (h : map.Lists spelling value items) :
    map.toList = (firsts spelling items).map fun item => (spelling item, value item) := by
  rw [toList, h, List.map_map]
  rfl

/-- **Lists.keys_nodup**: no fold has two entries. -/
theorem Lists.keys_nodup (h : map.Lists spelling value items) :
    (map.entries.map Entry.key).Nodup := by
  rw [h, List.map_map]
  exact firsts_distinct items

/-- An entry with a new key goes to the end. -/
theorem insertEntry_new {new : Entry V} {entries : List (Entry V)}
    (h : ∀ entry ∈ entries, entry.key ≠ new.key) : insertEntry new entries = entries ++ [new] := by
  induction entries with
  | nil => rfl
  | cons entry entries ih =>
    rw [List.forall_mem_cons] at h
    rw [insertEntry, if_neg h.1, ih h.2]
    rfl

/-- **Lists.insert**: the step of a walk that meets a new name. -/
theorem Lists.insert {item : α} (h : map.Lists spelling value items)
    (hnew : firstNamed spelling items (spelling item) = none) :
    (map.insert (spelling item) (value item)).Lists spelling value (items ++ [item]) := by
  have hkeys : ∀ entry ∈ map.entries, entry.key ≠ fold (spelling item) := by
    have hfind : map.find? (spelling item) = none := by rw [h.find?_eq, hnew, Option.map_none]
    simpa [find?] using hfind
  rw [Lists, NameMap.insert, insertEntry_new hkeys, h, firsts_snoc, hnew, List.map_append]
  rfl

/-- **Lists.skip**: the step of a walk that meets a name again. -/
theorem Lists.skip {item first : α} (h : map.Lists spelling value items)
    (htaken : firstNamed spelling items (spelling item) = some first) :
    map.Lists spelling value (items ++ [item]) := by
  rw [Lists, h, firsts_snoc, htaken]
  simp

/-! ## §E Registration -/

/-- What a visit amounts to: a clash with the value of the first item of the name, or an entrance. -/
def visitEvents (enter : α → V × List E) (clash : V → α → List E) (visit : Option α × α) : List E :=
  match visit.1 with
  | some first => clash (enter first).1 visit.2
  | none => (enter visit.2).2

variable (enter : α → V × List E) (clash : V → α → List E)

/-- **register_lists**: a map that lists what was walked before lists it together with the new items. -/
theorem register_lists (h : map.Lists spelling (fun item => (enter item).1) earlier) :
    (map.register spelling enter clash items).1.Lists spelling (fun item => (enter item).1)
      (earlier ++ items) := by
  induction items generalizing map earlier with
  | nil =>
    rw [List.append_nil]
    exact h
  | cons item items ih =>
    rw [register, h.get?_eq, List.append_cons]
    cases hfirst : firstNamed spelling earlier (spelling item) with
    | some first => exact ih (h.skip hfirst)
    | none => exact ih (h.insert hfirst)

/-- **register_events**: the events of a walk are those of its visits. -/
theorem register_events (h : map.Lists spelling (fun item => (enter item).1) earlier) :
    (map.register spelling enter clash items).2 =
      (visits spelling earlier items).flatMap (visitEvents enter clash) := by
  induction items generalizing map earlier with
  | nil => rfl
  | cons item items ih =>
    rw [register, h.get?_eq, visits, List.flatMap_cons]
    cases hfirst : firstNamed spelling earlier (spelling item) with
    | some first =>
      rw [← ih (h.skip hfirst)]
      rfl
    | none =>
      rw [← ih (h.insert hfirst)]
      rfl

end NameMap

end ScopeTable
