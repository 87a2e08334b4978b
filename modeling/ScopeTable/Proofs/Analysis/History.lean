/-
# ScopeTable.Proofs.Analysis.History -- what a name map holds after a history of steps

A map is built up in three kinds of steps: a name is put, whatever it stood for before; a name is offered, and
taken only if it is free; and the map is emptied. A value that is taken can be changed through the reference
that its owner gets, so an offer carries the change.

`stored` reads off a history, without any map, what it leaves under a fold: what was put there last since the
map was last emptied, or else what was offered there first. The map answers from just that (`after_answers`).
Two facts carry the run. A map stays `WellKeyed`, every entry under the fold of its spelling and no two under
one fold, and each step changes what is found under a key as it changes what is stored there.

A fold is its own fold, so a name may as well be given by its fold (`fold_projects`): it is found and it collides
as it does in the spelling at hand.
-/
import Mathlib.Data.List.DropRight
import ScopeTable.Proofs.Analysis.Scope
import ScopeTable.Proofs.Text.Settled

namespace ScopeTable

open Text

/-- The spelling and the value of an entry. -/
def Entry.content {V : Type} (entry : Entry V) : String × V := (entry.spelling, entry.value)

namespace NameMap

variable {V : Type}

/-! ## §A Histories -/

/-- A step in the life of a map. -/
inductive Step (V : Type) where
  /-- A name is entered, whether it is taken or not. -/
  | put (name : String) (value : V)
  /-- A name is entered if it is free, and its value is changed through the reference to it. -/
  | offer (name : String) (value : V) (change : V → V)
  /-- The map is emptied. -/
  | reset

namespace Step

/-- What a step makes of a map. -/
def apply (map : NameMap V) : Step V → NameMap V
  | put name value => map.insert name value
  | offer name value change =>
    match map.insertIfNew name value with
    | .kept _ => map
    | .inserted map => map.modify name change
  | reset => empty

/-- Whether a step empties the map. -/
def isReset : Step V → Bool
  | reset => true
  | _ => false

/-- The spelling and the value that a step puts under a key. -/
def putAt (key : String) : Step V → Option (String × V)
  | put name value => if fold name = key then some (name, value) else none
  | _ => none

/-- The spelling and the value that a step offers under a key, with the change made to the value. -/
def offeredAt (key : String) : Step V → Option (String × V)
  | offer name value change => if fold name = key then some (name, change value) else none
  | _ => none

end Step

/-- The map after a history that starts with the empty map. -/
def after (history : List (Step V)) : NameMap V := history.foldl Step.apply empty

/-- The steps of a history behind its last reset. -/
def sinceReset (history : List (Step V)) : List (Step V) := history.rtakeWhile fun step => !step.isReset

/-- What a history leaves under a key: what was put there last since the last reset or, if nothing was, what was
offered there first. -/
def stored (history : List (Step V)) (key : String) : Option (String × V) :=
  ((sinceReset history).filterMap (Step.putAt key)).getLast?.or
    ((sinceReset history).filterMap (Step.offeredAt key)).head?

variable {history : List (Step V)} {map : NameMap V}

theorem stored_reset (key : String) : stored (history ++ [.reset]) key = none := by
  have hnone : sinceReset (history ++ [.reset]) = [] :=
    List.rtakeWhile_concat_neg _ _ _ Bool.false_ne_true
  rw [stored, hnone]
  rfl

/-- **stored_put**: a put counts from then on, and for its own key only. -/
theorem stored_put (name : String) (value : V) (key : String) :
    stored (history ++ [.put name value]) key =
      if fold name = key then some (name, value) else stored history key := by
  have hsince : sinceReset (history ++ [.put name value]) = sinceReset history ++ [.put name value] :=
    List.rtakeWhile_concat_pos _ _ _ rfl
  rw [stored, hsince, List.filterMap_append, List.filterMap_append]
  by_cases hkey : fold name = key
  · simp [Step.putAt, hkey]
  · simp [Step.putAt, Step.offeredAt, hkey, stored]

/-- **stored_offer**: an offer counts only under its own key, and only if nothing is stored there. -/
theorem stored_offer (name : String) (value : V) (change : V → V) (key : String) :
    stored (history ++ [.offer name value change]) key =
      (stored history key).or (if fold name = key then some (name, change value) else none) := by
  have hsince : sinceReset (history ++ [.offer name value change]) =
      sinceReset history ++ [.offer name value change] := List.rtakeWhile_concat_pos _ _ _ rfl
  rw [stored, hsince, List.filterMap_append, List.filterMap_append, stored, Option.or_assoc]
  by_cases hkey : fold name = key
  · simp [Step.putAt, Step.offeredAt, hkey]
  · simp [Step.putAt, Step.offeredAt, hkey]

/-! ## §B Keys -/

/-- Every entry stands under the fold of its spelling, and no two under one fold. -/
structure WellKeyed (map : NameMap V) : Prop where
  folded : ∀ entry ∈ map.entries, entry.key = fold entry.spelling
  nodup : (map.entries.map Entry.key).Nodup

/-- The entry under a key. -/
def entryAt? (map : NameMap V) (key : String) : Option (Entry V) :=
  map.entries.find? fun entry => entry.key == key

theorem entryAt?_isSome_iff (key : String) :
    (map.entryAt? key).isSome ↔ key ∈ map.entries.map Entry.key := by
  simp [entryAt?]

/-- Every entry is found under its key. -/
theorem WellKeyed.entryAt?_key (h : map.WellKeyed) {entry : Entry V} (hentry : entry ∈ map.entries) :
    map.entryAt? entry.key = some entry := by
  have hsome : (map.entryAt? entry.key).isSome :=
    (entryAt?_isSome_iff _).mpr (List.mem_map_of_mem hentry)
  obtain ⟨found, hfound⟩ := Option.isSome_iff_exists.mp hsome
  have hkey : found.key = entry.key := by simpa using List.find?_some hfound
  rw [hfound, List.inj_on_of_nodup_map h.nodup (List.mem_of_find?_eq_some hfound) hentry hkey]

theorem entryAt?_insert (name : String) (value : V) (key : String) :
    (map.insert name value).entryAt? key =
      if fold name = key then some ⟨fold name, name, value⟩ else map.entryAt? key := by
  by_cases hkey : fold name = key
  · subst hkey
    rw [if_pos rfl]
    exact find?_insertEntry_same ⟨fold name, name, value⟩ map.entries
  · rw [if_neg hkey]
    exact find?_insertEntry_other map.entries hkey

theorem mem_insertEntry {new entry : Entry V} {entries : List (Entry V)}
    (h : entry ∈ insertEntry new entries) : entry = new ∨ entry ∈ entries := by
  induction entries with
  | nil => exact Or.inl (List.mem_singleton.mp h)
  | cons first entries ih =>
    rw [insertEntry] at h
    split at h
    · exact (List.mem_cons.mp h).imp_right (List.mem_cons_of_mem first)
    · rcases List.mem_cons.mp h with rfl | hrest
      · exact Or.inr List.mem_cons_self
      · exact (ih hrest).imp_right (List.mem_cons_of_mem first)

/-- An entry that takes the place of another leaves the keys as they are. -/
theorem insertEntry_keys {new : Entry V} {entries : List (Entry V)}
    (h : new.key ∈ entries.map Entry.key) :
    (insertEntry new entries).map Entry.key = entries.map Entry.key := by
  induction entries with
  | nil => cases h
  | cons first entries ih =>
    rw [insertEntry]
    by_cases hkey : first.key = new.key
    · rw [if_pos hkey, List.map_cons, List.map_cons, hkey]
    · have hrest : new.key ∈ entries.map Entry.key :=
        (List.mem_cons.mp h).resolve_left fun heq => hkey heq.symm
      rw [if_neg hkey, List.map_cons, List.map_cons, ih hrest]

/-- **keys_insert**: a put leaves the keys as they are if the name has an entry, and adds its own at the end if
not. -/
theorem keys_insert (map : NameMap V) (name : String) (value : V) :
    (map.insert name value).entries.map Entry.key =
      if fold name ∈ map.entries.map Entry.key then map.entries.map Entry.key
      else map.entries.map Entry.key ++ [fold name] := by
  split_ifs with htaken
  · exact insertEntry_keys htaken
  · have hnew : ∀ entry ∈ map.entries, entry.key ≠ fold name := by
      intro entry hentry hkey
      exact htaken (hkey ▸ List.mem_map_of_mem hentry)
    rw [NameMap.insert, insertEntry_new hnew, List.map_append]
    rfl

theorem empty_wellKeyed : (empty : NameMap V).WellKeyed := by
  constructor
  · intro entry hentry
    cases hentry
  · exact List.nodup_nil

/-- **WellKeyed.insert**: entering a name keeps every entry under its fold and no fold twice. -/
theorem WellKeyed.insert (h : map.WellKeyed) (name : String) (value : V) :
    (map.insert name value).WellKeyed := by
  constructor
  · intro entry hentry
    rcases mem_insertEntry hentry with rfl | hold
    · rfl
    · exact h.folded entry hold
  · rw [keys_insert]
    split_ifs with htaken
    · exact h.nodup
    · rw [← List.concat_eq_append]
      exact h.nodup.concat htaken

/-! ## §C Offers -/

/-- **modify_insert**: a change of a value that has just been entered under a free name is as if the changed value
had been entered. No other entry is reached. -/
theorem modify_insert {name : String} (h : map.find? name = none) (value : V) (change : V → V) :
    (map.insert name value).modify name change = map.insert name (change value) := by
  have hfree : ∀ entry ∈ map.entries, entry.key ≠ fold name := by simpa [find?] using h
  have hkept : (map.entries.map fun entry =>
      if entry.key = fold name then { entry with value := change entry.value } else entry) = map.entries := by
    rw [List.map_congr_left fun entry hentry => if_neg (hfree entry hentry)]
    exact List.map_id' _
  rw [NameMap.insert, NameMap.insert, insertEntry_new hfree, insertEntry_new hfree, modify, List.map_append,
    hkept]
  simp

/-- **insertIfNew_taken**: an offer of a name that is taken gives the value it stands for and changes nothing. -/
theorem insertIfNew_taken {name : String} {entry : Entry V} (h : map.find? name = some entry) (value : V)
    (change : V → V) :
    map.insertIfNew name value = .kept entry.value ∧ Step.apply map (.offer name value change) = map := by
  have hkept : map.insertIfNew name value = .kept entry.value := by
    rw [insertIfNew, get?, h, Option.map_some]
  exact ⟨hkept, by rw [Step.apply, hkept]⟩

/-- **insertIfNew_free**: an offer of a free name is a put, with the change made to the value. -/
theorem insertIfNew_free {name : String} (h : map.find? name = none) (value : V) (change : V → V) :
    map.insertIfNew name value = .inserted (map.insert name value) ∧
      Step.apply map (.offer name value change) = map.insert name (change value) := by
  have hinserted : map.insertIfNew name value = .inserted (map.insert name value) := by
    rw [insertIfNew, get?, h, Option.map_none]
  refine ⟨hinserted, ?_⟩
  rw [Step.apply, hinserted]
  exact modify_insert h value change

/-! ## §D Maps with a history -/

/-- The map is well keyed, and under every key it holds what the history has stored there. -/
structure Records (history : List (Step V)) (map : NameMap V) : Prop where
  wellKeyed : map.WellKeyed
  content : ∀ key, (map.entryAt? key).map Entry.content = stored history key

theorem Records.find? (h : map.Records history) (name : String) :
    (map.find? name).map Entry.content = stored history (fold name) := h.content (fold name)

theorem records_empty : (empty : NameMap V).Records [] := ⟨empty_wellKeyed, fun _ => rfl⟩

/-- **Records.apply**: a step does to the map what it does to the history. -/
theorem Records.apply (h : map.Records history) (step : Step V) :
    (step.apply map).Records (history ++ [step]) := by
  cases step with
  | put name value =>
    refine ⟨h.wellKeyed.insert name value, fun key => ?_⟩
    show ((map.insert name value).entryAt? key).map _ = _
    rw [entryAt?_insert, stored_put, ← h.content key]
    split <;> rfl
  | offer name value change =>
    have hstored := h.find? name
    cases hfind : map.find? name with
    | some entry =>
      rw [hfind] at hstored
      rw [(insertIfNew_taken hfind value change).2]
      refine ⟨h.wellKeyed, fun key => ?_⟩
      rw [h.content, stored_offer]
      -- The offer comes too late under its own key, and does not concern any other.
      by_cases hkey : fold name = key
      · rw [← hkey, ← hstored]
        rfl
      · rw [if_neg hkey, Option.or_none]
    | none =>
      rw [hfind] at hstored
      rw [(insertIfNew_free hfind value change).2]
      refine ⟨h.wellKeyed.insert name (change value), fun key => ?_⟩
      rw [entryAt?_insert, stored_offer]
      by_cases hkey : fold name = key
      · rw [if_pos hkey, if_pos hkey, ← hkey, ← hstored]
        rfl
      · rw [if_neg hkey, if_neg hkey, Option.or_none]
        exact h.content key
  | reset =>
    refine ⟨empty_wellKeyed, fun key => ?_⟩
    rw [stored_reset]
    rfl

/-- **after_records**: the map after a history holds what the history has stored. -/
theorem after_records (history : List (Step V)) : (after history).Records history := by
  induction history using List.reverseRecOn with
  | nil => exact records_empty
  | append_singleton history step ih =>
    rw [after, List.foldl_append]
    exact ih.apply step

/-! ## §E What a map answers -/

/-- **after_answers**: after any history a name is looked up under its fold. It stands for what was put there last
or else for what was offered there first, with that spelling; if nothing is stored there, the failure names it as it
was asked for. An offer of a name that is taken gives the value that is stored and leaves the map as it is, and any
other offer is a put. The map has one entry for each fold under which something is stored, and lists each of them
once, under the fold of its spelling. -/
theorem after_answers (history : List (Step V)) :
    (∀ name,
      (after history).contains name = (stored history (fold name)).isSome ∧
      (after history).spelling? name = (stored history (fold name)).map Prod.fst ∧
      (after history).get name =
        match stored history (fold name) with
        | some content => .ok content.2
        | none => .error ⟨name⟩) ∧
    (∀ name value change,
      match stored history (fold name) with
      | some content =>
        (after history).insertIfNew name value = .kept content.2 ∧
          Step.apply (after history) (.offer name value change) = after history
      | none =>
        (after history).insertIfNew name value = .inserted ((after history).insert name value) ∧
          Step.apply (after history) (.offer name value change) =
            (after history).insert name (change value)) ∧
    ∃ keys : List String,
      keys.Nodup ∧ (∀ key, key ∈ keys ↔ (stored history key).isSome) ∧
      (after history).size = keys.length ∧
      List.Forall₂ (fun key content => stored history key = some content ∧ fold content.1 = key) keys
        (after history).toList := by
  have h := after_records history
  refine ⟨?_, ?_, (after history).entries.map Entry.key, h.wellKeyed.nodup, ?_, ?_, ?_⟩
  · intro name
    rw [contains, spelling?, get, get?, ← h.find? name]
    cases (after history).find? name <;> exact ⟨rfl, rfl, rfl⟩
  · intro name value change
    rw [← h.find? name]
    cases hfind : (after history).find? name with
    | some entry => exact insertIfNew_taken hfind value change
    | none => exact insertIfNew_free hfind value change
  · intro key
    rw [← h.content key, Option.isSome_map, entryAt?_isSome_iff]
  · rw [List.length_map]
    rfl
  · rw [toList, List.forall₂_map_left_iff, List.forall₂_map_right_iff, List.forall₂_same]
    intro entry hentry
    refine ⟨?_, (h.wellKeyed.folded entry hentry).symm⟩
    rw [← h.content entry.key, h.wellKeyed.entryAt?_key hentry]
    rfl

/-- Names that differ in case share an entry: the first offer is taken with its change, the put replaces it, the
second offer comes too late. -/
example :
    (after [.offer "Count" 1 (· + 4), .offer "COUNT" 7 id, .offer "size" 2 id, .put "SIZE" 3]).toList =
      [("Count", 5), ("SIZE", 3)] := by decide +kernel

/-! ## §F Names given by their folds -/

/-- **find?_fold**: a name and its fold find the same entry. -/
theorem find?_fold (map : NameMap V) (name : String) : map.find? (fold name) = map.find? name := by
  rw [find?, find?, fold_fold]

theorem contains_fold (map : NameMap V) (name : String) : map.contains (fold name) = map.contains name := by
  rw [contains, find?_fold, contains]

theorem get?_fold (map : NameMap V) (name : String) : map.get? (fold name) = map.get? name := by
  rw [get?, find?_fold, get?]

theorem get_eq_ok_iff {name : String} {value : V} : map.get name = .ok value ↔ map.get? name = some value := by
  rw [get]
  cases map.get? name <;> simp

/-- An offer is refused exactly if the name stands for something, and the refusal tells for what. -/
theorem insertIfNew_eq_kept_iff {name : String} {value first : V} :
    map.insertIfNew name value = .kept first ↔ map.get? name = some first := by
  rw [insertIfNew]
  cases map.get? name <;> simp

/-- **size_insert**: a put makes the map longer by one, unless it takes the place of an entry. -/
theorem size_insert (map : NameMap V) (name : String) (value : V) :
    (map.insert name value).size = if map.contains name then map.size else map.size + 1 := by
  have hcontains : map.contains name ↔ fold name ∈ map.entries.map Entry.key :=
    entryAt?_isSome_iff (fold name)
  have hlength := congrArg List.length (keys_insert map name value)
  rw [List.length_map] at hlength
  rw [size, hlength, size]
  simp only [hcontains]
  split_ifs
  · rw [List.length_map]
  · rw [List.length_append, List.length_map]
    rfl

/-- **fold_projects**: a fold is its own fold, and the names that are their own folds are those of settled characters.
Whatever has happened to a map, a name and its fold are both found or both missing, with one value and one
spelling. An offer under the fold is refused, for the value that is kept, exactly if one under the name is, and a
put under the fold takes the place of an entry exactly if one under the name does. -/
theorem fold_projects :
    (∀ name, fold (fold name) = fold name) ∧
    (∀ name, fold name = name ↔ ∀ c ∈ name.toList, IsSettled c) ∧
    ∀ {V : Type} (map : NameMap V) (name : String),
      map.contains (fold name) = map.contains name ∧
      (∀ value, map.get (fold name) = .ok value ↔ map.get name = .ok value) ∧
      map.spelling? (fold name) = map.spelling? name ∧
      (∀ value first,
        map.insertIfNew (fold name) value = .kept first ↔ map.insertIfNew name value = .kept first) ∧
      ∀ value, (map.insert (fold name) value).size = map.size ↔ (map.insert name value).size = map.size := by
  refine ⟨fold_fold, fold_eq_self_iff, ?_⟩
  intro V map name
  refine ⟨contains_fold map name, ?_, ?_, ?_, ?_⟩
  · intro value
    rw [get_eq_ok_iff, get_eq_ok_iff, get?_fold]
  · rw [spelling?, find?_fold, spelling?]
  · intro value first
    rw [insertIfNew_eq_kept_iff, insertIfNew_eq_kept_iff, get?_fold]
  · intro value
    rw [size_insert, size_insert, contains_fold]

end NameMap

end ScopeTable
