/-
# ScopeTable.Analysis.NameMap -- what names stand for, whatever their case

A scope maps names to values, and names that differ in case only are the same name. Every entry is kept
under the fold of its name, together with the spelling it was entered with. Entries stand in the order in
which their names were first entered.
-/
import ScopeTable.Text.Fold

namespace ScopeTable

open Text

/-- What a name stands for: the folded name, the spelling it was entered with, and the value. -/
structure Entry (V : Type) where
  key : String
  spelling : String
  value : V
  deriving DecidableEq, Repr

/-- A map from names to values that takes names of one fold for the same. -/
structure NameMap (V : Type) where
  entries : List (Entry V)
  deriving DecidableEq, Repr

/-- No entry matches the name. It is kept as it was asked for. -/
structure NotFound where
  name : String
  deriving DecidableEq, Repr

/-- The text of a failed look-up. -/
def NotFound.message (failure : NotFound) : String := "No entry named " ++ failure.name

namespace NameMap

variable {V : Type}

/-! ## §A Looking names up -/

/-- The map without entries. -/
def empty : NameMap V := ⟨[]⟩

/-- The entry of a name. -/
def find? (map : NameMap V) (name : String) : Option (Entry V) :=
  map.entries.find? fun entry => entry.key == fold name

/-- Whether a name has an entry. -/
def contains (map : NameMap V) (name : String) : Bool := (map.find? name).isSome

/-- The value of a name. -/
def get? (map : NameMap V) (name : String) : Option V := (map.find? name).map Entry.value

/-- The value of a name, or the failure that names it. -/
def get (map : NameMap V) (name : String) : Except NotFound V :=
  match map.get? name with
  | some value => .ok value
  | none => .error ⟨name⟩

/-- The spelling that a name was entered with. -/
def spelling? (map : NameMap V) (name : String) : Option String := (map.find? name).map Entry.spelling

/-- How many names have an entry. -/
def size (map : NameMap V) : Nat := map.entries.length

/-- Whether no name has an entry. -/
def isEmpty (map : NameMap V) : Bool := map.entries.isEmpty

/-- The spellings and values of all entries. -/
def toList (map : NameMap V) : List (String × V) :=
  map.entries.map fun entry => (entry.spelling, entry.value)

/-- The values of all entries. -/
def values (map : NameMap V) : List V := map.entries.map Entry.value

/-! ## §B Entering names -/

/-- Puts an entry in the place of the one under the same key, or else at the end. -/
def insertEntry (new : Entry V) : List (Entry V) → List (Entry V)
  | [] => [new]
  | entry :: entries => if entry.key = new.key then new :: entries else entry :: insertEntry new entries

/-- Enters a name. What the name stood for before is replaced, its spelling included. -/
def insert (map : NameMap V) (name : String) (value : V) : NameMap V :=
  ⟨insertEntry ⟨fold name, name, value⟩ map.entries⟩

/-- What becomes of a name that is entered only if it is free. -/
inductive Insertion (V : Type) where
  /-- The name is taken: the map is as it was, and this is the value it holds. -/
  | kept (first : V)
  /-- The name was free: this is the map with the new entry. -/
  | inserted (map : NameMap V)

/-- Enters a name unless it is taken. -/
def insertIfNew (map : NameMap V) (name : String) (value : V) : Insertion V :=
  match map.get? name with
  | some first => .kept first
  | none => .inserted (map.insert name value)

/-- Changes the value of a name, if it has one. -/
def modify (map : NameMap V) (name : String) (f : V → V) : NameMap V :=
  ⟨map.entries.map fun entry =>
    if entry.key = fold name then { entry with value := f entry.value } else entry⟩

/-! ## §C Entering many names, the first of each kept -/

/-- Enters the items of a list in order. The first item of a name is entered with the value and the events
that `enter` gives for it; every later one changes nothing, and `clash` tells what it amounts to, given the
value that is kept. -/
def register {α E : Type} (spelling : α → String) (enter : α → V × List E)
    (clash : V → α → List E) : NameMap V → List α → NameMap V × List E
  | map, [] => (map, [])
  | map, item :: items =>
    match map.get? (spelling item) with
    | some first =>
      let rest := register spelling enter clash map items
      (rest.1, clash first item ++ rest.2)
    | none =>
      let entered := enter item
      let rest := register spelling enter clash (map.insert (spelling item) entered.1) items
      (rest.1, entered.2 ++ rest.2)

/-! ## §D The map as seen through its look-ups -/

/-- **find?_insertEntry_same**: the entry just put in is the one found under its key. -/
theorem find?_insertEntry_same (new : Entry V) (entries : List (Entry V)) :
    (insertEntry new entries).find? (fun entry => entry.key == new.key) = some new := by
  induction entries with
  | nil => simp [insertEntry]
  | cons entry entries ih =>
    by_cases h : entry.key = new.key
    · simp [insertEntry, h]
    · simp [insertEntry, h, ih]

/-- **find?_insertEntry_other**: the entries under other keys are found as before. -/
theorem find?_insertEntry_other {new : Entry V} {key : String} (entries : List (Entry V))
    (h : new.key ≠ key) :
    (insertEntry new entries).find? (fun entry => entry.key == key) =
      entries.find? (fun entry => entry.key == key) := by
  induction entries with
  | nil => simp [insertEntry, h]
  | cons entry entries ih =>
    by_cases hk : entry.key = new.key
    · have : entry.key ≠ key := hk ▸ h
      simp [insertEntry, hk, h]
    · by_cases hq : entry.key = key
      · have : key ≠ new.key := hq ▸ hk
        simp [insertEntry, hq, this]
      · simp [insertEntry, hk, hq, ih]

@[simp]
theorem find?_empty (name : String) : (empty : NameMap V).find? name = none := rfl

/-- **find?_insert_same**: whatever the spelling, the entry found is the new one. -/
theorem find?_insert_same {map : NameMap V} {name asked : String} {value : V}
    (h : fold asked = fold name) :
    (map.insert name value).find? asked = some ⟨fold name, name, value⟩ := by
  unfold find?
  rw [h]
  exact find?_insertEntry_same ⟨fold name, name, value⟩ map.entries

/-- **find?_insert_other**: names of another fold are not affected. -/
theorem find?_insert_other {map : NameMap V} {name asked : String} {value : V}
    (h : fold asked ≠ fold name) : (map.insert name value).find? asked = map.find? asked :=
  find?_insertEntry_other _ (Ne.symm h)

@[simp]
theorem get?_empty (name : String) : (empty : NameMap V).get? name = none := rfl

theorem get?_insert_same {map : NameMap V} {name asked : String} {value : V}
    (h : fold asked = fold name) : (map.insert name value).get? asked = some value := by
  rw [get?, find?_insert_same h, Option.map_some]

theorem get?_insert_other {map : NameMap V} {name asked : String} {value : V}
    (h : fold asked ≠ fold name) : (map.insert name value).get? asked = map.get? asked := by
  rw [get?, find?_insert_other h, get?]

/-- **contains_insert**: after an insertion the names found are those found before and those of the new
fold. -/
theorem contains_insert (map : NameMap V) (name asked : String) (value : V) :
    (map.insert name value).contains asked = (fold asked == fold name || map.contains asked) := by
  by_cases h : fold asked = fold name
  · simp [contains, find?_insert_same h, h]
  · simp [contains, find?_insert_other h, h]

end NameMap

end ScopeTable
