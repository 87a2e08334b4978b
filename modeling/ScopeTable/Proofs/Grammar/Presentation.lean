/-
# ScopeTable.Proofs.Grammar.Presentation -- which trees present which nodes

The node grammar as a relation between values and trees of JSON, without a reader. A record is an object
with its members in any order among members that mean nothing, or an array of its fields in the order of
declaration; a choice is an object with one member, or a name alone. The relations for records and choices
are given for any relation that holds inside them, and `Presents` closes the circle by the number of arrays
and objects that may be open at once.
-/
import Mathlib.Data.List.Forall2
import ScopeTable.Grammar.Layout

namespace ScopeTable.Grammar

open ScopeTable.Json

/-- Which trees stand for which values of a shape. -/
abbrev Presenting := (s : Shape) → s.Value → Json → Prop

/-! ## §A Members and numbers -/

/-- The member has the given name. -/
def Named (name : String) : Member → Prop
  | .mk key _ => ∃ passed, key = .text ⟨.ok name, passed⟩

/-- The member is sound JSON, whatever it means. -/
def Passable : Member → Prop
  | .mk key value => (∃ name passed, key = .text ⟨.ok name, passed⟩) ∧ value.pass = .ok ()

/-- The number is the given whole number, spelled without fraction and exponent. -/
inductive IsWhole : Number → Int → Prop where
  | natural (n : UInt64) : IsWhole (.natural n) n.toNat
  | negative (n : Int64) : IsWhole (.negative n) n.toInt

/-! ## §B Records -/

section

variable (inner : Presenting)

/-- The value of a field. Only a nullable field can be `null`, and it is always missing then. -/
inductive FieldPresents : (f : Field) → f.Value → Json → Prop where
  | required {name : String} {shape : Shape} {v : shape.Value} {j : Json} (h : inner shape v j) :
    FieldPresents (.required name shape) v j
  | defaulted {name : String} {shape : Shape} {default v : shape.Value} {j : Json}
    (h : inner shape v j) : FieldPresents (.defaulted name shape default) v j
  | null {name : String} {shape : Shape} {passed : Except Fault Unit} :
    FieldPresents (.nullable name shape) none (.nothing ⟨.ok (), passed⟩)
  | given {name : String} {shape : Shape} {v : shape.Value} {j : Json}
    (hnull : ∀ lexeme, j ≠ .nothing lexeme) (h : inner shape v j) :
    FieldPresents (.nullable name shape) (some v) j

/-- The fields of a record as the items of an array. Fields at the end that may be missing may be left
off. -/
inductive RowPresents : (fs : List Field) → Values fs → List Json → Prop where
  | nil : RowPresents [] () []
  | given {f : Field} {fs : List Field} {v : f.Value} {vs : Values fs} {item : Json}
    {items : List Json} (h : FieldPresents inner f v item) (hrest : RowPresents fs vs items) :
    RowPresents (f :: fs) (v, vs) (item :: items)
  | missing {f : Field} {fs : List Field} {v : f.Value} {vs : Values fs}
    (h : f.absent? = some v) (hrest : RowPresents fs vs []) : RowPresents (f :: fs) (v, vs) []

/-- The fields of a record as the members of an object. Each field takes away the only member with its
name, wherever it stands, or is missing; what is left at the end need only be JSON. -/
inductive MembersPresent : (fs : List Field) → Values fs → List Member → Prop where
  | rest {members : List Member} (h : ∀ m ∈ members, Passable m) : MembersPresent [] () members
  | given {f : Field} {fs : List Field} {v : f.Value} {vs : Values fs} {j : Json}
    {passed : Except Fault Unit} {before after : List Member}
    (honly : ∀ m ∈ before ++ after, ¬Named f.name m) (h : FieldPresents inner f v j)
    (hrest : MembersPresent fs vs (before ++ after)) :
    MembersPresent (f :: fs) (v, vs) (before ++ .mk (.text ⟨.ok f.name, passed⟩) j :: after)
  | missing {f : Field} {fs : List Field} {v : f.Value} {vs : Values fs} {members : List Member}
    (hnone : ∀ m ∈ members, ¬Named f.name m) (h : f.absent? = some v)
    (hrest : MembersPresent fs vs members) : MembersPresent (f :: fs) (v, vs) members

end

/-- The member of the first field may stand first. -/
theorem MembersPresent.first {inner : Presenting} {f : Field} {fs : List Field} {v : f.Value}
    {vs : Values fs} {j : Json} {passed : Except Fault Unit} {members : List Member}
    (honly : ∀ m ∈ members, ¬Named f.name m) (h : FieldPresents inner f v j)
    (hrest : MembersPresent inner fs vs members) :
    MembersPresent inner (f :: fs) (v, vs) (.mk (.text ⟨.ok f.name, passed⟩) j :: members) := by
  rw [← List.nil_append (.mk _ j :: members)]
  exact .given honly h hrest

/-! ## §C Nodes and shapes -/

section

-- Nothing is open inside a place where no more arrays and objects may be.
variable (inner : Option Presenting)

/-- The nodes of a layout. -/
inductive NodePresents {α : Type} : Layout α → α → Json → Prop where
  | row {presents : Presenting} {fs : List Field} {make : Values fs → Except Mismatch α}
    {vs : Values fs} {node : α} {items : List Json} (hinner : inner = some presents)
    (h : RowPresents presents fs vs items) (hmake : make vs = .ok node) :
    NodePresents (.record fs make) node (.array items (.ok ()))
  | object {presents : Presenting} {fs : List Field} {make : Values fs → Except Mismatch α}
    {vs : Values fs} {node : α} {members : List Member} (hinner : inner = some presents)
    (h : MembersPresent presents fs vs members) (hmake : make vs = .ok node) :
    NodePresents (.record fs make) node (.object members (.ok ()))
  | alone {variants : List (Variant α)} {name : String} {node : α} {passed : Except Fault Unit}
    (hmem : .plain name node ∈ variants) :
    NodePresents (.choice variants) node (.text ⟨.ok name, passed⟩)
  | plain {presents : Presenting} {variants : List (Variant α)} {name : String} {node : α}
    {passed passed' : Except Fault Unit} (hinner : inner = some presents)
    (hmem : .plain name node ∈ variants) :
    NodePresents (.choice variants) node
      (.object [.mk (.text ⟨.ok name, passed⟩) (.nothing ⟨.ok (), passed'⟩)] (.ok ()))
  | holding {presents : Presenting} {variants : List (Variant α)} {name : String} {shape : Shape}
    {make : shape.Value → α} {v : shape.Value} {j : Json} {passed : Except Fault Unit}
    (hinner : inner = some presents) (hmem : .holding name shape make ∈ variants)
    (h : presents shape v j) :
    NodePresents (.choice variants) (make v)
      (.object [.mk (.text ⟨.ok name, passed⟩) j] (.ok ()))

/-- The values of every shape. -/
inductive ShapePresents : (s : Shape) → s.Value → Json → Prop where
  | text {s : String} {passed : Except Fault Unit} : ShapePresents .text s (.text ⟨.ok s, passed⟩)
  | line {n : UInt64} {m : Number} {passed : Except Fault Unit} (h : IsWhole m n.toNat) :
    ShapePresents .line n (.scalar ⟨.ok (.number m), passed⟩)
  | offset {n : UInt32} {m : Number} {passed : Except Fault Unit} (h : IsWhole m n.toNat) :
    ShapePresents .offset n (.scalar ⟨.ok (.number m), passed⟩)
  | integer {n : Int64} {m : Number} {passed : Except Fault Unit} (h : IsWhole m n.toInt) :
    ShapePresents .integer n (.scalar ⟨.ok (.number m), passed⟩)
  | real {n : Number} {passed : Except Fault Unit} (h : n.toFloat.isFinite = true) :
    ShapePresents .real n.toFloat (.scalar ⟨.ok (.number n), passed⟩)
  | character {c : Char} {passed : Except Fault Unit} :
    ShapePresents .character c (.text ⟨.ok (String.ofList [c]), passed⟩)
  | boolean {b : Bool} {passed : Except Fault Unit} :
    ShapePresents .boolean b (.scalar ⟨.ok (.boolean b), passed⟩)
  | list {presents : Presenting} {item : Shape} {vs : List item.Value} {items : List Json}
    (hinner : inner = some presents) (h : List.Forall₂ (presents item) vs items) :
    ShapePresents (.list item) vs (.array items (.ok ()))
  | pair {presents : Presenting} {first second : Shape} {a : first.Value} {b : second.Value}
    {i j : Json} (hinner : inner = some presents) (hfirst : presents first a i)
    (hsecond : presents second b j) :
    ShapePresents (.pair first second) (a, b) (.array [i, j] (.ok ()))
  | node {kind : Kind} {value : kind.Node} {j : Json}
    (h : NodePresents inner (layoutOf kind) value j) : ShapePresents (.node kind) value j

end

/-- **Presents**: the tree presents the value of the shape, with at most the given number of arrays and
objects open at once in what is not passed over. -/
def Presents : Nat → Presenting
  | 0 => ShapePresents none
  | room + 1 => ShapePresents (some (Presents room))

/-- What is presented inside one more array or object, if there is room for it. -/
def inside : Nat → Option Presenting
  | 0 => none
  | room + 1 => some (Presents room)

theorem presents_eq (room : Nat) : Presents room = ShapePresents (inside room) := by
  cases room with
  | zero => rfl
  | succ room => rfl

theorem inside_eq_some {room : Nat} {presents : Presenting} (h : inside room = some presents) :
    ∃ less, room = less + 1 ∧ presents = Presents less := by
  cases room with
  | zero => cases h
  | succ less => exact ⟨less, rfl, (Option.some.inj h).symm⟩

/-- **presents_induction**: what holds of the relation of a place whenever it holds of the relation inside it
holds of all places. -/
theorem presents_induction {P : Presenting → Prop}
    (step : ∀ inner : Option Presenting, (∀ presents, inner = some presents → P presents) →
      P (ShapePresents inner))
    (room : Nat) : P (Presents room) := by
  induction room with
  | zero => exact step none nofun
  | succ room ih =>
    apply step
    intro presents hsome
    cases hsome
    exact ih

/-! ## §D Names in layouts -/

/-- **find?_named**: where all names are different, an item is found by its own name. -/
theorem find?_named {α : Type} {name : α → String} {items : List α} (hnodup : (items.map name).Nodup)
    {item : α} (hmem : item ∈ items) :
    items.find? (fun other => name other == name item) = some item := by
  induction items with
  | nil => cases hmem
  | cons first items ih =>
    rw [List.map_cons, List.nodup_cons] at hnodup
    rcases List.mem_cons.mp hmem with rfl | hmem
    · rw [List.find?_cons, beq_self_eq_true]
    · have hne : name first ≠ name item := by
        intro heq
        rw [heq] at hnodup
        exact hnodup.1 (List.mem_map_of_mem hmem)
      rw [List.find?_cons, beq_false_of_ne hne]
      exact ih hnodup.2 hmem

/-- The fields of a record all have different names. -/
theorem fields_nodup {k : Kind} {fs : List Field} {make : Values fs → Except Mismatch k.Node}
    (hlayout : layoutOf k = .record fs make) : (fs.map Field.name).Nodup := by
  cases k <;> cases hlayout <;> decide

/-- The variants of a choice all have different names. -/
theorem variants_nodup {k : Kind} {variants : List (Variant k.Node)}
    (hlayout : layoutOf k = .choice variants) : (variants.map Variant.name).Nodup := by
  cases k <;> cases hlayout <;> decide

end ScopeTable.Grammar
