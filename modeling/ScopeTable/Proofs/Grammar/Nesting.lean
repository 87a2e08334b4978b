/-
# ScopeTable.Proofs.Grammar.Nesting -- how deep a tree is nested where it is read

`Presents room` bounds the arrays and objects that may be open at once in what is not passed over. Here the
bound is taken apart from the grammar: `Presented` is the grammar without any bound, and `depthRead` counts how
deep a tree is nested where a reader of the given shape looks at all. Members that mean nothing are not looked
at, however deep they are. A tree presents a value within some room exactly if it presents the value at all and
is not nested deeper where it is read (`presents_iff`).
-/
import ScopeTable.Proofs.Grammar.Presentation

namespace ScopeTable.Grammar

open ScopeTable.Json

/-! ## §A Where a tree is read -/

/-- The shape of the values of a field. -/
def Field.shape : Field → Shape
  | .required _ shape => shape
  | .nullable _ shape => shape
  | .defaulted _ shape _ => shape

/-- The shape of the payload of a variant, if it has any. -/
def Variant.payload? {α : Type} : Variant α → Option Shape
  | .plain _ _ => none
  | .holding _ shape _ => some shape

namespace Shape

/-- The shape in which the item at a place of an array is read, if it is read. -/
def itemAt : Shape → Nat → Option Shape
  | list item, _ => some item
  | pair first _, 0 => some first
  | pair _ second, 1 => some second
  | node kind, place =>
    match layoutOf kind with
    | .record fs _ => fs[place]?.map Field.shape
    | .choice _ => none
  | _, _ => none

/-- The shape in which the member of the given name is read, if it is read. -/
def memberNamed : Shape → String → Option Shape
  | node kind, name =>
    match layoutOf kind with
    | .record fs _ => (fs.find? fun f => f.name == name).map Field.shape
    | .choice variants => (variants.find? fun v => v.name == name).bind Variant.payload?
  | _, _ => none

/-- The shape in which the value of a member is read, given its key. -/
def memberAt (s : Shape) : Json → Option Shape
  | .text ⟨.ok name, _⟩ => s.memberNamed name
  | _ => none

end Shape

mutual
/-- How many arrays and objects are open at once at the deepest place of a tree that is read in the given
shape. A tree that is not read counts for nothing. -/
def depthRead : Option Shape → Json → Nat
  | some s, .array items _ => depthReadItems s 0 items + 1
  | some s, .object members _ => depthReadMembers s members + 1
  | _, _ => 0
/-- The same for the items of an array from the given place on. -/
def depthReadItems (s : Shape) : Nat → List Json → Nat
  | _, [] => 0
  | place, item :: items => max (depthRead (s.itemAt place) item) (depthReadItems s (place + 1) items)
/-- The same for the members of an object. -/
def depthReadMembers (s : Shape) : List Member → Nat
  | [] => 0
  | .mk key value :: members => max (depthRead (s.memberAt key) value) (depthReadMembers s members)
end

/-- The tree presents the value of the shape, however deep it is nested. -/
def Presented : Presenting := fun s v j => ∃ room, Presents room s v j

theorem depthRead_none (j : Json) : depthRead none j = 0 := by
  rw [depthRead]
  · intro s items ending h
    cases h
  · intro s members ending h
    cases h

theorem depthReadMembers_le_iff {s : Shape} {members : List Member} {room : Nat} :
    depthReadMembers s members ≤ room ↔
      ∀ m ∈ members, depthRead (s.memberAt m.key) m.value ≤ room := by
  induction members with
  | nil => simp [depthReadMembers]
  | cons member members ih =>
    obtain ⟨key, value⟩ := member
    rw [depthReadMembers, Nat.max_le, ih, List.forall_mem_cons]
    rfl

/-! ## §B Look-ups in layouts -/

section

variable {k : Kind} {fs : List Field} {make : Values fs → Except Mismatch k.Node}
  {variants : List (Variant k.Node)}

/-- From the given place on, the items of an array are read as the fields. -/
def Shape.ReadsFrom (s : Shape) (place : Nat) (fs : List Field) : Prop :=
  ∀ i, s.itemAt (place + i) = fs[i]?.map Field.shape

theorem Shape.ReadsFrom.tail {s : Shape} {place : Nat} {f : Field} (h : s.ReadsFrom place (f :: fs)) :
    s.ReadsFrom (place + 1) fs := by
  intro i
  rw [Nat.add_right_comm]
  exact h (i + 1)

theorem readsFrom_record (hlayout : layoutOf k = .record fs make) : (Shape.node k).ReadsFrom 0 fs := by
  intro i
  rw [Nat.zero_add]
  simp only [Shape.itemAt, hlayout]

theorem memberNamed_field (hlayout : layoutOf k = .record fs make) {f : Field} (hf : f ∈ fs) :
    (Shape.node k).memberNamed f.name = some f.shape := by
  simp only [Shape.memberNamed, hlayout]
  rw [find?_named (fields_nodup hlayout) hf]
  rfl

theorem memberNamed_unknown (hlayout : layoutOf k = .record fs make) {name : String}
    (hname : ∀ f ∈ fs, f.name ≠ name) : (Shape.node k).memberNamed name = none := by
  simp only [Shape.memberNamed, hlayout]
  rw [List.find?_eq_none.mpr fun f hf => by simpa using hname f hf]
  rfl

theorem memberNamed_variant (hlayout : layoutOf k = .choice variants) {variant : Variant k.Node}
    (hmem : variant ∈ variants) : (Shape.node k).memberNamed variant.name = variant.payload? := by
  simp only [Shape.memberNamed, hlayout]
  rw [find?_named (variants_nodup hlayout) hmem]
  rfl

end

/-! ## §C What is presented within some room is not nested deeper -/

/-- No tree that presents a value is nested deeper. -/
def Bounded (presents : Presenting) (room : Nat) : Prop :=
  ∀ (t : Shape) (v : t.Value) (j : Json), presents t v j → depthRead (some t) j ≤ room

section

variable {presents : Presenting} {room : Nat} {s : Shape}

theorem FieldPresents.depth_le (hinner : Bounded presents room) {f : Field} {v : f.Value} {j : Json}
    (h : FieldPresents presents f v j) : depthRead (some f.shape) j ≤ room := by
  cases h with
  | required h => exact hinner _ _ _ h
  | defaulted h => exact hinner _ _ _ h
  | null => exact Nat.zero_le _
  | given _ h => exact hinner _ _ _ h

theorem RowPresents.depth_le (hinner : Bounded presents room)
    {fs : List Field} {vs : Values fs} {items : List Json} (h : RowPresents presents fs vs items)
    {place : Nat} (hreads : s.ReadsFrom place fs) : depthReadItems s place items ≤ room := by
  induction h generalizing place with
  | nil => exact Nat.zero_le _
  | given h _ ih =>
    have hfirst : s.itemAt place = _ := hreads 0
    rw [depthReadItems, hfirst]
    exact Nat.max_le.mpr ⟨h.depth_le hinner, ih hreads.tail⟩
  | missing => exact Nat.zero_le _

/-- Members that are left when all fields have taken theirs are not read. -/
theorem MembersPresent.depth_le (hinner : Bounded presents room) {fs : List Field} {vs : Values fs}
    {members : List Member} (h : MembersPresent presents fs vs members)
    (hfields : ∀ f ∈ fs, s.memberNamed f.name = some f.shape)
    (hothers : ∀ m ∈ members, ∀ name, Named name m → (∀ f ∈ fs, f.name ≠ name) →
      s.memberNamed name = none) :
    ∀ m ∈ members, depthRead (s.memberAt m.key) m.value ≤ room := by
  induction h with
  | rest h =>
    rintro ⟨key, value⟩ hm
    obtain ⟨⟨name, passed, rfl⟩, -⟩ := h _ hm
    have hnone : s.memberAt (.text ⟨.ok name, passed⟩) = none :=
      hothers _ hm name ⟨passed, rfl⟩ fun f hf => absurd hf List.not_mem_nil
    show depthRead (s.memberAt (.text ⟨.ok name, passed⟩)) value ≤ room
    rw [hnone, depthRead_none]
    exact Nat.zero_le _
  | @given f fs v vs j passed before after honly h _ ih =>
    rw [List.forall_mem_cons] at hfields
    have hrest := ih hfields.2 (by
      intro m hm name hname hnot
      refine hothers m ?_ name hname ?_
      · exact List.mem_append.mpr ((List.mem_append.mp hm).imp_right (List.mem_cons_of_mem _))
      · refine List.forall_mem_cons.mpr ⟨?_, hnot⟩
        rintro rfl
        exact honly m hm hname)
    intro m hm
    rcases List.mem_append.mp hm with hm | hm
    · exact hrest m (List.mem_append_left _ hm)
    · rcases List.mem_cons.mp hm with rfl | hm
      · show depthRead (s.memberNamed f.name) j ≤ room
        rw [hfields.1]
        exact h.depth_le hinner
      · exact hrest m (List.mem_append_right _ hm)
  | missing hnone _ _ ih =>
    rw [List.forall_mem_cons] at hfields
    refine ih hfields.2 ?_
    intro m hm name hname hnot
    refine hothers m hm name hname (List.forall_mem_cons.mpr ⟨?_, hnot⟩)
    rintro rfl
    exact hnone m hm hname

end

section

variable {inner : Option Presenting} {room : Nat}

theorem items_depth_le {presents : Presenting} {item : Shape} (hinner : Bounded presents room)
    {vs : List item.Value} {items : List Json} (h : List.Forall₂ (presents item) vs items) (place : Nat) :
    depthReadItems (.list item) place items ≤ room := by
  induction h generalizing place with
  | nil => exact Nat.zero_le _
  | cons hfirst _ ih => exact Nat.max_le.mpr ⟨hinner _ _ _ hfirst, ih (place + 1)⟩

/-- Inside an array or object there is one place less. -/
def BoundsInside (inner : Option Presenting) (room : Nat) : Prop :=
  ∀ presents, inner = some presents → ∃ less, room = less + 1 ∧ Bounded presents less

theorem NodePresents.depth_le (hinner : BoundsInside inner room) {k : Kind} {node : k.Node} {j : Json}
    {layout : Layout k.Node} (hlayout : layoutOf k = layout) (h : NodePresents inner layout node j) :
    depthRead (some (.node k)) j ≤ room := by
  cases h with
  | row hsome h _ =>
    obtain ⟨less, rfl, hless⟩ := hinner _ hsome
    apply Nat.succ_le_succ
    exact h.depth_le hless (readsFrom_record hlayout)
  | object hsome h _ =>
    obtain ⟨less, rfl, hless⟩ := hinner _ hsome
    apply Nat.succ_le_succ
    apply depthReadMembers_le_iff.mpr
    exact h.depth_le hless (fun f => memberNamed_field hlayout) fun _ _ _ _ => memberNamed_unknown hlayout
  | alone => exact Nat.zero_le _
  | @plain _ _ name _ _ _ hsome hmem =>
    obtain ⟨less, rfl, -⟩ := hinner _ hsome
    apply Nat.succ_le_succ
    have hnamed : (Shape.node k).memberNamed name = none := memberNamed_variant hlayout hmem
    show max (depthRead ((Shape.node k).memberNamed name) _) 0 ≤ less
    rw [hnamed, depthRead_none]
    exact Nat.zero_le _
  | @holding _ _ name shape _ _ _ _ hsome hmem h =>
    obtain ⟨less, rfl, hless⟩ := hinner _ hsome
    apply Nat.succ_le_succ
    have hnamed : (Shape.node k).memberNamed name = some shape := memberNamed_variant hlayout hmem
    show max (depthRead ((Shape.node k).memberNamed name) _) 0 ≤ less
    rw [hnamed, Nat.max_zero]
    exact hless _ _ _ h

theorem ShapePresents.depth_le (hinner : BoundsInside inner room) {s : Shape} {v : s.Value} {j : Json}
    (h : ShapePresents inner s v j) : depthRead (some s) j ≤ room := by
  cases h with
  | text => exact Nat.zero_le _
  | line => exact Nat.zero_le _
  | offset => exact Nat.zero_le _
  | integer => exact Nat.zero_le _
  | real => exact Nat.zero_le _
  | character => exact Nat.zero_le _
  | boolean => exact Nat.zero_le _
  | list hsome h =>
    obtain ⟨less, rfl, hless⟩ := hinner _ hsome
    apply Nat.succ_le_succ
    exact items_depth_le hless h 0
  | pair hsome hfirst hsecond =>
    obtain ⟨less, rfl, hless⟩ := hinner _ hsome
    apply Nat.succ_le_succ
    exact Nat.max_le.mpr ⟨hless _ _ _ hfirst, Nat.max_le.mpr ⟨hless _ _ _ hsecond, Nat.zero_le _⟩⟩
  | node h => exact h.depth_le hinner rfl

end

/-- What is presented within some room is not nested deeper. -/
theorem Presents.depth_le {room : Nat} {s : Shape} {v : s.Value} {j : Json} (h : Presents room s v j) :
    depthRead (some s) j ≤ room := by
  induction room generalizing s v j with
  | zero =>
    refine ShapePresents.depth_le ?_ h
    intro presents hsome
    cases hsome
  | succ room ih =>
    refine ShapePresents.depth_le ?_ h
    intro presents hsome
    cases hsome
    exact ⟨room, rfl, fun _ _ _ => ih⟩

/-! ## §D What is not nested deeper is presented within the room -/

/-- A tree that presents a value and is not nested deeper presents it in the other sense too. -/
def FitsIn (presents others : Presenting) (room : Nat) : Prop :=
  ∀ (t : Shape) (v : t.Value) (j : Json), presents t v j → depthRead (some t) j ≤ room → others t v j

section

variable {presents others : Presenting} {room : Nat} {s : Shape}

theorem FieldPresents.fits (hinner : FitsIn presents others room) {f : Field} {v : f.Value} {j : Json}
    (h : FieldPresents presents f v j) (hdepth : depthRead (some f.shape) j ≤ room) :
    FieldPresents others f v j := by
  cases h with
  | required h => exact .required (hinner _ _ _ h hdepth)
  | defaulted h => exact .defaulted (hinner _ _ _ h hdepth)
  | null => exact .null
  | given hnull h => exact .given hnull (hinner _ _ _ h hdepth)

theorem RowPresents.fits (hinner : FitsIn presents others room) {fs : List Field} {vs : Values fs}
    {items : List Json} (h : RowPresents presents fs vs items) {place : Nat}
    (hreads : s.ReadsFrom place fs) (hdepth : depthReadItems s place items ≤ room) :
    RowPresents others fs vs items := by
  induction h generalizing place with
  | nil => exact .nil
  | given h _ ih =>
    have hfirst : s.itemAt place = _ := hreads 0
    rw [depthReadItems, hfirst, Nat.max_le] at hdepth
    exact .given (h.fits hinner hdepth.1) (ih hreads.tail hdepth.2)
  | missing habsent _ ih => exact .missing habsent (ih hreads.tail (Nat.zero_le _))

theorem MembersPresent.fits (hinner : FitsIn presents others room) {fs : List Field} {vs : Values fs}
    {members : List Member} (h : MembersPresent presents fs vs members)
    (hfields : ∀ f ∈ fs, s.memberNamed f.name = some f.shape)
    (hdepth : ∀ m ∈ members, depthRead (s.memberAt m.key) m.value ≤ room) :
    MembersPresent others fs vs members := by
  induction h with
  | rest h => exact .rest h
  | @given f fs v vs j passed before after honly h _ ih =>
    rw [List.forall_mem_cons] at hfields
    rw [List.forall_mem_append, List.forall_mem_cons] at hdepth
    obtain ⟨hbefore, hvalue, hafter⟩ := hdepth
    change depthRead (s.memberNamed f.name) j ≤ room at hvalue
    rw [hfields.1] at hvalue
    exact .given honly (h.fits hinner hvalue)
      (ih hfields.2 (List.forall_mem_append.mpr ⟨hbefore, hafter⟩))
  | missing hnone habsent _ ih =>
    rw [List.forall_mem_cons] at hfields
    exact .missing hnone habsent (ih hfields.2 hdepth)

theorem items_fit {item : Shape} (hinner : FitsIn presents others room) {vs : List item.Value}
    {items : List Json} (h : List.Forall₂ (presents item) vs items) {place : Nat}
    (hdepth : depthReadItems (.list item) place items ≤ room) : List.Forall₂ (others item) vs items := by
  induction h generalizing place with
  | nil => exact .nil
  | cons hfirst _ ih =>
    have hmax := Nat.max_le.mp hdepth
    exact .cons (hinner _ _ _ hfirst hmax.1) (ih hmax.2)

end

section

variable {inner : Option Presenting} {room : Nat}

/-- What is inside an array or object is presented within whatever room it fits in. -/
def FitsInside (inner : Option Presenting) : Prop :=
  ∀ presents, inner = some presents → ∀ less, FitsIn presents (Presents less) less

/-- An array or object takes up one place, and what is inside it fits in what is left. -/
theorem FitsInside.step {presents : Presenting} (hinner : FitsInside inner) (hsome : inner = some presents)
    {depth : Nat} (hdepth : depth + 1 ≤ room) :
    ∃ less, depth ≤ less ∧ inside room = some (Presents less) ∧ FitsIn presents (Presents less) less := by
  cases room with
  | zero => omega
  | succ less => exact ⟨less, Nat.le_of_succ_le_succ hdepth, rfl, hinner _ hsome less⟩

theorem NodePresents.fits (hinner : FitsInside inner) {k : Kind} {node : k.Node} {j : Json}
    {layout : Layout k.Node} (hlayout : layoutOf k = layout) (h : NodePresents inner layout node j)
    (hdepth : depthRead (some (.node k)) j ≤ room) : NodePresents (inside room) layout node j := by
  cases h with
  | row hsome h hmake =>
    obtain ⟨less, hdepth, hroom, hfits⟩ := hinner.step hsome hdepth
    exact .row hroom (h.fits hfits (readsFrom_record hlayout) hdepth) hmake
  | object hsome h hmake =>
    obtain ⟨less, hdepth, hroom, hfits⟩ := hinner.step hsome hdepth
    have hmembers := depthReadMembers_le_iff.mp hdepth
    exact .object hroom (h.fits hfits (fun f => memberNamed_field hlayout) hmembers) hmake
  | alone hmem => exact .alone hmem
  | plain hsome hmem =>
    obtain ⟨less, -, hroom, -⟩ := hinner.step hsome hdepth
    exact .plain hroom hmem
  | @holding _ _ name shape _ _ _ _ hsome hmem h =>
    obtain ⟨less, hdepth, hroom, hfits⟩ := hinner.step hsome hdepth
    have hnamed : (Shape.node k).memberNamed name = some shape := memberNamed_variant hlayout hmem
    have hpayload := (Nat.max_le.mp hdepth).1
    change depthRead ((Shape.node k).memberNamed name) _ ≤ less at hpayload
    rw [hnamed] at hpayload
    exact .holding hroom hmem (hfits _ _ _ h hpayload)

theorem ShapePresents.fits (hinner : FitsInside inner) {s : Shape} {v : s.Value} {j : Json}
    (h : ShapePresents inner s v j) (hdepth : depthRead (some s) j ≤ room) :
    ShapePresents (inside room) s v j := by
  cases h with
  | text => exact .text
  | line hm => exact .line hm
  | offset hm => exact .offset hm
  | integer hm => exact .integer hm
  | real hfinite => exact .real hfinite
  | character => exact .character
  | boolean => exact .boolean
  | list hsome h =>
    obtain ⟨less, hdepth, hroom, hfits⟩ := hinner.step hsome hdepth
    exact .list hroom (items_fit hfits h hdepth)
  | pair hsome hfirst hsecond =>
    obtain ⟨less, hdepth, hroom, hfits⟩ := hinner.step hsome hdepth
    have hmax := Nat.max_le.mp hdepth
    exact .pair hroom (hfits _ _ _ hfirst hmax.1) (hfits _ _ _ hsecond (Nat.max_le.mp hmax.2).1)
  | node h => exact .node (h.fits hinner rfl hdepth)

end

/-- What is presented within some room is presented within any other that it fits in. -/
theorem Presents.fits (more room : Nat) : FitsIn (Presents more) (Presents room) room := by
  refine presents_induction (P := fun presents => ∀ room, FitsIn presents (Presents room) room) ?_ more room
  intro inner hinner room s v j h hdepth
  rw [presents_eq]
  exact h.fits hinner hdepth

/-- **presents_iff**: a tree presents a value within some room exactly if it presents the value and is not nested
deeper where it is read. -/
theorem presents_iff {room : Nat} {s : Shape} {v : s.Value} {j : Json} :
    Presents room s v j ↔ Presented s v j ∧ depthRead (some s) j ≤ room := by
  constructor
  · intro h
    exact ⟨⟨room, h⟩, h.depth_le⟩
  · rintro ⟨⟨more, h⟩, hdepth⟩
    exact Presents.fits more room s v j h hdepth

end ScopeTable.Grammar
