/-
# ScopeTable.Proofs.Grammar.Normal -- writing a decoded node gives its normal text

A node may be presented in many ways: as arrays, with members left out, with others that mean nothing, with
unit variants as objects. Whatever was decoded, the written form is accepted again and stands for the same
node, so writing and reading go on giving the same text (`encode_normalises`).

Two things are to be shown of a node of which no more is known than that a tree presents it. Its leaves can be
written: spans run forwards and reals are finite. And the written form is not nested too deep, although it
holds everything that was left out. A default adds to the depth only where it stands in a class, a method or a
program, and these do not stand inside each other without bound; `Shape.fullDepth` says how deep they are at
most on account of defaults. Where expressions stand inside each other a default is an empty list, and beside
it stands something that takes up a place already.
-/
import ScopeTable.Proofs.Grammar.Acceptance
import ScopeTable.Proofs.Grammar.RoundTrip

namespace ScopeTable

open ScopeTable.Json

/-- A leaf that a decoded node can have: a span that runs forwards, or a finite real. -/
def Leaf.Sound : Leaf → Prop
  | .span s => s.Ordered
  | .real x => x.isFinite = true

namespace Grammar

/-! ## §A What the values of a record stem from -/

/-- The values of a record, each of them presented by some tree or missing. -/
inductive Gathered (presents : Presenting) : (fs : List Field) → Values fs → Prop where
  | nil : Gathered presents [] ()
  | given {f : Field} {fs : List Field} {v : f.Value} {vs : Values fs} {j : Json}
    (h : FieldPresents presents f v j) (hrest : Gathered presents fs vs) :
    Gathered presents (f :: fs) (v, vs)
  | missing {f : Field} {fs : List Field} {v : f.Value} {vs : Values fs} (h : f.absent? = some v)
    (hrest : Gathered presents fs vs) : Gathered presents (f :: fs) (v, vs)

section

variable {presents : Presenting} {fs : List Field} {vs : Values fs}

theorem RowPresents.gathered {items : List Json} (h : RowPresents presents fs vs items) :
    Gathered presents fs vs := by
  induction h with
  | nil => exact .nil
  | given h _ ih => exact .given h ih
  | missing h _ ih => exact .missing h ih

theorem MembersPresent.gathered {members : List Member} (h : MembersPresent presents fs vs members) :
    Gathered presents fs vs := by
  induction h with
  | rest => exact .nil
  | given _ h _ ih => exact .given h ih
  | missing _ h _ ih => exact .missing h ih

/-- A field that may not be missing is presented by some tree. -/
theorem Gathered.required (h : Gathered presents fs vs) {name : String} {shape : Shape}
    (hmem : .required name shape ∈ fs) : ∃ v j, presents shape v j := by
  induction h with
  | nil => cases hmem
  | given h _ ih =>
    rcases List.mem_cons.mp hmem with heq | hmem
    · subst heq
      cases h with
      | required h => exact ⟨_, _, h⟩
    · exact ih hmem
  | missing h _ ih =>
    rcases List.mem_cons.mp hmem with heq | hmem
    · subst heq
      cases h
    · exact ih hmem

end

/-! ## §B Leaves -/

/-- All leaves of what is presented are sound. -/
def AllSound (presents : Presenting) : Prop :=
  ∀ (t : Shape) (v : t.Value) (j : Json), presents t v j → ∀ leaf ∈ t.leaves v, leaf.Sound

/-- The leaves of the value of a field that is missing. -/
def Field.leavesMissing : Field → List Leaf
  | .required _ _ => []
  | .nullable _ _ => []
  | .defaulted _ shape value => shape.leaves value

theorem Field.leaves_absent {f : Field} {v : f.Value} (h : f.absent? = some v) :
    f.leaves v = f.leavesMissing := by
  cases f with
  | required => cases h
  | nullable =>
    cases h
    rfl
  | defaulted =>
    cases h
    rfl

section

variable {k : Kind} {fs : List Field} {make : Values fs → Except Mismatch k.Node}
  {variants : List (Variant k.Node)}

/-- Defaults have no leaves. -/
theorem leavesMissing_eq_nil (hlayout : layoutOf k = .record fs make) :
    fs.flatMap Field.leavesMissing = [] := by
  cases k <;> cases hlayout <;> rfl

/-- Variants without payload have no leaves. -/
theorem plain_leaves (hlayout : layoutOf k = .choice variants) {name : String} {node : k.Node}
    (hmem : .plain name node ∈ variants) : leaves k node = [] := by
  cases k
  all_goals cases hlayout
  case typeDenoter =>
    simp only [List.mem_cons, List.not_mem_nil, or_false, reduceCtorEq] at hmem
    rcases hmem with h | h | h | h <;> cases h <;> rfl
  -- Nothing else has both variants without payload and leaves.
  case relOp | addOp | mulOp | sign => rfl
  all_goals simp only [List.mem_cons, List.not_mem_nil, or_false, reduceCtorEq] at hmem

end

section

variable {presents : Presenting}

theorem FieldPresents.sound (hinner : AllSound presents) {f : Field} {v : f.Value} {j : Json}
    (h : FieldPresents presents f v j) : ∀ leaf ∈ f.leaves v, leaf.Sound := by
  cases h with
  | required h => exact hinner _ _ _ h
  | defaulted h => exact hinner _ _ _ h
  | null => exact List.forall_mem_nil _
  | given _ h => exact hinner _ _ _ h

theorem Gathered.sound (hinner : AllSound presents) {fs : List Field} {vs : Values fs}
    (h : Gathered presents fs vs) (hmissing : fs.flatMap Field.leavesMissing = []) :
    ∀ leaf ∈ Values.leaves fs vs, leaf.Sound := by
  induction h with
  | nil => exact List.forall_mem_nil _
  | given h _ ih =>
    rw [List.flatMap_cons, List.append_eq_nil_iff] at hmissing
    exact List.forall_mem_append.mpr ⟨h.sound hinner, ih hmissing.2⟩
  | missing h _ ih =>
    rw [List.flatMap_cons, List.append_eq_nil_iff] at hmissing
    refine List.forall_mem_append.mpr ⟨?_, ih hmissing.2⟩
    rw [Field.leaves_absent h, hmissing.1]
    exact List.forall_mem_nil _

theorem items_sound (hinner : AllSound presents) {item : Shape} {vs : List item.Value}
    {items : List Json} (h : List.Forall₂ (presents item) vs items) :
    ∀ leaf ∈ Shape.leaves (.list item) vs, leaf.Sound := by
  induction h with
  | nil => exact List.forall_mem_nil _
  | cons hfirst _ ih => exact List.forall_mem_append.mpr ⟨hinner _ _ _ hfirst, ih⟩

/-- A span is made of its fields only if it runs forwards; of any other record the leaves are those of its
fields. -/
theorem Gathered.node_sound (hinner : AllSound presents) {k : Kind} {fs : List Field}
    {make : Values fs → Except Mismatch k.Node} {vs : Values fs} {node : k.Node}
    (hlayout : layoutOf k = .record fs make) (h : Gathered presents fs vs)
    (hmake : make vs = .ok node) : ∀ leaf ∈ leaves k node, leaf.Sound := by
  by_cases hk : k = .span
  · subst hk
    cases hlayout
    obtain ⟨start, stop, ⟨⟩⟩ := vs
    dsimp only at hmake
    split at hmake
    · cases hmake
    · next hforwards =>
      cases hmake
      exact List.forall_mem_singleton.mpr (UInt32.not_lt.mp hforwards)
  · rw [record_leaves hk hlayout hmake]
    exact h.sound hinner (leavesMissing_eq_nil hlayout)

end

section

variable {inner : Option Presenting}

theorem NodePresents.sound (hinner : ∀ presents, inner = some presents → AllSound presents) {k : Kind}
    {node : k.Node} {j : Json} (h : NodePresents inner (layoutOf k) node j) :
    ∀ leaf ∈ leaves k node, leaf.Sound := by
  generalize hlayout : layoutOf k = layout at h
  cases h with
  | row hsome h hmake => exact h.gathered.node_sound (hinner _ hsome) hlayout hmake
  | object hsome h hmake => exact h.gathered.node_sound (hinner _ hsome) hlayout hmake
  | alone hmem =>
    rw [plain_leaves hlayout hmem]
    exact List.forall_mem_nil _
  | plain _ hmem =>
    rw [plain_leaves hlayout hmem]
    exact List.forall_mem_nil _
  | holding hsome hmem h =>
    rw [variant_leaves hlayout hmem]
    exact hinner _ hsome _ _ _ h

theorem ShapePresents.sound (hinner : ∀ presents, inner = some presents → AllSound presents)
    {s : Shape} {v : s.Value} {j : Json} (h : ShapePresents inner s v j) :
    ∀ leaf ∈ s.leaves v, leaf.Sound := by
  cases h with
  | text => exact List.forall_mem_nil _
  | line => exact List.forall_mem_nil _
  | offset => exact List.forall_mem_nil _
  | integer => exact List.forall_mem_nil _
  | real hfinite => exact List.forall_mem_singleton.mpr hfinite
  | character => exact List.forall_mem_nil _
  | boolean => exact List.forall_mem_nil _
  | list hsome h => exact items_sound (hinner _ hsome) h
  | pair hsome hfirst hsecond =>
    exact List.forall_mem_append.mpr ⟨hinner _ hsome _ _ _ hfirst, hinner _ hsome _ _ _ hsecond⟩
  | node h => exact h.sound hinner

end

/-- **Presents.sound**: in what a tree presents all spans run forwards and all reals are finite. -/
theorem Presents.sound (room : Nat) : AllSound (Presents room) :=
  presents_induction (fun _ hinner _ _ _ h => h.sound hinner) room

/-! ## §C How deep the written form is -/

/-- The depth of an array or object around what is this deep on account of defaults. Around what has none it
has none either. -/
def raised : Nat → Nat
  | 0 => 0
  | depth + 1 => depth + 2

/-- How deep a written node of the kind is at most on account of defaults. -/
def Kind.fullDepth : Kind → Nat
  | .functionBlock => 2
  | .functionDecl => 3
  | .classBlock => 5
  | .classDecl => 6
  | .program => 8
  | _ => 0

/-- How deep a written value of the shape is at most on account of defaults. -/
def Shape.fullDepth : Shape → Nat
  | .list item => raised item.fullDepth
  | .pair first second => raised (max first.fullDepth second.fullDepth)
  | .node k => k.fullDepth
  | _ => 0

/-- Whether a value of the shape is never presented but by an array or object. -/
def Shape.opens : Shape → Bool
  | .list _ => true
  | .pair _ _ => true
  | .node k =>
    match layoutOf k with
    | .record _ _ => true
    | .choice variants => variants.all fun variant => variant.payload?.isSome
  | _ => false

/-- Whether the field may not be missing and takes up a place. -/
def Field.opens : Field → Bool
  | .required _ shape => shape.opens
  | _ => false

/-- How deep the written value of a field is that is missing. -/
def Field.depthMissing : Field → Nat
  | .required _ _ => 0
  | .nullable _ _ => 0
  | .defaulted _ shape value => (shape.toJson value).depth

theorem Field.depth_absent {f : Field} {v : f.Value} (h : f.absent? = some v) :
    (f.toJson v).depth = f.depthMissing := by
  cases f with
  | required => cases h
  | nullable =>
    cases h
    rfl
  | defaulted =>
    cases h
    rfl

section

variable {k : Kind} {fs : List Field} {make : Values fs → Except Mismatch k.Node}
  {variants : List (Variant k.Node)}

/-- A record is as deep as its fields with their defaults. -/
theorem fields_fullDepth (hlayout : layoutOf k = .record fs make) :
    ∀ f ∈ fs, raised f.shape.fullDepth ≤ k.fullDepth := by
  cases k <;> cases hlayout <;> decide

/-- A choice is as deep as its payloads with their defaults. -/
theorem payloads_fullDepth (hlayout : layoutOf k = .choice variants) :
    ∀ variant ∈ variants, ∀ shape ∈ variant.payload?, raised shape.fullDepth ≤ k.fullDepth := by
  cases k <;> cases hlayout <;> decide

/-- **depthMissing_le**: a default is less deep than the record may be on account of defaults, or it is an
empty list and there is a field beside it that takes up a place. -/
theorem depthMissing_le (hlayout : layoutOf k = .record fs make) :
    ∀ f ∈ fs, f.depthMissing < max 1 k.fullDepth ∨ f.depthMissing ≤ 1 ∧ ∃ g ∈ fs, g.opens = true := by
  cases k <;> cases hlayout <;> decide

/-- The values of a record are given by the node that is made of them. -/
theorem make_injective (hlayout : layoutOf k = .record fs make) {vs ws : Values fs} {node : k.Node}
    (hv : make vs = .ok node) (hw : make ws = .ok node) : vs = ws := by
  cases k
  all_goals cases hlayout
  case span =>
    obtain ⟨start, stop, ⟨⟩⟩ := vs
    obtain ⟨start', stop', ⟨⟩⟩ := ws
    dsimp only at hv hw
    split at hv
    · cases hv
    split at hw
    · cases hw
    cases hv
    cases hw
    rfl
  -- All others are their values, one, three, four or two of them.
  case print =>
    obtain ⟨value, ⟨⟩⟩ := vs
    cases hv
    cases hw
    rfl
  case ident | classDecl | arrayType | conditional | actualParameter =>
    obtain ⟨first, second, third, ⟨⟩⟩ := vs
    cases hv
    cases hw
    rfl
  case functionDecl =>
    obtain ⟨name, params, returnType, block, ⟨⟩⟩ := vs
    cases hv
    cases hw
    rfl
  all_goals
    obtain ⟨first, second, ⟨⟩⟩ := vs
    cases hv
    cases hw
    rfl

/-- A variant without payload is written as its name. -/
theorem plain_toJson (hlayout : layoutOf k = .choice variants) {name : String} {node : k.Node}
    (hmem : .plain name node ∈ variants) : toJson k node = .string name := by
  cases k
  all_goals cases hlayout
  all_goals simp only [List.mem_cons, List.not_mem_nil, or_false, reduceCtorEq] at hmem
  case sign => rcases hmem with h | h <;> cases h <;> rfl
  case addOp => rcases hmem with h | h | h <;> cases h <;> rfl
  case typeDenoter => rcases hmem with h | h | h | h <;> cases h <;> rfl
  case mulOp => rcases hmem with h | h | h | h | h <;> cases h <;> rfl
  case relOp => rcases hmem with h | h | h | h | h | h <;> cases h <;> rfl

/-- A variant with a payload is written as an object of one member. -/
theorem variant_toJson (hlayout : layoutOf k = .choice variants) {name : String} {shape : Shape}
    {make : shape.Value → k.Node} (hmem : .holding name shape make ∈ variants) (v : shape.Value) :
    toJson k (make v) = .single name (shape.toJson v) := by
  cases k
  all_goals cases hlayout
  all_goals simp only [List.mem_cons, List.not_mem_nil, or_false, reduceCtorEq, false_or] at hmem
  case typeDenoter => rcases hmem with h | h <;> cases h <;> rfl
  case statement =>
    rcases hmem with h | h | h | h | h <;> cases h
    case inr.inr.inr.inr =>
      exact congrArg (fun items => Json.single "compound" (.ofList items)) (statement_listToJson v)
    all_goals rfl
  case negatableExpression => rcases hmem with h | h <;> cases h <;> rfl
  case primaryExpression => rcases hmem with h | h | h | h | h | h | h <;> cases h <;> rfl
  case literal => rcases hmem with h | h | h | h <;> cases h <;> rfl
  case variableAccess => rcases hmem with h | h | h <;> cases h <;> rfl

end

/-- The written form of what is presented in the given room is not deeper than the room, but for the defaults
of classes, methods and programs. -/
def WritesWithin (room : Nat) (presents : Presenting) : Prop :=
  ∀ (t : Shape) (v : t.Value) (j : Json), presents t v j → (t.toJson v).depth ≤ max room t.fullDepth

/-- One more array or object around it takes one more place. -/
theorem enclosed_le (room full : Nat) : max room full + 1 ≤ max (room + 1) (raised full) := by
  cases full with
  | zero => omega
  | succ full =>
    rw [raised]
    omega

theorem FieldPresents.written_depth {presents : Presenting} {room : Nat}
    (hinner : WritesWithin room presents) {f : Field} {v : f.Value} {j : Json}
    (h : FieldPresents presents f v j) :
    (f.toJson v).depth ≤ max room f.shape.fullDepth := by
  cases h with
  | required h => exact hinner _ _ _ h
  | defaulted h => exact hinner _ _ _ h
  | null => exact Nat.zero_le _
  | given _ h => exact hinner _ _ _ h

/-- Written fields are not deeper than those that are presented and those that are missing. -/
theorem Gathered.fields_depth {presents : Presenting} {fs : List Field} {vs : Values fs}
    {fields : List (String × Json)} {d : Nat} (hwritten : Written fs vs fields)
    (h : Gathered presents fs vs)
    (hpresented : ∀ f ∈ fs, ∀ v j, FieldPresents presents f v j → (f.toJson v).depth ≤ d)
    (hmissing : ∀ f ∈ fs, f.depthMissing ≤ d) : ∀ field ∈ fields, field.2.depth ≤ d := by
  induction hwritten with
  | nil => exact List.forall_mem_nil _
  | given _ ih =>
    rw [List.forall_mem_cons] at hpresented hmissing
    cases h with
    | given h hrest =>
      exact List.forall_mem_cons.mpr ⟨hpresented.1 _ _ h, ih hrest hpresented.2 hmissing.2⟩
    | missing h hrest =>
      refine List.forall_mem_cons.mpr ⟨?_, ih hrest hpresented.2 hmissing.2⟩
      rw [Field.depth_absent h]
      exact hmissing.1
  | omitted _ _ ih =>
    rw [List.forall_mem_cons] at hpresented hmissing
    cases h with
    | given _ hrest => exact ih hrest hpresented.2 hmissing.2
    | missing _ hrest => exact ih hrest hpresented.2 hmissing.2

/-- Without room nothing is presented that takes up a place. -/
theorem opens_inside {s : Shape} (hopens : s.opens = true) {room : Nat} {v : s.Value} {j : Json}
    (h : Presents room s v j) : 0 < room := by
  cases room with
  | succ room => exact Nat.succ_pos room
  | zero =>
    cases h with
    | list hsome => cases hsome
    | pair hsome => cases hsome
    | @node k _ _ h =>
      rw [Shape.opens] at hopens
      generalize layoutOf k = layout at h hopens
      cases h with
      | row hsome => cases hsome
      | object hsome => cases hsome
      | plain hsome => cases hsome
      | holding hsome => cases hsome
      | alone hmem => cases List.all_eq_true.mp hopens _ hmem
    | _ => cases hopens

/-- A record is written one place deeper than its fields. Where a default is deeper than the room, the record
may be as deep on account of defaults. -/
theorem Gathered.node_depth {room : Nat} (hinner : WritesWithin room (Presents room)) {k : Kind} {fs : List Field}
    {make : Values fs → Except Mismatch k.Node} {vs : Values fs} {node : k.Node}
    (hlayout : layoutOf k = .record fs make) (h : Gathered (Presents room) fs vs)
    (hmake : make vs = .ok node) : (toJson k node).depth ≤ max (room + 1) k.fullDepth := by
  have hpresented : ∀ f ∈ fs, ∀ v j, FieldPresents (Presents room) f v j →
      (f.toJson v).depth ≤ max room (k.fullDepth - 1) := by
    intro f hf v j hv
    have hdepth := hv.written_depth hinner
    have henclosed := enclosed_le room f.shape.fullDepth
    have hfull := fields_fullDepth hlayout f hf
    omega
  have hmissing : ∀ f ∈ fs, f.depthMissing ≤ max room (k.fullDepth - 1) := by
    intro f hf
    rcases depthMissing_le hlayout f hf with hless | ⟨hone, g, hg, hopens⟩
    · omega
    · -- The room is not empty, because the other field is presented in it.
      cases g with
      | required name shape =>
        obtain ⟨v, j, hv⟩ := h.required hg
        have hpos := opens_inside hopens hv
        omega
      | nullable => cases hopens
      | defaulted => cases hopens
  have hsound := h.node_sound (Presents.sound room) hlayout hmake
  have hwritten := node_written k node fun span hspan => hsound (.span span) hspan
  generalize toJson k node = j at hwritten ⊢
  cases hwritten with
  | plain hchoice => cases hlayout.symm.trans hchoice
  | holding hchoice => cases hlayout.symm.trans hchoice
  | record hrecord ws hws hwritten =>
    cases hlayout.symm.trans hrecord
    -- The values that are written are those that were gathered.
    rw [make_injective hlayout hws hmake] at hwritten
    have hdepth := depth_ofFields_le (h.fields_depth hwritten hpresented hmissing)
    omega

theorem items_written_depth {presents : Presenting} {room : Nat} (hinner : WritesWithin room presents)
    {item : Shape} {vs : List item.Value} {items : List Json}
    (h : List.Forall₂ (presents item) vs items) :
    ∀ j ∈ vs.map item.toJson, j.depth ≤ max room item.fullDepth := by
  induction h with
  | nil => exact List.forall_mem_nil _
  | cons hfirst _ ih => exact List.forall_mem_cons.mpr ⟨hinner _ _ _ hfirst, ih⟩

theorem integer_depth (n : Int64) : (Json.integer n).depth = 0 := by
  rw [Json.integer]
  split <;> rfl

section

variable {room : Nat} (hinner : ∀ less, less < room → WritesWithin less (Presents less))

include hinner

theorem NodePresents.written_depth {k : Kind} {node : k.Node} {j : Json}
    (h : NodePresents (inside room) (layoutOf k) node j) :
    (toJson k node).depth ≤ max room k.fullDepth := by
  generalize hlayout : layoutOf k = layout at h
  cases h with
  | row hsome h hmake =>
    obtain ⟨less, rfl, rfl⟩ := inside_eq_some hsome
    exact h.gathered.node_depth (hinner less (Nat.lt_succ_self less)) hlayout hmake
  | object hsome h hmake =>
    obtain ⟨less, rfl, rfl⟩ := inside_eq_some hsome
    exact h.gathered.node_depth (hinner less (Nat.lt_succ_self less)) hlayout hmake
  | alone hmem =>
    rw [plain_toJson hlayout hmem]
    exact Nat.zero_le _
  | plain _ hmem =>
    rw [plain_toJson hlayout hmem]
    exact Nat.zero_le _
  | holding hsome hmem h =>
    obtain ⟨less, rfl, rfl⟩ := inside_eq_some hsome
    rw [variant_toJson hlayout hmem]
    have hpayload := hinner less (Nat.lt_succ_self less) _ _ _ h
    have hfull := payloads_fullDepth hlayout _ hmem _ rfl
    calc (Json.single _ _).depth
      _ ≤ max less _ + 1 := depth_ofFields_le (List.forall_mem_singleton.mpr hpayload)
      _ ≤ max (less + 1) (raised _) := enclosed_le _ _
      _ ≤ max (less + 1) k.fullDepth := by omega

theorem ShapePresents.written_depth {s : Shape} {v : s.Value} {j : Json}
    (h : ShapePresents (inside room) s v j) : (s.toJson v).depth ≤ max room s.fullDepth := by
  cases h with
  | text => exact Nat.zero_le _
  | line => exact Nat.zero_le _
  | offset => exact Nat.zero_le _
  | @integer n => exact Nat.le_trans (Nat.le_of_eq (integer_depth n)) (Nat.zero_le _)
  | real => exact Nat.zero_le _
  | character => exact Nat.zero_le _
  | boolean => exact Nat.zero_le _
  | list hsome h =>
    obtain ⟨less, rfl, rfl⟩ := inside_eq_some hsome
    have hitems := items_written_depth (hinner less (Nat.lt_succ_self less)) h
    exact Nat.le_trans (depth_ofList_le hitems) (enclosed_le _ _)
  | @pair _ first second a b _ _ hsome hfirst hsecond =>
    obtain ⟨less, rfl, rfl⟩ := inside_eq_some hsome
    have hless := hinner less (Nat.lt_succ_self less)
    have hboth : ∀ j ∈ [first.toJson a, second.toJson b],
        j.depth ≤ max less (max first.fullDepth second.fullDepth) := by
      rw [List.forall_mem_cons, List.forall_mem_singleton]
      have ha := hless _ _ _ hfirst
      have hb := hless _ _ _ hsecond
      omega
    exact Nat.le_trans (depth_ofList_le hboth) (enclosed_le _ _)
  | node h => exact h.written_depth hinner

end

/-- **Presents.written_depth**: the written form of what is presented in some room fits into this room, but
for the defaults of classes, methods and programs. -/
theorem Presents.written_depth (room : Nat) : WritesWithin room (Presents room) := by
  induction room using Nat.strongRecOn with
  | _ room ih =>
    intro s v j h
    rw [presents_eq] at h
    exact h.written_depth ih

/-! ## §D Normal texts -/

/-- What is deep on account of defaults fits into the room there is. -/
theorem fullDepth_le (k : Kind) : k.fullDepth ≤ greatestDepth := by
  cases k <;> decide

/-- **encode_normalises**: whatever text a node was decoded from, its spans run forwards, its reals are finite,
and when it is written it is nested less than 128 levels deep. If the finite reals in it are read as they were
written, the written text is accepted and the same node is decoded from it, so that it is written as the same
text again. -/
theorem encode_normalises (k : Kind) (text : String) (node : k.Node) (h : decode k text = .ok node) :
    (∀ span, .span span ∈ leaves k node → span.Ordered) ∧
    (∀ x, .real x ∈ leaves k node → x.isFinite = true) ∧
    (toJson k node).depth < 128 ∧
    ((∀ x, .real x ∈ leaves k node → x.isFinite = true → (Number.real x).ReadsBack) →
      decode k (encode k node) = .ok node ∧
      (decode k (encode k node)).map (encode k) = .ok (encode k node)) := by
  obtain ⟨j, -, hpresents⟩ := decode_eq_ok_iff.mp h
  have hsound : ∀ leaf ∈ leaves k node, leaf.Sound :=
    Presents.sound greatestDepth _ _ _ hpresents
  have hdepth : (toJson k node).depth ≤ greatestDepth := by
    have hwritten : (toJson k node).depth ≤ max greatestDepth k.fullDepth :=
      Presents.written_depth greatestDepth _ _ _ hpresents
    rw [Nat.max_eq_left (fullDepth_le k)] at hwritten
    exact hwritten
  refine ⟨fun span => hsound (.span span), fun x => hsound (.real x), Nat.lt_succ_of_le hdepth, ?_⟩
  intro hreal
  have hwritable : Shape.Writable (.node k) node := by
    rintro (span | x) hleaf
    · exact hsound (.span span) hleaf
    · exact ⟨hsound (.real x) hleaf, hreal x hleaf (hsound (.real x) hleaf)⟩
  have hagain : decode k (encode k node) = .ok node := by
    refine decode_eq_ok_iff.mpr ⟨toJson k node, ?_, ?_⟩
    · rw [encode, render, String.toList_ofList]
      exact (toJson_legible (.node k) node hwritable).spelled
    · exact toJson_presents (.node k) node hwritable greatestDepth hdepth
  refine ⟨hagain, ?_⟩
  rw [hagain]
  rfl

/-- A print statement as it may be presented, with arrays down to the operand. -/
def roughPrint : Json :=
  .single "print" (.ofList [.ofList [.ofList [.ofList
    [.single "primary" (.single "literal" (.single "real" (.real 2.5)))]]]])

/-- The block of a class without its fields. One method is an object with the members in another order, one of
them meaning nothing, a unit variant as an object and no block; the other is an array. -/
def roughBlock : Json :=
  .single "methods" (.ofList
    [.ofFields
      [("return_type", .single "integer" .null),
        ("note", .ofList [.null, .single "methods" (.boolean true)]),
        ("name", .ofList [.string "m", .natural 2, .ofList [.natural 7, .natural 9]])],
      .ofList
        [.ofList [.string "k", .natural 3], .ofList [], .string "real",
          .ofList [.ofList [], .ofList [roughPrint]]]])

/-- A program in an odd presentation, with one class as above and one without a block. -/
def rough : Json :=
  .ofFields
    [("classes", .ofList
      [.ofFields [("block", roughBlock), ("name", .ofList [.string "A", .natural 1])],
        .ofFields [("name", .ofList [.string "B", .natural 4, .null])]]),
      ("name", .ofFields [("line", .natural 1), ("id", .string "p")])]

/-- The program that `rough` presents. -/
def roughProgram : Program :=
  ⟨.new "p" 1,
    [⟨.new "A" 1, none,
      ⟨[], [⟨⟨"m", 2, some ⟨7, 9⟩⟩, [], .integer, .empty⟩,
        ⟨.new "k" 3, [], .real, ⟨[], [.print ⟨literalAlone (.real 2.5)⟩]⟩⟩]⟩⟩,
      ⟨.new "B" 4, none, .empty⟩]⟩

theorem natural_legible (n : UInt64) : Legible (.natural n) := .number (natural_readsBack n)

theorem legible_items {items : List Json} (h : items.Forall Legible) : Legible (.ofList items) :=
  .ofList (List.forall_iff_forall_mem.mp h)

theorem legible_fields {fields : List (String × Json)} (h : fields.Forall fun field => Legible field.2) :
    Legible (.ofFields fields) :=
  .ofFields (List.forall_iff_forall_mem.mp h)

theorem roughPrint_legible : Legible roughPrint := by
  have hreal : Legible (.real 2.5) := .number twoPointFive_readsBack
  have hliteral : Legible (.single "literal" (.single "real" (.real 2.5))) :=
    legible_fields (legible_fields hreal)
  have hproduct : Legible (.ofList [.single "primary" _]) := legible_items (legible_fields hliteral)
  exact legible_fields (legible_items (legible_items (legible_items hproduct)))

theorem roughBlock_legible : Legible roughBlock := by
  have hnothing : Legible (.ofList []) := legible_items trivial
  have hinteger : Legible (.single "integer" .null) := legible_fields Legible.null
  have hnote : Legible (.ofList [.null, .single "methods" (.boolean true)]) :=
    legible_items ⟨.null, legible_fields (Legible.boolean true)⟩
  have hspan : Legible (.ofList [.natural 7, .natural 9]) :=
    legible_items ⟨natural_legible 7, natural_legible 9⟩
  have hm : Legible (.ofList [.string "m", .natural 2, .ofList [.natural 7, .natural 9]]) :=
    legible_items ⟨.string "m", natural_legible 2, hspan⟩
  have hk : Legible (.ofList [.string "k", .natural 3]) := legible_items ⟨.string "k", natural_legible 3⟩
  have hbody : Legible (.ofList [.ofList [], .ofList [roughPrint]]) :=
    legible_items ⟨hnothing, legible_items roughPrint_legible⟩
  apply legible_fields
  apply legible_items
  constructor
  · exact legible_fields ⟨hinteger, hnote, hm⟩
  · exact legible_items ⟨hk, hnothing, .string "real", hbody⟩

theorem rough_legible : Legible rough := by
  have ha : Legible (.ofList [.string "A", .natural 1]) := legible_items ⟨.string "A", natural_legible 1⟩
  have hb : Legible (.ofList [.string "B", .natural 4, .null]) :=
    legible_items ⟨.string "B", natural_legible 4, .null⟩
  apply legible_fields
  constructor
  · exact legible_items ⟨legible_fields ⟨roughBlock_legible, ha⟩, legible_fields hb⟩
  · exact legible_fields ⟨natural_legible 1, .string "p"⟩

set_option maxRecDepth 4000 in
theorem rough_decoded : decode .program rough.render = .ok roughProgram := by
  rw [decode, render, String.toList_ofList, Document.ofChars_written rough_legible]
  rfl

/-- The text of `rough` is not normal. The program is written as another, from which the same program is
decoded. -/
theorem rough_normalised :
    encode .program roughProgram ≠ rough.render ∧
      decode .program (encode .program roughProgram) = decode .program rough.render := by
  have hleaves : leaves .program roughProgram = [.span ⟨7, 9⟩, .real 2.5] := rfl
  have hreal : ∀ x, .real x ∈ leaves .program roughProgram → x.isFinite = true →
      (Number.real x).ReadsBack := by
    intro x hx _
    have heq : x = 2.5 := by simpa [hleaves] using hx
    rw [heq]
    exact twoPointFive_readsBack
  obtain ⟨-, -, -, hagain⟩ := encode_normalises .program rough.render roughProgram rough_decoded
  -- The first member is another one.
  have hfront : (toJson .program roughProgram).written.take 3 ≠ rough.written.take 3 := by decide +kernel
  constructor
  · intro heq
    exact hfront (congrArg (List.take 3) (String.ofList_injective heq))
  · rw [rough_decoded, (hagain hreal).1]
end Grammar

end ScopeTable
