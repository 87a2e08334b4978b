/-
# ScopeTable.Proofs.Grammar.RoundTrip -- reading a written tree gives it back

A tree is written as a text and the text read again. The text spells the tree of JSON that was written
(`Legible`, from the side of the text), and this tree presents the node (`Presents`, from the side of the
grammar), so the reader accepts it with this node. Both are proved for all shapes at once, by induction on
how deep the written form is: what stands inside an array or object is less deep than the whole.
-/
import ScopeTable.Proofs.Grammar.Reading
import ScopeTable.Proofs.Grammar.Writing
import ScopeTable.Proofs.Json.Written

namespace ScopeTable

open ScopeTable.Json

/-- A leaf that comes back from its text: a span that runs forwards, or a finite real that is read as it
was written. -/
def Leaf.Writable : Leaf → Prop
  | .span s => s.Ordered
  | .real x => x.isFinite = true ∧ (Number.real x).ReadsBack

namespace Grammar

/-! ## §A Induction on the written form -/

/-- All leaves of a value come back from their texts. -/
def Shape.Writable (s : Shape) (v : s.Value) : Prop := ∀ leaf ∈ s.leaves v, leaf.Writable

/-- The property holds of all values that can be written and are less deep than the given depth. -/
def Below (d : Nat) (P : (s : Shape) → s.Value → Prop) : Prop :=
  ∀ (t : Shape) (w : t.Value), (t.toJson w).depth < d → t.Writable w → P t w

/-- **written_induction**: what holds of a value whenever it holds of all less deep ones holds of all. -/
theorem written_induction {P : (s : Shape) → s.Value → Prop}
    (step : ∀ (s : Shape) (v : s.Value), s.Writable v → Below (s.toJson v).depth P → P s v)
    (s : Shape) (v : s.Value) (h : s.Writable v) : P s v := by
  induction hd : (s.toJson v).depth using Nat.strongRecOn generalizing s v with
  | _ d ih =>
    subst hd
    apply step s v h
    intro t w hless hw
    exact ih _ hless t w hw rfl

/-- The items of a list can be written when the list can. -/
theorem Shape.Writable.item {item : Shape} {vs : List item.Value} {w : item.Value}
    (h : Shape.Writable (.list item) vs) (hw : w ∈ vs) : item.Writable w := by
  intro leaf hleaf
  apply h leaf
  exact List.mem_flatMap.mpr ⟨w, hw, hleaf⟩

/-- The fields of a record can be written when the node can. -/
theorem Shape.Writable.fields {k : Kind} {fs : List Field} {make : Values fs → Except Mismatch k.Node}
    {vs : Values fs} {node : k.Node} (h : Shape.Writable (.node k) node)
    (hlayout : layoutOf k = .record fs make) (hmake : make vs = .ok node) :
    ∀ leaf ∈ Values.leaves fs vs, leaf.Writable := by
  by_cases hk : k = .span
  · subst hk
    cases hlayout
    -- A span is a leaf itself and its fields have none.
    intro leaf hleaf
    cases hleaf
  · rw [← record_leaves hk hlayout hmake]
    exact h

/-- The payload of a variant can be written when the node can. -/
theorem Shape.Writable.payload {k : Kind} {variants : List (Variant k.Node)} {name : String}
    {shape : Shape} {make : shape.Value → k.Node} {v : shape.Value}
    (h : Shape.Writable (.node k) (make v)) (hlayout : layoutOf k = .choice variants)
    (hmem : .holding name shape make ∈ variants) : shape.Writable v := by
  intro leaf hleaf
  apply h leaf
  show leaf ∈ Grammar.leaves k (make v)
  rw [variant_leaves hlayout hmem]
  exact hleaf

/-- A node that can be written is written by its layout. -/
theorem Shape.Writable.node_written {k : Kind} {node : k.Node} (h : Shape.Writable (.node k) node) :
    NodeWritten node (Grammar.toJson k node) := by
  apply Grammar.node_written
  intro span hspan
  exact h (.span span) hspan

/-- A written node is an object or a string. -/
theorem nodeWritten_ne_nothing {k : Kind} {node : k.Node} {j : Json} (h : NodeWritten node j)
    (lexeme : Lexeme Unit) : j ≠ .nothing lexeme := by
  cases h with
  | record => exact nofun
  | plain => exact nofun
  | holding => exact nofun

/-- Nothing is written as `null` but a field that is missing. -/
theorem toJson_ne_nothing {s : Shape} {v : s.Value} (h : s.Writable v) (lexeme : Lexeme Unit) :
    s.toJson v ≠ .nothing lexeme := by
  cases s with
  | node k => exact nodeWritten_ne_nothing h.node_written lexeme
  | _ => exact nofun

/-! ## §B The written form is legible -/

section

variable {d : Nat} (ih : Below d fun t w => Legible (t.toJson w))

include ih

theorem field_legible {f : Field} {v : f.Value} (hdepth : (f.toJson v).depth < d)
    (hleaves : ∀ leaf ∈ f.leaves v, leaf.Writable) :
    Legible (f.toJson v) := by
  cases f with
  | required name shape => exact ih shape v hdepth hleaves
  | defaulted name shape default => exact ih shape v hdepth hleaves
  | nullable name shape =>
    cases v with
    | none => exact .null
    | some v => exact ih shape v hdepth hleaves

theorem written_legible {fs : List Field} {vs : Values fs} {fields : List (String × Json)}
    (h : Written fs vs fields) (hdepth : ∀ field ∈ fields, field.2.depth < d)
    (hleaves : ∀ leaf ∈ Values.leaves fs vs, leaf.Writable) :
    ∀ field ∈ fields, Legible field.2 := by
  induction h with
  | nil => exact List.forall_mem_nil _
  | given hrest ihrest =>
    obtain ⟨hfirst, hothers⟩ := List.forall_mem_append.mp hleaves
    obtain ⟨hd, hds⟩ := List.forall_mem_cons.mp hdepth
    exact List.forall_mem_cons.mpr ⟨field_legible ih hd hfirst, ihrest hds hothers⟩
  | omitted _ hrest ihrest => exact ihrest hdepth (List.forall_mem_append.mp hleaves).2

theorem node_legible {k : Kind} {node : k.Node} {j : Json} (h : NodeWritten node j)
    (hnode : Shape.Writable (.node k) node) (hd : d = j.depth) : Legible j := by
  subst hd
  cases h with
  | plain => exact .string _
  | record hlayout vs hmake h =>
    apply Legible.ofFields
    refine written_legible ih h ?_ (hnode.fields hlayout hmake)
    intro field hfield
    exact depth_ofFields hfield
  | holding hlayout hmem v hmake =>
    subst hmake
    apply Legible.ofFields
    rw [List.forall_mem_singleton]
    exact ih _ v (depth_ofFields List.mem_cons_self) (hnode.payload hlayout hmem)

end

theorem integer_legible (n : Int64) : Legible (.integer n) := by
  rw [Json.integer]
  split
  · next hneg => exact .number (negative_readsBack n hneg)
  · exact .number (natural_readsBack _)

/-- **toJson_legible**: the written form of a value is a tree that its text spells. -/
theorem toJson_legible (s : Shape) (v : s.Value) (h : s.Writable v) : Legible (s.toJson v) := by
  refine written_induction (P := fun s v => Legible (s.toJson v)) ?_ s v h
  intro s v h ih
  cases s with
  | text => exact .string v
  | line => exact .number (natural_readsBack v)
  | offset => exact .number (natural_readsBack _)
  | integer => exact integer_legible v
  | real => exact .number (h (.real v) List.mem_cons_self).2
  | character => exact .string _
  | boolean => exact .boolean v
  | list item =>
    apply Legible.ofList
    intro j hj
    obtain ⟨w, hw, rfl⟩ := List.mem_map.mp hj
    exact ih item w (depth_ofList hj) (h.item hw)
  | pair first second =>
    obtain ⟨a, b⟩ := v
    obtain ⟨ha, hb⟩ := List.forall_mem_append.mp h
    apply Legible.ofList
    rw [List.forall_mem_cons, List.forall_mem_singleton]
    constructor
    · exact ih first a (depth_ofList List.mem_cons_self) ha
    · exact ih second b (depth_ofList (List.mem_cons_of_mem _ List.mem_cons_self)) hb
  | node k => exact node_legible ih h.node_written h rfl

/-! ## §C The written form presents the value -/

/-- No member is written under a name that no field has. -/
theorem not_named_written {fs : List Field} {vs : Values fs} {fields : List (String × Json)}
    (h : Written fs vs fields) {name : String} (hname : name ∉ fs.map Field.name) :
    ∀ m ∈ fields.map fun field => Member.mk (.string field.1) field.2, ¬Named name m := by
  induction h with
  | nil => exact List.forall_mem_nil _
  | given hrest ih =>
    rw [List.map_cons, List.mem_cons, not_or] at hname
    refine List.forall_mem_cons.mpr ⟨?_, ih hname.2⟩
    rintro ⟨passed, heq⟩
    cases heq
    exact hname.1 rfl
  | omitted _ hrest ih =>
    rw [List.map_cons, List.mem_cons, not_or] at hname
    exact ih hname.2

section

variable {d : Nat} {presents : Presenting}
  (ih : Below d fun t w => presents t w (t.toJson w))

include ih

theorem field_presents {f : Field} {v : f.Value} (hdepth : (f.toJson v).depth < d)
    (hleaves : ∀ leaf ∈ f.leaves v, leaf.Writable) : FieldPresents presents f v (f.toJson v) := by
  cases f with
  | required name shape => exact .required (ih shape v hdepth hleaves)
  | defaulted name shape default => exact .defaulted (ih shape v hdepth hleaves)
  | nullable name shape =>
    cases v with
    | none => exact .null
    | some v =>
      -- A value that is there must not be written as `null`, or it would be read as missing.
      exact .given (toJson_ne_nothing hleaves) (ih shape v hdepth hleaves)

theorem members_present {fs : List Field} {vs : Values fs} {fields : List (String × Json)}
    (h : Written fs vs fields) (hnodup : (fs.map Field.name).Nodup)
    (hdepth : ∀ field ∈ fields, field.2.depth < d)
    (hleaves : ∀ leaf ∈ Values.leaves fs vs, leaf.Writable) :
    MembersPresent presents fs vs
      (fields.map fun field => Member.mk (.string field.1) field.2) := by
  induction h with
  | nil => exact .rest (List.forall_mem_nil _)
  | given hrest ihrest =>
    rw [List.map_cons, List.nodup_cons] at hnodup
    obtain ⟨hfirst, hothers⟩ := List.forall_mem_append.mp hleaves
    obtain ⟨hd, hds⟩ := List.forall_mem_cons.mp hdepth
    apply MembersPresent.first
    · exact not_named_written hrest hnodup.1
    · exact field_presents ih hd hfirst
    · exact ihrest hnodup.2 hds hothers
  | omitted habsent hrest ihrest =>
    rw [List.map_cons, List.nodup_cons] at hnodup
    refine .missing (not_named_written hrest hnodup.1) habsent ?_
    exact ihrest hnodup.2 hdepth (List.forall_mem_append.mp hleaves).2

end

/-- The property that is proved by induction: the written form presents the value wherever there is room
for it. -/
def PresentsWritten (s : Shape) (v : s.Value) : Prop :=
  ∀ room, (s.toJson v).depth ≤ room → Presents room s v (s.toJson v)

/-- Inside an array or object there is one place less, and what is less deep fits in. -/
theorem below_inside {d room : Nat} (ih : Below d PresentsWritten) (hpos : 0 < d) (hroom : d ≤ room) :
    ∃ presents, inside room = some presents ∧ Below d fun t w => presents t w (t.toJson w) := by
  cases room with
  | zero => omega
  | succ room =>
    refine ⟨Presents room, rfl, ?_⟩
    intro t w hless hw
    exact ih t w hless hw room (by omega)

theorem node_presents {k : Kind} {node : k.Node} {j : Json} {room : Nat} (h : NodeWritten node j)
    (hnode : Shape.Writable (.node k) node) (ih : Below j.depth PresentsWritten)
    (hroom : j.depth ≤ room) : NodePresents (inside room) (layoutOf k) node j := by
  cases h with
  | plain hlayout hmem =>
    rw [hlayout]
    exact .alone hmem
  | record hlayout vs hmake h =>
    obtain ⟨presents, hinner, ih⟩ := below_inside ih (Nat.succ_pos _) hroom
    have hvalues := hnode.fields hlayout hmake
    rw [hlayout]
    refine .object hinner (members_present ih h (fields_nodup hlayout) ?_ hvalues) hmake
    intro field hfield
    exact depth_ofFields hfield
  | holding hlayout hmem v hmake =>
    subst hmake
    obtain ⟨presents, hinner, ih⟩ := below_inside ih (Nat.succ_pos _) hroom
    have hpayload := ih _ v (depth_ofFields List.mem_cons_self) (hnode.payload hlayout hmem)
    rw [hlayout]
    exact .holding hinner hmem hpayload

theorem offset_presents {inner : Option Presenting} (n : UInt32) :
    ShapePresents inner .offset n (.natural n.toUInt64) := by
  refine .offset ?_
  rw [← UInt32.toNat_toUInt64]
  exact .natural _

theorem integer_presents {inner : Option Presenting} (n : Int64) :
    ShapePresents inner .integer n (.integer n) := by
  refine .integer ?_
  split
  · exact .negative n
  · next hneg =>
    have hle : 0 ≤ n := Int64.not_lt.mp hneg
    have hworth : (n.toUInt64.toNat : Int) = n.toInt := by
      rw [Int64.toNat_toUInt64_of_le hle]
      exact Int.toNat_of_nonneg (Int64.le_iff_toInt_le.mp hle)
    rw [← hworth]
    exact .natural _

theorem real_presents {inner : Option Presenting} {x : Float} (h : x.isFinite = true) :
    ShapePresents inner .real x (.real x) :=
  .real (n := .real x) h

/-- **toJson_presents**: the written form of a value presents it, wherever there is room for its depth. -/
theorem toJson_presents (s : Shape) (v : s.Value) (h : s.Writable v) : PresentsWritten s v := by
  refine written_induction (P := PresentsWritten) ?_ s v h
  intro s v h ih room hroom
  rw [presents_eq]
  cases s with
  | text => exact .text
  | line => exact .line (.natural v)
  | offset => exact offset_presents v
  | integer => exact integer_presents v
  | real => exact real_presents (h (.real v) List.mem_cons_self).1
  | character => exact .character
  | boolean => exact .boolean
  | list item =>
    obtain ⟨presents, hinner, ih⟩ := below_inside ih (Nat.succ_pos _) hroom
    apply ShapePresents.list hinner
    apply List.forall₂_map_right_iff.mpr
    apply List.forall₂_same.mpr
    intro w hw
    exact ih item w (depth_ofList (List.mem_map_of_mem hw)) (h.item hw)
  | pair first second =>
    obtain ⟨a, b⟩ := v
    obtain ⟨ha, hb⟩ := List.forall_mem_append.mp h
    obtain ⟨presents, hinner, ih⟩ := below_inside ih (Nat.succ_pos _) hroom
    apply ShapePresents.pair hinner
    · exact ih first a (depth_ofList List.mem_cons_self) ha
    · exact ih second b (depth_ofList (List.mem_cons_of_mem _ List.mem_cons_self)) hb
  | node k => exact .node (node_presents h.node_written h ih hroom)

/-! ## §D Round trip -/

/-- **decode_encode**: reading undoes writing for every tree of every kind in which all spans run forwards
and all reals are finite, if its text is not nested too deep and the finite reals in it are read as they
were written. -/
theorem decode_encode (k : Kind) (node : k.Node)
    (hspan : ∀ span, .span span ∈ leaves k node → span.Ordered)
    (hfinite : ∀ x, .real x ∈ leaves k node → x.isFinite = true)
    (hreal : ∀ x, .real x ∈ leaves k node → x.isFinite = true → (Number.real x).ReadsBack)
    (hdepth : (toJson k node).depth < 128) : decode k (encode k node) = .ok node := by
  have hleaves : Shape.Writable (.node k) node := by
    rintro (span | x) hleaf
    · exact hspan span hleaf
    · exact ⟨hfinite x hleaf, hreal x hleaf (hfinite x hleaf)⟩
  have hread : read greatestDepth (.node k) (toJson k node) = .ok node := by
    apply read_iff.mpr
    exact toJson_presents (.node k) node hleaves greatestDepth (Nat.le_of_lt_succ hdepth)
  have hdocument : Document.ofChars (encode k node).toList = ⟨toJson k node, .ok ()⟩ := by
    rw [encode, render, String.toList_ofList]
    exact Document.ofChars_written (toJson_legible (.node k) node hleaves)
  rw [decode, hdocument, decodeDocument, hread]
  rfl

/-- A literal as an expression of its own. -/
def literalAlone (value : Literal) : Expression := ⟨⟨⟨.primary (.literal value), []⟩, []⟩, none⟩

/-- A program with a quote, a backslash, a line feed, a control character and characters beyond ASCII in its
names, which assigns a character and a real. -/
def oddlySpelled : Program :=
  ⟨.new "a\"b\\c\nd\x01" 1,
    [⟨⟨"Größe😀", 2, some ⟨4, 9⟩⟩, none,
      ⟨[⟨[⟨"x", 3, some ⟨20, 20⟩⟩], .real⟩],
        [⟨.new "m" 4, [], .array ⟨-3, 3, .char⟩,
          ⟨[], [.assignment ⟨.identifier (.new "x" 5), literalAlone (.real 2.5)⟩,
            .assignment ⟨.identifier (.new "m" 6), literalAlone (.char '\x00')⟩]⟩⟩]⟩⟩]⟩

theorem twoPointFive_readsBack : (Number.real 2.5).ReadsBack := by
  have hscan : Numeral.scan (Number.real 2.5).written =
      .ok (⟨false, ['2'], some ['5'], none⟩, []) := by
    decide +kernel
  have hreal : Numeral.real ⟨false, ['2'], some ['5'], none⟩ = .ok 2.5 := by decide +kernel
  refine ⟨_, hscan, ?_⟩
  show (Numeral.real _).map Number.real = _
  rw [hreal]
  rfl

/-- The program `oddlySpelled` is read back as it is. -/
theorem oddlySpelled_decode_encode :
    decode .program (encode .program oddlySpelled) = .ok oddlySpelled := by
  have hleaves : leaves .program oddlySpelled =
      [.span ⟨4, 9⟩, .span ⟨20, 20⟩, .real 2.5] := rfl
  have hreal : ∀ x, .real x ∈ leaves .program oddlySpelled → x = 2.5 := by
    intro x hx
    simpa [hleaves] using hx
  refine decode_encode .program oddlySpelled ?_ ?_ ?_ ?_
  · intro span hspan
    have hor : span = ⟨4, 9⟩ ∨ span = ⟨20, 20⟩ := by simpa [hleaves] using hspan
    rcases hor with rfl | rfl
    · decide
    · decide
  · intro x hx
    rw [hreal x hx]
    decide +kernel
  · intro x hx _
    rw [hreal x hx]
    exact twoPointFive_readsBack
  · decide +kernel

end Grammar

end ScopeTable
