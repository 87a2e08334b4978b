/-
# ScopeTable.Proofs.Grammar.Places -- whatever is read in an accepted tree is in order

A reader goes into a tree by the layouts of nodes: it reads the items of an array and those members of an object that
mean something, and passes over the others. `ReadAs` says which places of a tree are read, and in which shape. It says
so without looking at what stands there, so it speaks of trees that are refused as well.

If a tree presents a value, then every place of it that is read presents a value of the shape in which it is read, but
for the `null` of a field that may be missing (`Presents.place`). So what is wrong in one place that is read is wrong
with the whole. This is used for spans: an identifier whose span ends before it starts is refused wherever it is read,
whatever else stands in the text (`reversed_refused`).
-/
import ScopeTable.Proofs.Grammar.Acceptance

namespace ScopeTable.Grammar

open ScopeTable.Json

/-! ## §A Places that are read -/

/-- In a tree that is read in the one shape stands a tree, at a place that is read in the other shape. -/
inductive ReadAs : Shape → Json → Shape → Json → Prop where
  | here {s : Shape} {j : Json} : ReadAs s j s j
  | item {s t u : Shape} {items : List Json} {ending : Ending} {place : Nat} {item i : Json}
    (hitem : items[place]? = some item) (hshape : s.itemAt place = some t) (h : ReadAs t item u i) :
    ReadAs s (.array items ending) u i
  | member {s t u : Shape} {members : List Member} {ending : Ending} {m : Member} {i : Json}
    (hmember : m ∈ members) (hshape : s.memberAt m.key = some t) (h : ReadAs t m.value u i) :
    ReadAs s (.object members ending) u i

theorem ReadAs.trans {s t u : Shape} {j i h : Json} (hfirst : ReadAs s j t i) (hsecond : ReadAs t i u h) :
    ReadAs s j u h := by
  induction hfirst with
  | here => exact hsecond
  | item hitem hshape _ ih => exact .item hitem hshape (ih hsecond)
  | member hmember hshape _ ih => exact .member hmember hshape (ih hsecond)

/-- Inside `null` nothing is read. -/
theorem ReadAs.of_nothing {s t : Shape} {lexeme : Lexeme Unit} {i : Json} (h : ReadAs s (.nothing lexeme) t i) :
    i = .nothing lexeme := by
  cases h
  rfl

/-! ## §B What the places of a record hold -/

section

variable {presents : Presenting} {fs : List Field} {vs : Values fs}

/-- **RowPresents.at_place**: an item of an array presents a value of the field in its place. -/
theorem RowPresents.at_place {items : List Json} (h : RowPresents presents fs vs items) {place : Nat} {item : Json}
    (hitem : items[place]? = some item) {f : Field} (hf : fs[place]? = some f) :
    ∃ v, FieldPresents presents f v item := by
  induction h generalizing place with
  | nil => cases hitem
  | given hfirst _ ih =>
    cases place with
    | zero =>
      cases hitem
      cases hf
      exact ⟨_, hfirst⟩
    | succ place => exact ih hitem hf
  | missing => cases hitem

/-- A member has one name. -/
theorem Named.unique {name other : String} {m : Member} (h : Named name m) (hother : Named other m) :
    name = other := by
  obtain ⟨key, value⟩ := m
  exact Except.ok.inj ((named_iff.mp h).symm.trans (named_iff.mp hother))

/-- **MembersPresent.split**: a member with the name of the first field presents its value, and any other member is
among those that present the values of the other fields. -/
theorem MembersPresent.split {f : Field} {v : f.Value} {members : List Member}
    (h : MembersPresent presents (f :: fs) (v, vs) members) {m : Member} (hm : m ∈ members) :
    (Named f.name m → FieldPresents presents f v m.value) ∧
      (¬Named f.name m → ∃ others, m ∈ others ∧ MembersPresent presents fs vs others) := by
  cases h with
  | @given _ _ _ _ j passed before after honly hfirst hrest =>
    have hsplit : m = .mk (.text ⟨.ok f.name, passed⟩) j ∨ m ∈ before ++ after := by
      rw [List.mem_append, List.mem_cons, or_left_comm] at hm
      rwa [List.mem_append]
    rcases hsplit with rfl | hother
    · exact ⟨fun _ => hfirst, fun hnot => absurd ⟨passed, rfl⟩ hnot⟩
    · exact ⟨fun hname => absurd hname (honly m hother), fun _ => ⟨_, hother, hrest⟩⟩
  | missing hnone _ hrest => exact ⟨fun hname => absurd hname (hnone m hm), fun _ => ⟨_, hm, hrest⟩⟩

/-- **MembersPresent.at_name**: a member with the name of a field presents a value of the field. -/
theorem MembersPresent.at_name {members : List Member} (h : MembersPresent presents fs vs members)
    (hnodup : (fs.map Field.name).Nodup) {f : Field} (hf : f ∈ fs) {m : Member} (hm : m ∈ members)
    (hname : Named f.name m) : ∃ v, FieldPresents presents f v m.value := by
  induction fs generalizing members with
  | nil => cases hf
  | cons first fs ih =>
    obtain ⟨v, vs⟩ := vs
    obtain ⟨hfirst, hlater⟩ := h.split hm
    rw [List.map_cons, List.nodup_cons] at hnodup
    rcases List.mem_cons.mp hf with rfl | hf
    · exact ⟨v, hfirst hname⟩
    · -- The first field does not take the member away, because no other field has its name.
      have hother : ¬Named first.name m := by
        intro hboth
        rw [hboth.unique hname] at hnodup
        exact hnodup.1 (List.mem_map_of_mem hf)
      obtain ⟨others, hm, hrest⟩ := hlater hother
      exact ih hrest hnodup.2 hf hm

end

/-- A member that is read has a name, and is read as the member of this name. -/
theorem memberAt_eq_some {s t : Shape} {m : Member} (h : s.memberAt m.key = some t) :
    ∃ name, Named name m ∧ s.memberNamed name = some t := by
  obtain ⟨key, value⟩ := m
  change s.memberAt key = some t at h
  unfold Shape.memberAt at h
  split at h
  · next name passed => exact ⟨name, ⟨passed, rfl⟩, h⟩
  · cases h

/-! ## §C What the places of an accepted tree present -/

/-- The tree presents a value of the shape, or is `null`. -/
def Admits (presents : Presenting) (s : Shape) (j : Json) : Prop :=
  (∃ lexeme, j = .nothing lexeme) ∨ ∃ v, presents s v j

theorem FieldPresents.admits {presents : Presenting} {f : Field} {v : f.Value} {j : Json}
    (h : FieldPresents presents f v j) : Admits presents f.shape j := by
  cases h with
  | required h => exact .inr ⟨_, h⟩
  | defaulted h => exact .inr ⟨_, h⟩
  | null => exact .inl ⟨_, rfl⟩
  | given _ h => exact .inr ⟨_, h⟩

section

variable {inner : Option Presenting} {k : Kind} {s t : Shape}

theorem NodePresents.admits_item {node : k.Node} {items : List Json} {ending : Ending}
    (h : NodePresents inner (layoutOf k) node (.array items ending)) {place : Nat} {item : Json}
    (hitem : items[place]? = some item) (hshape : (Shape.node k).itemAt place = some t) :
    ∃ presents, inner = some presents ∧ Admits presents t item := by
  generalize hlayout : layoutOf k = layout at h
  cases h with
  | row hsome h _ =>
    rw [← Nat.zero_add place, readsFrom_record hlayout place] at hshape
    obtain ⟨f, hf, rfl⟩ := Option.map_eq_some_iff.mp hshape
    obtain ⟨v, hpresents⟩ := h.at_place hitem hf
    exact ⟨_, hsome, hpresents.admits⟩

theorem NodePresents.admits_member {node : k.Node} {members : List Member} {ending : Ending}
    (h : NodePresents inner (layoutOf k) node (.object members ending)) {m : Member} (hm : m ∈ members)
    (hshape : (Shape.node k).memberAt m.key = some t) :
    ∃ presents, inner = some presents ∧ Admits presents t m.value := by
  generalize hlayout : layoutOf k = layout at h
  obtain ⟨name, hnamed, hread⟩ := memberAt_eq_some hshape
  cases h with
  | object hsome h _ =>
    simp only [Shape.memberNamed, hlayout] at hread
    obtain ⟨f, hfind, rfl⟩ := Option.map_eq_some_iff.mp hread
    have hf := List.mem_of_find?_eq_some hfind
    have hname : (f.name == name) = true := List.find?_some (p := fun f : Field => f.name == name) hfind
    rw [← eq_of_beq hname] at hnamed
    obtain ⟨v, hpresents⟩ := h.at_name (fields_nodup hlayout) hf hm hnamed
    exact ⟨_, hsome, hpresents.admits⟩
  | plain hsome hmem =>
    -- The member of a variant without payload is not read as anything.
    cases List.mem_singleton.mp hm
    rw [hnamed.unique ⟨_, rfl⟩] at hread
    cases hread.symm.trans (memberNamed_variant hlayout hmem)
  | holding hsome hmem h =>
    cases List.mem_singleton.mp hm
    rw [hnamed.unique ⟨_, rfl⟩] at hread
    cases hread.symm.trans (memberNamed_variant hlayout hmem)
    exact ⟨_, hsome, .inr ⟨_, h⟩⟩

theorem ShapePresents.admits_item {v : s.Value} {items : List Json} {ending : Ending}
    (h : ShapePresents inner s v (.array items ending)) {place : Nat} {item : Json}
    (hitem : items[place]? = some item) (hshape : s.itemAt place = some t) :
    ∃ presents, inner = some presents ∧ Admits presents t item := by
  cases h with
  | list hsome h =>
    cases hshape
    obtain ⟨hplace, rfl⟩ := List.getElem?_eq_some_iff.mp hitem
    exact ⟨_, hsome, .inr ⟨_, h.get (h.length_eq ▸ hplace) hplace⟩⟩
  | pair hsome hfirst hsecond =>
    match place with
    | 0 =>
      cases hitem
      cases hshape
      exact ⟨_, hsome, .inr ⟨_, hfirst⟩⟩
    | 1 =>
      cases hitem
      cases hshape
      exact ⟨_, hsome, .inr ⟨_, hsecond⟩⟩
    | _ + 2 => cases hshape
  | node h => exact h.admits_item hitem hshape

theorem ShapePresents.admits_member {v : s.Value} {members : List Member} {ending : Ending}
    (h : ShapePresents inner s v (.object members ending)) {m : Member} (hm : m ∈ members)
    (hshape : s.memberAt m.key = some t) : ∃ presents, inner = some presents ∧ Admits presents t m.value := by
  cases h with
  | node h => exact h.admits_member hm hshape

end

/-- **Presents.place**: if a tree presents a value, every place of it that is read presents one too, or is `null`. -/
theorem Presents.place {room : Nat} {s t : Shape} {v : s.Value} {j i : Json} (h : Presents room s v j)
    (hplace : ReadAs s j t i) : (∃ lexeme, i = .nothing lexeme) ∨ ∃ w, Presented t w i := by
  induction hplace generalizing room with
  | here => exact .inr ⟨v, room, h⟩
  -- A place that is `null` presents nothing, and then there is nothing further inside.
  | item hitem hshape hinside ih =>
    rw [presents_eq] at h
    obtain ⟨presents, hsome, hadmits⟩ := h.admits_item hitem hshape
    obtain ⟨less, rfl, rfl⟩ := inside_eq_some hsome
    rcases hadmits with ⟨lexeme, rfl⟩ | ⟨w, hw⟩
    · exact .inl ⟨lexeme, hinside.of_nothing⟩
    · exact ih hw
  | member hmember hshape hinside ih =>
    rw [presents_eq] at h
    obtain ⟨presents, hsome, hadmits⟩ := h.admits_member hmember hshape
    obtain ⟨less, rfl, rfl⟩ := inside_eq_some hsome
    rcases hadmits with ⟨lexeme, hnull⟩ | ⟨w, hw⟩
    · rw [hnull] at hinside
      exact .inl ⟨lexeme, hinside.of_nothing⟩
    · exact ih hw

/-! ## §D Spans -/

/-- The tree gives the start and the end of a span, as the items of an array or as members of an object. It may give
more than these, and the end may be less than the start. -/
inductive GivesEnds (start stop : UInt32) : Json → Prop where
  | row {i j : Json} {others : List Json} {ending : Ending} (hstart : Presented .offset start i)
    (hstop : Presented .offset stop j) : GivesEnds start stop (.array (i :: j :: others) ending)
  | object {members : List Member} {ending : Ending} {m n : Member} (hm : m ∈ members) (hn : n ∈ members)
    (hmname : Named "start" m) (hnname : Named "end" n) (hstart : Presented .offset start m.value)
    (hstop : Presented .offset stop n.value) : GivesEnds start stop (.object members ending)

/-- Fields that may not be missing are presented by a row as items in front. -/
theorem RowPresents.required {presents : Presenting} {name : String} {shape : Shape} {fs : List Field}
    {v : shape.Value} {vs : Values fs} {item : Json} {items : List Json}
    (h : RowPresents presents (.required name shape :: fs) (v, vs) (item :: items)) :
    presents shape v item ∧ RowPresents presents fs vs items := by
  cases h with
  | given hfirst hrest =>
    cases hfirst with
    | required hfirst => exact ⟨hfirst, hrest⟩

section

variable {less : Nat} {start stop a b : UInt32} {ending : Ending}

theorem GivesEnds.of_row {items : List Json} (hends : GivesEnds start stop (.array items ending))
    (h : RowPresents (Presents less) [.required "start" .offset, .required "end" .offset] (a, b, ()) items) :
    start = a ∧ stop = b := by
  cases hends with
  | row hstart hstop =>
    obtain ⟨ha, hrest⟩ := h.required
    obtain ⟨hb, -⟩ := hrest.required
    exact ⟨hstart.unique ⟨less, ha⟩, hstop.unique ⟨less, hb⟩⟩

theorem GivesEnds.of_members {members : List Member} (hends : GivesEnds start stop (.object members ending))
    (h : MembersPresent (Presents less) [.required "start" .offset, .required "end" .offset] (a, b, ()) members) :
    start = a ∧ stop = b := by
  cases hends with
  | @object _ _ m n hm hn hmname hnname hstart hstop =>
    have hother : ¬Named "start" n := by
      intro hboth
      exact absurd (hboth.unique hnname) (by decide)
    obtain ⟨others, hn, hrest⟩ := (h.split hn).2 hother
    have hfirst := (h.split hm).1 hmname
    have hsecond := (hrest.split hn).1 hnname
    cases hfirst with
    | required ha =>
      cases hsecond with
      | required hb => exact ⟨hstart.unique ⟨less, ha⟩, hstop.unique ⟨less, hb⟩⟩

end

/-- A span is made of the ends that are given for it. -/
theorem Presented.made_of_ends {start stop : UInt32} {j : Json} (hends : GivesEnds start stop j) {span : Span}
    (h : Presented (.node .span) span j) :
    (if stop < start then .error (.reversedSpan ⟨start, stop⟩) else .ok ⟨start, stop⟩ : Except Mismatch Span) =
      .ok span := by
  obtain ⟨room, h⟩ := h
  rw [presents_eq] at h
  cases h with
  | node h =>
    generalize hlayout : layoutOf .span = layout at h
    cases h with
    | @row _ _ _ vs _ _ hsome hrow hmake =>
      obtain ⟨less, rfl, rfl⟩ := inside_eq_some hsome
      cases hlayout
      obtain ⟨a, b, ⟨⟩⟩ := vs
      obtain ⟨rfl, rfl⟩ := hends.of_row hrow
      exact hmake
    | @object _ _ _ vs _ _ hsome hmembers hmake =>
      obtain ⟨less, rfl, rfl⟩ := inside_eq_some hsome
      cases hlayout
      obtain ⟨a, b, ⟨⟩⟩ := vs
      obtain ⟨rfl, rfl⟩ := hends.of_members hmembers
      exact hmake
    | alone => cases hlayout
    | plain => cases hlayout
    | holding => cases hlayout

/-- **Presented.ends**: a tree that presents a span does not give an end before the start. -/
theorem Presented.ends {start stop : UInt32} {j : Json} (hends : GivesEnds start stop j) {span : Span}
    (h : Presented (.node .span) span j) : ¬stop < start := by
  intro hreversed
  have hmade := h.made_of_ends hends
  rw [if_pos hreversed] at hmade
  cases hmade

/-- **reversed_refused**: a text is refused if anywhere in its tree an identifier is read of which the span ends before
it starts. -/
theorem reversed_refused {k : Kind} {text : String} {j name ends : Json} {start stop : UInt32}
    (hspelled : j.SpelledBy text.toList) (hname : ReadAs (.node k) j (.node .ident) name)
    (hspan : ReadAs (.node .ident) name (.node .span) ends) (hends : GivesEnds start stop ends)
    (hreversed : stop < start) : ∃ error, decode k text = .error error := by
  cases hdecode : decode k text with
  | error error => exact ⟨error, rfl⟩
  | ok node =>
    obtain ⟨i, hi, hpresents⟩ := decode_eq_ok_iff.mp hdecode
    rw [hi.unique hspelled] at hpresents
    rcases hpresents.place (hname.trans hspan) with ⟨lexeme, hnull⟩ | ⟨span, hspan⟩
    · rw [hnull] at hends
      cases hends
    · exact absurd hreversed (hspan.ends hends)

end ScopeTable.Grammar
