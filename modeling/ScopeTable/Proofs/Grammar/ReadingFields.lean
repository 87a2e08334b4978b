/-
# ScopeTable.Proofs.Grammar.ReadingFields -- what the reader of records accepts

The fields of a record are read from an array or an object, by any reader of what is inside. An array is
read field by field, as the grammar has it. The members of an object need an argument of their own: the
reader takes them one after the other and fills the places of the fields, the grammar takes the fields one
after the other and looks for their members. `readMembers_cons` exchanges the two orders for the first
field, and `readMembers_iff` so for all of them.
-/
import ScopeTable.Proofs.Grammar.ReadingLeaves

namespace ScopeTable.Grammar

open ScopeTable.Json

/-! ## §A Fields, rows and items -/

/-- What a reader accepts, as a relation. -/
def Reader.Gives (inner : Reader) : Presenting := fun s v j => inner s j = .ok v

variable {inner : Reader}

theorem map_eq_ok_iff {ε α β : Type} {f : α → β} {r : Except ε α} {b : β} :
    f <$> r = .ok b ↔ ∃ a, r = .ok a ∧ f a = b := by
  cases r with
  | error e => exact ⟨nofun, nofun⟩
  | ok a => simp [Functor.map, Except.map]

/-- A nullable field that is not null is read as its value. -/
theorem readField_given {name : String} {shape : Shape} {j : Json}
    (hnull : ∀ lexeme, j ≠ .nothing lexeme) :
    readField inner (.nullable name shape) j = some <$> inner shape j := by
  cases j with
  | nothing lexeme => exact absurd rfl (hnull lexeme)
  | _ => rfl

theorem readField_iff {f : Field} {v : f.Value} {j : Json} :
    readField inner f j = .ok v ↔ FieldPresents inner.Gives f v j := by
  cases f with
  | required name shape =>
    rw [readField]
    constructor
    · intro h
      exact .required h
    · intro h
      cases h with
      | required h => exact h
  | defaulted name shape default =>
    rw [readField]
    constructor
    · intro h
      exact .defaulted h
    · intro h
      cases h with
      | defaulted h => exact h
  | nullable name shape =>
    constructor
    · intro h
      -- A `null` is never handed to the reader of the value, whatever it would make of it.
      by_cases hj : ∃ lexeme, j = .nothing lexeme
      · obtain ⟨⟨value, passed⟩, rfl⟩ := hj
        obtain ⟨u, hvalue, h⟩ := bind_eq_ok_iff.mp h
        rw [ofText_eq_ok_iff] at hvalue
        cases h
        cases hvalue
        exact .null
      · have hnull : ∀ lexeme, j ≠ .nothing lexeme := by
          intro lexeme hlexeme
          exact hj ⟨lexeme, hlexeme⟩
        rw [readField_given hnull] at h
        obtain ⟨value, hvalue, rfl⟩ := map_eq_ok_iff.mp h
        exact .given hnull hvalue
    · intro h
      cases h with
      | null => rfl
      | given hnull h =>
        rw [readField_given hnull]
        exact map_eq_ok_iff.mpr ⟨_, h, rfl⟩

theorem readItems_iff {s : Shape} {items : List Json} {vs : List s.Value} :
    readItems inner s items = .ok vs ↔ List.Forall₂ (inner.Gives s) vs items := by
  induction items generalizing vs with
  | nil =>
    rw [readItems, List.forall₂_nil_right_iff, Except.ok.injEq, eq_comm]
  | cons item items ih =>
    rw [readItems, List.forall₂_cons_right_iff, bind_eq_ok_iff]
    constructor
    · rintro ⟨v, hv, h⟩
      obtain ⟨vs', hvs, h⟩ := bind_eq_ok_iff.mp h
      cases h
      exact ⟨v, vs', hv, ih.mp hvs, rfl⟩
    · rintro ⟨v, vs', hv, hvs, rfl⟩
      refine ⟨v, hv, ?_⟩
      rw [ih.mpr hvs]
      rfl

/-! ## §B Rows -/

theorem readRow_iff {expected : String} {fs : List Field} {vs : Values fs} {items : List Json}
    {ending : Ending} {place : Nat} :
    readRow inner expected place fs items ending = .ok vs ↔
      RowPresents inner.Gives fs vs items ∧ ending = .ok () := by
  induction fs generalizing items place with
  | nil =>
    cases items with
    | nil =>
      refine ofText_eq_ok_iff.trans ?_
      exact ⟨fun h => ⟨.nil, h⟩, fun h => h.2⟩
    | cons item items => exact ⟨nofun, nofun⟩
  | cons f fs ih =>
    obtain ⟨v, vs⟩ := vs
    cases items with
    | nil =>
      -- The array has ended, so its end is looked at before the field that is missing.
      refine bind_eq_ok_iff.trans ?_
      constructor
      · rintro ⟨u, hending, h⟩
        split at h
        · next value habsent =>
          obtain ⟨values, hvalues, h⟩ := bind_eq_ok_iff.mp h
          cases h
          exact ⟨.missing habsent (ih.mp hvalues).1, ofText_eq_ok_iff.mp hending⟩
        · cases h
      · rintro ⟨hrow, hending⟩
        cases hrow with
        | missing habsent hrest =>
          have hvalues : readRow inner expected (place + 1) fs [] ending = .ok vs :=
            ih.mpr ⟨hrest, hending⟩
          refine ⟨(), ofText_eq_ok_iff.mpr hending, ?_⟩
          rw [habsent]
          exact bind_eq_ok_iff.mpr ⟨vs, hvalues, rfl⟩
    | cons item items =>
      refine bind_eq_ok_iff.trans ?_
      constructor
      · rintro ⟨value, hvalue, h⟩
        obtain ⟨values, hvalues, h⟩ := bind_eq_ok_iff.mp h
        cases h
        obtain ⟨hrest, hending⟩ := ih.mp hvalues
        exact ⟨.given (readField_iff.mp hvalue) hrest, hending⟩
      · rintro ⟨hrow, hending⟩
        cases hrow with
        | given h hrest =>
          have hvalues : readRow inner expected (place + 1) fs items ending = .ok vs :=
            ih.mpr ⟨hrest, hending⟩
          refine ⟨v, readField_iff.mpr h, ?_⟩
          exact bind_eq_ok_iff.mpr ⟨vs, hvalues, rfl⟩

/-! ## §C Members -/

theorem readKey_iff {key : Json} {name : String} :
    readKey key = .ok name ↔ ∃ passed, key = .text ⟨.ok name, passed⟩ := by
  constructor
  · intro h
    rw [readKey.eq_def] at h
    split at h
    · next lexeme =>
      obtain ⟨value, passed⟩ := lexeme
      have hvalue : value = .ok name := ofText_eq_ok_iff.mp h
      exact ⟨passed, by rw [hvalue]⟩
    · cases h
    · cases h
  · rintro ⟨passed, rfl⟩
    rfl

theorem named_iff {name : String} {key value : Json} :
    Named name (.mk key value) ↔ readKey key = .ok name := readKey_iff.symm

/-- Without fields all members are passed over. -/
theorem readMembers_nil {members : List Member} {slots' : Slots []} :
    readMembers inner [] () members = .ok slots' ↔ ∀ m ∈ members, Passable m := by
  induction members with
  | nil => exact ⟨fun _ => List.forall_mem_nil _, fun _ => rfl⟩
  | cons m members ih =>
    obtain ⟨key, value⟩ := m
    rw [List.forall_mem_cons, ← ih]
    refine bind_eq_ok_iff.trans ?_
    constructor
    · rintro ⟨name, hname, h⟩
      obtain ⟨slots, hpass, h⟩ := bind_eq_ok_iff.mp h
      obtain ⟨passed, hkey⟩ := readKey_iff.mp hname
      exact ⟨⟨⟨name, passed, hkey⟩, ofText_eq_ok_iff.mp hpass⟩, h⟩
    · rintro ⟨⟨⟨name, passed, hkey⟩, hpass⟩, h⟩
      refine ⟨name, readKey_iff.mpr ⟨passed, hkey⟩, ?_⟩
      exact bind_eq_ok_iff.mpr ⟨(), ofText_eq_ok_iff.mpr hpass, h⟩

/-- One member, whose name is read first, and then the others. -/
theorem readMembers_step {fs : List Field} {slots slots' : Slots fs} {key value : Json}
    {members : List Member} :
    readMembers inner fs slots (.mk key value :: members) = .ok slots' ↔
      ∃ name filled, readKey key = .ok name ∧ slots.fill inner name value = .ok filled ∧
        readMembers inner fs filled members = .ok slots' := by
  constructor
  · intro h
    obtain ⟨name, hname, h⟩ := bind_eq_ok_iff.mp h
    obtain ⟨filled, hfilled, h⟩ := bind_eq_ok_iff.mp h
    exact ⟨name, filled, hname, hfilled, h⟩
  · rintro ⟨name, filled, hname, hfilled, h⟩
    refine bind_eq_ok_iff.mpr ⟨name, hname, ?_⟩
    exact bind_eq_ok_iff.mpr ⟨filled, hfilled, h⟩

variable {f : Field} {fs : List Field} {slot slot' : Option f.Value} {slots slots' : Slots fs}

/-- A member with the name of the first field fills its place, which must be free. -/
theorem fill_first {j : Json} :
    Slots.fill inner f.name j (f :: fs) (slot, slots) = .ok (slot', slots') ↔
      slot = none ∧ slots' = slots ∧ ∃ v, readField inner f j = .ok v ∧ slot' = some v := by
  show (if f.name = f.name then _ else _) = _ ↔ _
  rw [if_pos rfl]
  cases slot with
  | some v => exact ⟨nofun, nofun⟩
  | none =>
    constructor
    · intro h
      obtain ⟨v, hv, h⟩ := bind_eq_ok_iff.mp h
      cases h
      exact ⟨rfl, rfl, v, hv, rfl⟩
    · rintro ⟨-, rfl, v, hv, rfl⟩
      exact bind_eq_ok_iff.mpr ⟨v, hv, rfl⟩

/-- A member with another name leaves the place of the first field as it is. -/
theorem fill_later {name : String} {j : Json} (hname : f.name ≠ name) :
    Slots.fill inner name j (f :: fs) (slot, slots) = .ok (slot', slots') ↔
      slot' = slot ∧ Slots.fill inner name j fs slots = .ok slots' := by
  show (if f.name = name then _ else _) = _ ↔ _
  rw [if_neg hname]
  constructor
  · intro h
    obtain ⟨filled, hfilled, h⟩ := bind_eq_ok_iff.mp h
    cases h
    exact ⟨rfl, hfilled⟩
  · rintro ⟨rfl, hfilled⟩
    exact bind_eq_ok_iff.mpr ⟨slots', hfilled, rfl⟩

/-- Members without the name of the first field leave its place as it is. -/
theorem readMembers_none {members : List Member} (hnone : ∀ m ∈ members, ¬Named f.name m) :
    readMembers inner (f :: fs) (slot, slots) members = .ok (slot', slots') ↔
      slot' = slot ∧ readMembers inner fs slots members = .ok slots' := by
  induction members generalizing slot slots with
  | nil =>
    constructor
    · intro h
      cases h
      exact ⟨rfl, rfl⟩
    · rintro ⟨rfl, h⟩
      cases h
      rfl
  | cons m members ih =>
    obtain ⟨key, value⟩ := m
    obtain ⟨hm, hmembers⟩ := List.forall_mem_cons.mp hnone
    rw [named_iff] at hm
    have hother : ∀ name, readKey key = .ok name → f.name ≠ name := by
      rintro name hname rfl
      exact hm hname
    constructor
    · intro hall
      obtain ⟨name, ⟨slot₁, slots₁⟩, hname, hfilled, h⟩ := readMembers_step.mp hall
      obtain ⟨hslot, hfilled⟩ := (fill_later (hother name hname)).mp hfilled
      obtain ⟨hslot', h⟩ := (ih hmembers).mp h
      refine ⟨hslot'.trans hslot, ?_⟩
      exact readMembers_step.mpr ⟨name, slots₁, hname, hfilled, h⟩
    · rintro ⟨rfl, h⟩
      obtain ⟨name, slots₁, hname, hfilled, h⟩ := readMembers_step.mp h
      apply readMembers_step.mpr
      refine ⟨name, (slot', slots₁), hname, ?_, ?_⟩
      · exact (fill_later (hother name hname)).mpr ⟨rfl, hfilled⟩
      · exact (ih hmembers).mpr ⟨rfl, h⟩

/-- Among the members, one alone has the name of the field, and the others follow without it. -/
def Single (f : Field) (members : List Member) (j : Json) (others : List Member) : Prop :=
  ∃ before passed after, members = before ++ .mk (.text ⟨.ok f.name, passed⟩) j :: after ∧
    others = before ++ after ∧ ∀ m ∈ others, ¬Named f.name m

/-- The place of the first field is filled by the only member with its name. -/
theorem readMembers_single {members others : List Member} {j : Json} {v : f.Value}
    (hsingle : Single f members j others) (hv : readField inner f j = .ok v)
    (h : readMembers inner fs slots others = .ok slots') :
    readMembers inner (f :: fs) (none, slots) members = .ok (some v, slots') := by
  obtain ⟨before, passed, after, rfl, rfl, honly⟩ := hsingle
  -- Induction on the members before it, which fill places of other fields only.
  induction before generalizing slots with
  | nil =>
    apply readMembers_step.mpr
    refine ⟨f.name, (some v, slots), rfl, ?_, ?_⟩
    · exact fill_first.mpr ⟨rfl, rfl, v, hv, rfl⟩
    · exact (readMembers_none honly).mpr ⟨rfl, h⟩
  | cons m before ih =>
    obtain ⟨key, value⟩ := m
    obtain ⟨hm, hbefore⟩ := List.forall_mem_cons.mp honly
    obtain ⟨name, slots₁, hname, hfilled, h⟩ := readMembers_step.mp h
    have hne : f.name ≠ name := by
      rintro rfl
      exact hm (named_iff.mpr hname)
    apply readMembers_step.mpr
    refine ⟨name, (none, slots₁), hname, ?_, ?_⟩
    · exact (fill_later hne).mpr ⟨rfl, hfilled⟩
    · exact ih h hbefore

/-- **readMembers_cons**: the place of the first field stays free when no member has its name, and is filled
when exactly one has; the other fields are read from the other members. -/
theorem readMembers_cons {members : List Member}
    (h : readMembers inner (f :: fs) (slot, slots) members = .ok (slot', slots')) :
    (slot' = slot ∧ (∀ m ∈ members, ¬Named f.name m) ∧
      readMembers inner fs slots members = .ok slots') ∨
    (slot = none ∧ ∃ j others v, Single f members j others ∧ readField inner f j = .ok v ∧
      slot' = some v ∧ readMembers inner fs slots others = .ok slots') := by
  induction members generalizing slot slots with
  | nil =>
    cases h
    exact .inl ⟨rfl, List.forall_mem_nil _, rfl⟩
  | cons m members ih =>
    obtain ⟨key, value⟩ := m
    obtain ⟨name, ⟨slot₁, slots₁⟩, hname, hfilled, hread⟩ := readMembers_step.mp h
    by_cases hf : f.name = name
    · subst hf
      obtain ⟨hfree, hslots, v, hv, hslot⟩ := fill_first.mp hfilled
      obtain ⟨passed, rfl⟩ := readKey_iff.mp hname
      -- The place was free and is taken now, so no member after this one has the name.
      rcases ih hread with ⟨hslot', hnone, hread⟩ | ⟨hfree', -⟩
      · have hsingle : Single f (.mk (.text ⟨.ok f.name, passed⟩) value :: members) value members :=
          ⟨[], passed, members, rfl, rfl, hnone⟩
        rw [hslots] at hread
        exact .inr ⟨hfree, value, members, v, hsingle, hv, hslot'.trans hslot, hread⟩
      · rw [hslot] at hfree'
        cases hfree'
    · obtain ⟨hslot, hfilled⟩ := (fill_later hf).mp hfilled
      have hm : ¬Named f.name (.mk key value) := by
        intro hnamed
        rw [named_iff, hname, Except.ok.injEq] at hnamed
        exact hf hnamed.symm
      -- The member belongs to the others, and what was read of the rest is put behind it.
      rcases ih hread with ⟨hslot', hnone, hread⟩ | ⟨hfree, j, others, v, hsingle, hv, hslot', hread⟩
      · refine .inl ⟨hslot'.trans hslot, List.forall_mem_cons.mpr ⟨hm, hnone⟩, ?_⟩
        exact readMembers_step.mpr ⟨name, slots₁, hname, hfilled, hread⟩
      · have hmore : Single f (.mk key value :: members) j (.mk key value :: others) := by
          obtain ⟨before, passed, after, rfl, rfl, honly⟩ := hsingle
          exact ⟨.mk key value :: before, passed, after, rfl, rfl,
            List.forall_mem_cons.mpr ⟨hm, honly⟩⟩
        refine .inr ⟨hslot.symm.trans hfree, j, .mk key value :: others, v, hmore, hv, hslot', ?_⟩
        exact readMembers_step.mpr ⟨name, slots₁, hname, hfilled, hread⟩

/-- The first place is complete when it is filled or its field may be missing. -/
theorem complete_cons {v : f.Value} {vs : Values fs} :
    Slots.complete (f :: fs) (slot, slots) = .ok (v, vs) ↔
      (slot <|> f.absent?) = some v ∧ Slots.complete fs slots = .ok vs := by
  have hstep := Slots.complete.eq_2 f fs slot slots
  cases hfound : (slot <|> f.absent?) with
  | none =>
    rw [hfound] at hstep
    rw [hstep]
    exact ⟨nofun, nofun⟩
  | some value =>
    rw [hfound] at hstep
    rw [hstep]
    constructor
    · intro h
      obtain ⟨values, hvalues, hpair⟩ := bind_eq_ok_iff.mp h
      cases hpair
      exact ⟨rfl, hvalues⟩
    · rintro ⟨heq, hvalues⟩
      cases heq
      exact bind_eq_ok_iff.mpr ⟨vs, hvalues, rfl⟩

/-- **readMembers_iff**: reading the members and completing the record gives what the members present. -/
theorem readMembers_iff {vs : Values fs} {members : List Member} :
    (∃ slots, readMembers inner fs (Slots.empty fs) members = .ok slots ∧
      slots.complete = .ok vs) ↔ MembersPresent inner.Gives fs vs members := by
  -- Induction on the fields: the grammar takes them one by one, and so does `readMembers_cons`.
  induction fs generalizing members with
  | nil =>
    constructor
    · rintro ⟨slots, h, -⟩
      exact .rest (readMembers_nil.mp h)
    · intro h
      cases h with
      | rest h => exact ⟨(), readMembers_nil.mpr h, rfl⟩
  | cons f fs ih =>
    obtain ⟨v, vs⟩ := vs
    constructor
    · rintro ⟨⟨slot, slots⟩, h, hall⟩
      obtain ⟨hslot, hcomplete⟩ := complete_cons.mp hall
      rcases readMembers_cons h with ⟨hfree, hnone, hrest⟩ | ⟨-, j, others, v', hsingle, hv, hfull, hrest⟩
      · rw [hfree] at hslot
        exact .missing hnone hslot (ih.mp ⟨slots, hrest, hcomplete⟩)
      · obtain ⟨before, passed, after, rfl, rfl, honly⟩ := hsingle
        rw [hfull] at hslot
        cases hslot
        exact .given honly (readField_iff.mp hv) (ih.mp ⟨slots, hrest, hcomplete⟩)
    · intro h
      cases h with
      | given honly hv hrest =>
        obtain ⟨slots, hread, hcomplete⟩ := ih.mpr hrest
        refine ⟨(some v, slots), ?_, complete_cons.mpr ⟨rfl, hcomplete⟩⟩
        exact readMembers_single ⟨_, _, _, rfl, rfl, honly⟩ (readField_iff.mpr hv) hread
      | missing hnone habsent hrest =>
        obtain ⟨slots, hread, hcomplete⟩ := ih.mpr hrest
        refine ⟨(none, slots), ?_, complete_cons.mpr ⟨habsent, hcomplete⟩⟩
        exact (readMembers_none hnone).mpr ⟨rfl, hread⟩

end ScopeTable.Grammar
