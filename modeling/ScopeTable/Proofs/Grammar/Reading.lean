/-
# ScopeTable.Proofs.Grammar.Reading -- the reader accepts what the grammar presents

The reader takes a tree from left to right and stops at the first thing wrong; the grammar says which trees
are right, in no order. `read_iff` puts the two together: a value is read exactly if the tree presents it.
The induction is on the room for open arrays and objects; everything inside one layer holds for any reader
of what is inside.
-/
import ScopeTable.Proofs.Grammar.ReadingFields

namespace ScopeTable.Grammar

open ScopeTable.Json

/-! ## §A Nodes -/

section

variable {α : Type} {outer : Option Reader}

theorem readRecord_iff {expected : String} {fs : List Field} {vs : Values fs} {j : Json} :
    readRecord outer expected fs j = .ok vs ↔
      ∃ inner, outer = some inner ∧
        ((∃ items, j = .array items (.ok ()) ∧ RowPresents inner.Gives fs vs items) ∨
          ∃ members, j = .object members (.ok ()) ∧ MembersPresent inner.Gives fs vs members) := by
  constructor
  · intro h
    rw [readRecord.eq_def] at h
    split at h
    · next items ending =>
      cases outer with
      | none => cases h
      | some inner =>
        obtain ⟨hrow, rfl⟩ := readRow_iff.mp h
        exact ⟨inner, rfl, .inl ⟨items, rfl, hrow⟩⟩
    · next members ending =>
      cases outer with
      | none => cases h
      | some inner =>
        obtain ⟨slots, hslots, h⟩ := bind_eq_ok_iff.mp h
        obtain ⟨_, hending, hcomplete⟩ := bind_eq_ok_iff.mp h
        rw [ofText_eq_ok_iff] at hending
        cases hending
        have hmembers := readMembers_iff.mp ⟨slots, hslots, hcomplete⟩
        exact ⟨inner, rfl, .inr ⟨members, rfl, hmembers⟩⟩
    · exact (not_wrongType h).elim
  · rintro ⟨inner, rfl, ⟨items, rfl, hrow⟩ | ⟨members, rfl, hmembers⟩⟩
    · exact readRow_iff.mpr ⟨hrow, rfl⟩
    · obtain ⟨slots, hslots, hcomplete⟩ := readMembers_iff.mpr hmembers
      refine bind_eq_ok_iff.mpr ⟨slots, hslots, ?_⟩
      exact bind_eq_ok_iff.mpr ⟨(), rfl, hcomplete⟩

theorem findVariant_iff {variants : List (Variant α)} (hnodup : (variants.map Variant.name).Nodup)
    {name : String} {variant : Variant α} :
    findVariant variants name = .ok variant ↔ variant ∈ variants ∧ variant.name = name := by
  rw [findVariant]
  constructor
  · intro h
    split at h
    · next found hfind =>
      cases h
      exact ⟨List.mem_of_find?_eq_some hfind, eq_of_beq (List.find?_some hfind :)⟩
    · cases h
  · rintro ⟨hmem, rfl⟩
    rw [find?_named hnodup hmem]

/-- A name alone is a variant without payload. -/
theorem alone_iff {variant : Variant α} {node : α} :
    variant.alone = .ok node ↔ ∃ name, variant = .plain name node := by
  cases variant with
  | plain name value =>
    rw [Variant.alone, Except.ok.injEq]
    constructor
    · rintro rfl
      exact ⟨name, rfl⟩
    · rintro ⟨_, h⟩
      cases h
      rfl
  | holding name shape make => exact ⟨nofun, nofun⟩

/-- A member is a variant without payload if its value is `null`. -/
theorem variantRead_iff {inner : Reader} {variant : Variant α} {node : α} {j : Json} :
    variant.read inner j = .ok node ↔
      (∃ name passed, variant = .plain name node ∧ j = .nothing ⟨.ok (), passed⟩) ∨
        ∃ name shape make v, variant = .holding name shape make ∧ inner shape j = .ok v ∧
          make v = node := by
  cases variant with
  | plain name value =>
    constructor
    · intro h
      obtain ⟨_, hnull, h⟩ := bind_eq_ok_iff.mp h
      obtain ⟨passed, hj⟩ := readNull_iff.mp hnull
      cases h
      exact .inl ⟨name, passed, rfl, hj⟩
    · rintro (⟨_, passed, h, rfl⟩ | ⟨_, _, _, _, h, -⟩)
      · cases h
        rfl
      · cases h
  | holding name shape make =>
    constructor
    · intro h
      obtain ⟨v, hv, hmake⟩ := map_eq_ok_iff.mp h
      exact .inr ⟨name, shape, make, v, rfl, hv, hmake⟩
    · rintro (⟨_, _, h, -⟩ | ⟨_, _, _, v, h, hv, hmake⟩)
      · cases h
      · cases h
        exact map_eq_ok_iff.mpr ⟨v, hv, hmake⟩

/-- **choice_presents**: what is read as a choice presents it. -/
theorem choice_presents {variants : List (Variant α)} (hnodup : (variants.map Variant.name).Nodup)
    {node : α} {j : Json} (h : readChoice outer variants j = .ok node) :
    NodePresents (outer.map Reader.Gives) (.choice variants) node j := by
  rw [readChoice.eq_def] at h
  split at h
  · next lexeme =>
    obtain ⟨spelled, passed⟩ := lexeme
    obtain ⟨name, hspelled, h⟩ := bind_eq_ok_iff.mp h
    obtain ⟨variant, hvariant, h⟩ := bind_eq_ok_iff.mp h
    obtain ⟨hmem, hname⟩ := (findVariant_iff hnodup).mp hvariant
    obtain ⟨_, rfl⟩ := alone_iff.mp h
    cases hname
    cases ofText_eq_ok_iff.mp hspelled
    exact .alone hmem
  · next members ending =>
    -- Of an object, the first member decides, and there must be no other.
    split at h
    · cases h
    · obtain ⟨_, -, h⟩ := bind_eq_ok_iff.mp h
      cases h
    · next inner key value others =>
      obtain ⟨name, hkey, h⟩ := bind_eq_ok_iff.mp h
      obtain ⟨variant, hvariant, h⟩ := bind_eq_ok_iff.mp h
      obtain ⟨result, hresult, h⟩ := bind_eq_ok_iff.mp h
      obtain ⟨hmem, hname⟩ := (findVariant_iff hnodup).mp hvariant
      obtain ⟨passed, hkey⟩ := readKey_iff.mp hkey
      cases others with
      | cons other others => cases h
      | nil =>
        obtain ⟨_, hending, h⟩ := bind_eq_ok_iff.mp h
        cases ofText_eq_ok_iff.mp hending
        cases h
        rw [hkey, ← hname]
        rcases variantRead_iff.mp hresult with
          ⟨_, passed', rfl, rfl⟩ | ⟨_, shape, make, v, rfl, hv, rfl⟩
        · exact .plain rfl hmem
        · exact .holding rfl hmem hv
  all_goals cases h

/-- An object with one member is read by the variant that the member names. -/
theorem readChoice_member {inner : Reader} {variants : List (Variant α)}
    (hnodup : (variants.map Variant.name).Nodup) {variant : Variant α} (hmem : variant ∈ variants)
    {node : α} {j : Json} {passed : Except Fault Unit} (h : variant.read inner j = .ok node) :
    readChoice (some inner) variants
      (.object [.mk (.text ⟨.ok variant.name, passed⟩) j] (.ok ())) = .ok node := by
  refine bind_eq_ok_iff.mpr ⟨variant.name, rfl, ?_⟩
  refine bind_eq_ok_iff.mpr ⟨variant, (findVariant_iff hnodup).mpr ⟨hmem, rfl⟩, ?_⟩
  exact bind_eq_ok_iff.mpr ⟨node, h, rfl⟩

theorem readChoice_iff {variants : List (Variant α)} (hnodup : (variants.map Variant.name).Nodup)
    {node : α} {j : Json} :
    readChoice outer variants j = .ok node ↔
      NodePresents (outer.map Reader.Gives) (.choice variants) node j := by
  refine ⟨choice_presents hnodup, ?_⟩
  intro h
  cases h with
  | alone hmem =>
    refine bind_eq_ok_iff.mpr ⟨_, rfl, ?_⟩
    exact bind_eq_ok_iff.mpr ⟨_, (findVariant_iff hnodup).mpr ⟨hmem, rfl⟩, rfl⟩
  | plain hinner hmem =>
    obtain ⟨inner, rfl, rfl⟩ := Option.map_eq_some_iff.mp hinner
    exact readChoice_member hnodup hmem rfl
  | holding hinner hmem hv =>
    obtain ⟨inner, rfl, rfl⟩ := Option.map_eq_some_iff.mp hinner
    exact readChoice_member hnodup hmem (map_eq_ok_iff.mpr ⟨_, hv, rfl⟩)

theorem readNode_iff {k : Kind} {expected : String} {node : k.Node} {j : Json} :
    readNode outer expected (layoutOf k) j = .ok node ↔
      NodePresents (outer.map Reader.Gives) (layoutOf k) node j := by
  cases hlayout : layoutOf k with
  | choice variants => exact readChoice_iff (variants_nodup hlayout)
  | record fs make =>
    constructor
    · intro h
      obtain ⟨vs, hvs, hmake⟩ := bind_eq_ok_iff.mp h
      rw [ofNode_eq_ok_iff] at hmake
      obtain ⟨inner, rfl, ⟨items, rfl, hrow⟩ | ⟨members, rfl, hmembers⟩⟩ := readRecord_iff.mp hvs
      · exact .row rfl hrow hmake
      · exact .object rfl hmembers hmake
    · intro h
      cases h with
      | row hinner hrow hmake =>
        obtain ⟨inner, rfl, rfl⟩ := Option.map_eq_some_iff.mp hinner
        refine bind_eq_ok_iff.mpr ⟨_, ?_, ofNode_eq_ok_iff.mpr hmake⟩
        exact readRecord_iff.mpr ⟨inner, rfl, .inl ⟨_, rfl, hrow⟩⟩
      | object hinner hmembers hmake =>
        obtain ⟨inner, rfl, rfl⟩ := Option.map_eq_some_iff.mp hinner
        refine bind_eq_ok_iff.mpr ⟨_, ?_, ofNode_eq_ok_iff.mpr hmake⟩
        exact readRecord_iff.mpr ⟨inner, rfl, .inr ⟨_, rfl, hmembers⟩⟩

/-! ## §B Shapes -/

theorem readLine_iff {n : UInt64} {j : Json} :
    readShape outer .line j = .ok n ↔
      ∃ m passed, j = .scalar ⟨.ok (.number m), passed⟩ ∧ IsWhole m n.toNat := by
  have hsize : (UInt64.size : Int) = 18446744073709551616 := rfl
  have hbounds (a : UInt64) : (0 : Int) ≤ a.toNat ∧ (a.toNat : Int) ≤ (UInt64.size : Int) - 1 := by
    have := a.toNat_lt
    omega
  have hworth (k : Int) (hlow : 0 ≤ k) (hhigh : k ≤ (UInt64.size : Int) - 1) :
      ((UInt64.ofNat k.toNat).toNat : Int) = k := by
    rw [UInt64.toNat_ofNat_of_lt' (by omega), Int.toNat_of_nonneg hlow]
  exact readWord_iff hbounds (fun a => UInt64.ofNat_toNat) hworth

theorem readOffset_iff {n : UInt32} {j : Json} :
    readShape outer .offset j = .ok n ↔
      ∃ m passed, j = .scalar ⟨.ok (.number m), passed⟩ ∧ IsWhole m n.toNat := by
  have hsize : (UInt32.size : Int) = 4294967296 := rfl
  have hbounds (a : UInt32) : (0 : Int) ≤ a.toNat ∧ (a.toNat : Int) ≤ (UInt32.size : Int) - 1 := by
    have := a.toNat_lt
    omega
  have hworth (k : Int) (hlow : 0 ≤ k) (hhigh : k ≤ (UInt32.size : Int) - 1) :
      ((UInt32.ofNat k.toNat).toNat : Int) = k := by
    rw [UInt32.toNat_ofNat_of_lt' (by omega), Int.toNat_of_nonneg hlow]
  exact readWord_iff hbounds (fun a => UInt32.ofNat_toNat) hworth

theorem readInteger_iff {n : Int64} {j : Json} :
    readShape outer .integer j = .ok n ↔
      ∃ m passed, j = .scalar ⟨.ok (.number m), passed⟩ ∧ IsWhole m n.toInt := by
  have hbounds (a : Int64) :
      Int64.minValue.toInt ≤ a.toInt ∧ a.toInt ≤ Int64.maxValue.toInt :=
    ⟨a.minValue_le_toInt, a.toInt_le⟩
  have hworth (k : Int) (hlow : Int64.minValue.toInt ≤ k) (hhigh : k ≤ Int64.maxValue.toInt) :
      (Int64.ofInt k).toInt = k :=
    Int64.toInt_ofInt_of_le hlow (Int.lt_add_one_of_le hhigh)
  exact readWord_iff hbounds (fun a => Int64.ofInt_toInt a) hworth

theorem readList_iff {item : Shape} {vs : List item.Value} {j : Json} :
    readShape outer (.list item) j = .ok vs ↔
      ∃ inner items, outer = some inner ∧ j = .array items (.ok ()) ∧
        List.Forall₂ (inner.Gives item) vs items := by
  constructor
  · intro h
    cases j with
    | array items ending =>
      cases outer with
      | none => cases h
      | some inner =>
        obtain ⟨values, hvalues, h⟩ := bind_eq_ok_iff.mp h
        obtain ⟨_, hending, h⟩ := bind_eq_ok_iff.mp h
        cases ofText_eq_ok_iff.mp hending
        cases h
        exact ⟨inner, items, rfl, rfl, readItems_iff.mp hvalues⟩
    | _ =>
      rw [readShape] at h
      exact (not_wrongType h).elim
  · rintro ⟨inner, items, rfl, rfl, h⟩
    refine bind_eq_ok_iff.mpr ⟨vs, readItems_iff.mpr h, ?_⟩
    exact bind_eq_ok_iff.mpr ⟨(), rfl, rfl⟩

/-- The parts of a pair are both required, so its array has just two items. -/
theorem pairRow_iff {inner : Presenting} {first second : Shape} {a : first.Value} {b : second.Value}
    {items : List Json} :
    RowPresents inner [.required "first" first, .required "second" second] (a, b, ()) items ↔
      ∃ i k, items = [i, k] ∧ inner first a i ∧ inner second b k := by
  constructor
  · intro h
    cases h with
    | missing habsent _ => cases habsent
    | given hfirst hrest =>
      cases hrest with
      | missing habsent _ => cases habsent
      | given hsecond hend =>
        cases hend
        cases hfirst with
        | required hfirst =>
          cases hsecond with
          | required hsecond => exact ⟨_, _, rfl, hfirst, hsecond⟩
  · rintro ⟨i, k, rfl, hfirst, hsecond⟩
    exact .given (.required hfirst) (.given (.required hsecond) .nil)

theorem readPair_iff {first second : Shape} {a : first.Value} {b : second.Value} {j : Json} :
    readShape outer (.pair first second) j = .ok (a, b) ↔
      ∃ inner i k, outer = some inner ∧ j = .array [i, k] (.ok ()) ∧ inner.Gives first a i ∧
        inner.Gives second b k := by
  constructor
  · intro h
    cases j with
    | array items ending =>
      cases outer with
      | none => cases h
      | some inner =>
        obtain ⟨⟨a', b', ⟨⟩⟩, hvalues, h⟩ := bind_eq_ok_iff.mp h
        cases h
        obtain ⟨hrow, rfl⟩ := readRow_iff.mp hvalues
        obtain ⟨i, k, rfl, hfirst, hsecond⟩ := pairRow_iff.mp hrow
        exact ⟨inner, i, k, rfl, rfl, hfirst, hsecond⟩
    | _ =>
      rw [readShape] at h
      exact (not_wrongType h).elim
  · rintro ⟨inner, i, k, rfl, rfl, hfirst, hsecond⟩
    have hrow := pairRow_iff.mpr ⟨i, k, rfl, hfirst, hsecond⟩
    exact bind_eq_ok_iff.mpr ⟨_, readRow_iff.mpr ⟨hrow, rfl⟩, rfl⟩

theorem readShape_iff {s : Shape} {v : s.Value} {j : Json} :
    readShape outer s j = .ok v ↔ ShapePresents (outer.map Reader.Gives) s v j := by
  cases s with
  | text =>
    refine readText_iff.trans ⟨?_, fun h => ?_⟩
    · rintro ⟨passed, rfl⟩
      exact .text
    · cases h
      exact ⟨_, rfl⟩
  | line =>
    refine readLine_iff.trans ⟨?_, fun h => ?_⟩
    · rintro ⟨m, passed, rfl, hm⟩
      exact .line hm
    · cases h with
      | line hm => exact ⟨_, _, rfl, hm⟩
  | offset =>
    refine readOffset_iff.trans ⟨?_, fun h => ?_⟩
    · rintro ⟨m, passed, rfl, hm⟩
      exact .offset hm
    · cases h with
      | offset hm => exact ⟨_, _, rfl, hm⟩
  | integer =>
    refine readInteger_iff.trans ⟨?_, fun h => ?_⟩
    · rintro ⟨m, passed, rfl, hm⟩
      exact .integer hm
    · cases h with
      | integer hm => exact ⟨_, _, rfl, hm⟩
  | real =>
    refine readReal_iff.trans ⟨?_, fun h => ?_⟩
    · rintro ⟨n, passed, rfl, hfinite, rfl⟩
      exact .real hfinite
    · cases h with
      | real hfinite => exact ⟨_, _, rfl, hfinite, rfl⟩
  | character =>
    refine readCharacter_iff.trans ⟨?_, fun h => ?_⟩
    · rintro ⟨passed, rfl⟩
      exact .character
    · cases h
      exact ⟨_, rfl⟩
  | boolean =>
    refine readBoolean_iff.trans ⟨?_, fun h => ?_⟩
    · rintro ⟨passed, rfl⟩
      exact .boolean
    · cases h
      exact ⟨_, rfl⟩
  | list item =>
    refine readList_iff.trans ⟨?_, fun h => ?_⟩
    · rintro ⟨inner, items, rfl, rfl, h⟩
      exact .list rfl h
    · cases h with
      | list hinner h =>
        obtain ⟨inner, rfl, rfl⟩ := Option.map_eq_some_iff.mp hinner
        exact ⟨inner, _, rfl, rfl, h⟩
  | pair first second =>
    obtain ⟨a, b⟩ := v
    refine readPair_iff.trans ⟨?_, fun h => ?_⟩
    · rintro ⟨inner, i, k, rfl, rfl, hfirst, hsecond⟩
      exact .pair rfl hfirst hsecond
    · cases h with
      | pair hinner hfirst hsecond =>
        obtain ⟨inner, rfl, rfl⟩ := Option.map_eq_some_iff.mp hinner
        exact ⟨inner, _, _, rfl, rfl, hfirst, hsecond⟩
  | node kind =>
    refine readNode_iff.trans ⟨.node, fun h => ?_⟩
    cases h with
    | node h => exact h

end

/-- **read_iff**: a value is read, with room for so many open arrays and objects, exactly if the tree presents
it within that room. -/
theorem read_iff {room : Nat} {s : Shape} {v : s.Value} {j : Json} :
    read room s j = .ok v ↔ Presents room s v j := by
  induction room generalizing s v j with
  | zero => exact readShape_iff
  | succ room ih =>
    -- The reader of what is inside and the relation inside are the same by induction.
    have hinner : Reader.Gives (read room) = Presents room := by
      funext s v j
      exact propext ih
    rw [Presents, ← hinner]
    exact readShape_iff

end ScopeTable.Grammar
