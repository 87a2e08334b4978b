/-
# ScopeTable.Proofs.Json.Written -- a written tree is read back

The written form of a tree is one of the texts that spell it. The induction is on `Legible`, the trees of
sound literals with numbers that are read back; every tree that is written for a node is one.
-/
import ScopeTable.Proofs.Json.Parsing

namespace ScopeTable.Json

/-! ## §A Legible trees -/

/-- A tree without fault, all numbers of which are read back. -/
inductive Legible : Json → Prop where
  | null : Legible .null
  | boolean (b : Bool) : Legible (.boolean b)
  | number {n : Number} (h : n.ReadsBack) : Legible (.number n)
  | string (s : String) : Legible (.string s)
  | ofList {items : List Json} (h : ∀ item ∈ items, Legible item) : Legible (.ofList items)
  | ofFields {fields : List (String × Json)} (h : ∀ field ∈ fields, Legible field.2) :
    Legible (.ofFields fields)

/-- A literal with a value is met. -/
theorem met_sound {α : Type} (a : α) : (Lexeme.sound a).Met := .inl ⟨a, rfl⟩

theorem Legible.complete {j : Json} (h : Legible j) : j.Complete := by
  induction h with
  | null => exact .nothing (met_sound _)
  | boolean b => exact .scalar (met_sound _)
  | number _ => exact .scalar (met_sound _)
  | string s => exact .text (met_sound _)
  | ofList _ ih => exact .array ih
  | ofFields _ ih =>
    refine .object ?_ ?_
    · intro m hm
      obtain ⟨field, _, rfl⟩ := List.mem_map.mp hm
      exact ⟨_, rfl, met_sound field.1⟩
    · intro m hm
      obtain ⟨field, hfield, rfl⟩ := List.mem_map.mp hm
      exact ih field hfield

/-! ## §B Written trees -/

/-- The written form of a tree consists of its lexical elements. -/
def WrittenAsSpelled (j : Json) : Prop := Lexes j.tokens j.written

theorem lexes_nil : Lexes [] [] := .nil (List.forall_mem_nil _)

/-- A lexical element by itself. -/
theorem lexes_singleton {token : Token} {cs : List Char} (h : token.SpelledBy cs) : Lexes [token] cs := by
  have hnext := lexes_nil.next h
  rw [List.append_nil] at hnext
  exact hnext

/-- A lexical element of one character in front of a text. -/
theorem Lexes.mark {token : Token} {c : Char} {tokens : List Token} {cs : List Char}
    (h : token.SpelledBy [c]) (hrest : Lexes tokens cs) : Lexes (token :: tokens) (c :: cs) :=
  hrest.next h

theorem writtenString_lexes (s : String) : Lexes [.text (.sound s)] (writtenString s) := by
  obtain ⟨units, hunits, hmake⟩ := writtenString_spelled s.toList
  exact lexes_singleton (.text hunits hmake)

theorem number_lexes {n : Number} (hn : n.ReadsBack) : Lexes [.scalar (.sound (.number n))] n.written := by
  obtain ⟨m, hscan, hvalue⟩ := hn
  obtain ⟨front, hfront, hwritten⟩ := Numeral.scan_sound hscan
  have hspelled := Token.spelledBy_numeral hfront
  rw [List.append_nil] at hwritten
  rw [hvalue, ← hwritten] at hspelled
  exact lexes_singleton hspelled

theorem items_lexes {items : List Json} (h : ∀ item ∈ items, WrittenAsSpelled item) :
    Lexes (itemTokens items) (writtenItems items ++ [']']) := by
  induction items with
  | nil => exact lexes_singleton .closeBracket
  | cons item items ih =>
    rw [List.forall_mem_cons] at h
    cases items with
    | nil => exact h.1.append (lexes_singleton .closeBracket)
    | cons next items =>
      show Lexes (item.tokens ++ .comma :: itemTokens (next :: items))
        (item.written ++ ',' :: writtenItems (next :: items) ++ [']'])
      rw [List.append_assoc]
      exact h.1.append ((ih h.2).mark .comma)

theorem members_lexes {fields : List (String × Json)} (h : ∀ field ∈ fields, WrittenAsSpelled field.2) :
    Lexes (memberTokens (fields.map fun field => .mk (.string field.1) field.2))
      (writtenMembers (fields.map fun field => .mk (.string field.1) field.2) ++ ['\x7d']) := by
  induction fields with
  | nil => exact lexes_singleton .closeBrace
  | cons field fields ih =>
    rw [List.forall_mem_cons] at h
    have hkey := writtenString_lexes field.1
    cases fields with
    | nil =>
      show Lexes _ (writtenString field.1 ++ ':' :: field.2.written ++ ['\x7d'])
      rw [List.append_assoc]
      exact hkey.append ((h.1.append (lexes_singleton .closeBrace)).mark .colon)
    | cons next fields =>
      show Lexes _
        (writtenString field.1 ++ ':' :: field.2.written ++ ',' :: writtenMembers _ ++ ['\x7d'])
      rw [List.append_assoc, List.append_assoc, List.cons_append]
      exact hkey.append ((h.1.append ((ih h.2).mark .comma)).mark .colon)

/-- **Legible.spelled**: the written form of a legible tree spells it. -/
theorem Legible.spelled {j : Json} (h : Legible j) : j.SpelledBy j.written := by
  refine ⟨h.complete, ?_⟩
  induction h with
  | null => exact lexes_singleton .null
  | boolean b =>
    cases b with
    | true => exact lexes_singleton .true
    | false => exact lexes_singleton .false
  | number hn => exact number_lexes hn
  | string s => exact writtenString_lexes s
  | ofList _ ih => exact (items_lexes ih).mark .openBracket
  | ofFields _ ih => exact (members_lexes ih).mark .openBrace

/-- **ofChars_written**: the text of a legible tree is read as that tree. -/
theorem Document.ofChars_written {j : Json} (h : Legible j) :
    Document.ofChars j.written = ⟨j, .ok ()⟩ := (spelledBy_iff.mp h.spelled).2

/-! ## §C How deep a tree is -/

mutual
/-- How many arrays and objects are open at once at the deepest place of a tree. -/
def depth : Json → Nat
  | .absent _ => 0
  | .nothing _ => 0
  | .scalar _ => 0
  | .text _ => 0
  | .array items _ => depthItems items + 1
  | .object members _ => depthMembers members + 1
/-- The depth of the deepest item. -/
def depthItems : List Json → Nat
  | [] => 0
  | item :: items => max (depth item) (depthItems items)
/-- The depth of the deepest value of a member. -/
def depthMembers : List Member → Nat
  | [] => 0
  | .mk _ value :: members => max (depth value) (depthMembers members)
end

theorem depth_le_items {items : List Json} {item : Json} (h : item ∈ items) :
    item.depth ≤ depthItems items := by
  induction h with
  | head items => exact Nat.le_max_left _ _
  | tail _ _ ih => exact Nat.le_trans ih (Nat.le_max_right _ _)

theorem depth_le_members {key value : Json} {members : List Member} (h : .mk key value ∈ members) :
    value.depth ≤ depthMembers members := by
  induction members with
  | nil => cases h
  | cons member members ih =>
    obtain ⟨key', value'⟩ := member
    rcases List.mem_cons.mp h with heq | hmem
    · cases heq
      exact Nat.le_max_left _ _
    · exact Nat.le_trans (ih hmem) (Nat.le_max_right _ _)

theorem depth_ofList {items : List Json} {item : Json} (h : item ∈ items) :
    item.depth < (Json.ofList items).depth := by
  apply Nat.lt_succ_of_le
  exact depth_le_items h

theorem depth_ofFields {fields : List (String × Json)} {name : String} {value : Json}
    (h : (name, value) ∈ fields) : value.depth < (Json.ofFields fields).depth := by
  have hmem : Member.mk (.string name) value ∈
      fields.map fun field => Member.mk (.string field.1) field.2 :=
    List.mem_map.mpr ⟨(name, value), h, rfl⟩
  apply Nat.lt_succ_of_le
  exact depth_le_members hmem

theorem depth_ofList_le {items : List Json} {d : Nat} (h : ∀ item ∈ items, item.depth ≤ d) :
    (Json.ofList items).depth ≤ d + 1 := by
  apply Nat.succ_le_succ
  induction items with
  | nil => exact Nat.zero_le d
  | cons item items ih =>
    rw [List.forall_mem_cons] at h
    exact Nat.max_le.mpr ⟨h.1, ih h.2⟩

theorem depth_ofFields_le {fields : List (String × Json)} {d : Nat}
    (h : ∀ field ∈ fields, field.2.depth ≤ d) : (Json.ofFields fields).depth ≤ d + 1 := by
  apply Nat.succ_le_succ
  induction fields with
  | nil => exact Nat.zero_le d
  | cons field fields ih =>
    rw [List.forall_mem_cons] at h
    exact Nat.max_le.mpr ⟨h.1, ih h.2⟩

end ScopeTable.Json
