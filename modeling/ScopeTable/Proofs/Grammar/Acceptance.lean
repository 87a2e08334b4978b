/-
# ScopeTable.Proofs.Grammar.Acceptance -- a node is decoded from the texts that present it

The grammar of nodes has two halves: which texts spell a tree of JSON, and which trees present a node. Together
they say which texts present a node, and the decoder accepts these and no others, as long as what it reads is
nested less than 128 levels deep (`decode_exactly`). What it passes over may be nested as deep as it likes, and
need only be JSON (`spelledBy_iff_pass`).

A whole number is spelled without fraction and exponent, and every such numeral in the range of 64 bits is one
but for the zero with a minus, which is a real.
-/
import ScopeTable.Proofs.Grammar.Nesting
import ScopeTable.Proofs.Grammar.Reading
import ScopeTable.Proofs.Json.Written

namespace ScopeTable.Grammar

open ScopeTable.Json

/-! ## §A Trees that present something are complete -/

/-- All trees that present a value are complete. -/
def AllComplete (presents : Presenting) : Prop :=
  ∀ (t : Shape) (v : t.Value) (j : Json), presents t v j → j.Complete

section

variable {presents : Presenting}

theorem FieldPresents.complete (hinner : AllComplete presents) {f : Field} {v : f.Value} {j : Json}
    (h : FieldPresents presents f v j) : j.Complete := by
  cases h with
  | required h => exact hinner _ _ _ h
  | defaulted h => exact hinner _ _ _ h
  | null => exact .nothing (.inl ⟨(), rfl⟩)
  | given _ h => exact hinner _ _ _ h

theorem RowPresents.complete (hinner : AllComplete presents) {fs : List Field} {vs : Values fs}
    {items : List Json} (h : RowPresents presents fs vs items) : ∀ item ∈ items, item.Complete := by
  induction h with
  | nil => exact List.forall_mem_nil _
  | given h _ ih => exact List.forall_mem_cons.mpr ⟨h.complete hinner, ih⟩
  | missing => exact List.forall_mem_nil _

/-- What a member needs in a complete object. -/
def MemberComplete (m : Member) : Prop :=
  (∃ lexeme : Lexeme String, m.key = .text lexeme ∧ lexeme.Met) ∧ m.value.Complete

theorem memberComplete_named {name : String} {passed : Except Fault Unit} {value : Json}
    (h : value.Complete) : MemberComplete (.mk (.text ⟨.ok name, passed⟩) value) :=
  ⟨⟨_, rfl, .inl ⟨name, rfl⟩⟩, h⟩

theorem MembersPresent.complete (hinner : AllComplete presents) {fs : List Field} {vs : Values fs}
    {members : List Member} (h : MembersPresent presents fs vs members) :
    ∀ m ∈ members, MemberComplete m := by
  induction h with
  | rest h =>
    rintro ⟨key, value⟩ hm
    obtain ⟨⟨name, passed, rfl⟩, hpass⟩ := h _ hm
    exact memberComplete_named (complete_of_pass value hpass)
  | given _ h _ ih =>
    rw [List.forall_mem_append] at ih
    exact List.forall_mem_append.mpr
      ⟨ih.1, List.forall_mem_cons.mpr ⟨memberComplete_named (h.complete hinner), ih.2⟩⟩
  | missing _ _ _ ih => exact ih

theorem items_complete (hinner : AllComplete presents) {item : Shape} {vs : List item.Value}
    {items : List Json} (h : List.Forall₂ (presents item) vs items) : ∀ j ∈ items, j.Complete := by
  induction h with
  | nil => exact List.forall_mem_nil _
  | cons hfirst _ ih => exact List.forall_mem_cons.mpr ⟨hinner _ _ _ hfirst, ih⟩

theorem complete_object {members : List Member} (h : ∀ m ∈ members, MemberComplete m) :
    (Json.object members (.ok ())).Complete :=
  .object (fun m hm => (h m hm).1) fun m hm => (h m hm).2

end

section

variable {inner : Option Presenting}

theorem NodePresents.complete (hinner : ∀ presents, inner = some presents → AllComplete presents)
    {α : Type} {layout : Layout α} {node : α} {j : Json} (h : NodePresents inner layout node j) :
    j.Complete := by
  cases h with
  | row hsome h _ => exact .array (h.complete (hinner _ hsome))
  | object hsome h _ => exact complete_object (h.complete (hinner _ hsome))
  | alone => exact .text (.inl ⟨_, rfl⟩)
  | plain =>
    refine complete_object (List.forall_mem_cons.mpr ⟨?_, List.forall_mem_nil _⟩)
    exact memberComplete_named (.nothing (.inl ⟨(), rfl⟩))
  | holding hsome _ h =>
    refine complete_object (List.forall_mem_cons.mpr ⟨?_, List.forall_mem_nil _⟩)
    exact memberComplete_named (hinner _ hsome _ _ _ h)

theorem ShapePresents.complete (hinner : ∀ presents, inner = some presents → AllComplete presents)
    {s : Shape} {v : s.Value} {j : Json} (h : ShapePresents inner s v j) : j.Complete := by
  cases h with
  | text => exact .text (.inl ⟨_, rfl⟩)
  | line => exact .scalar (.inl ⟨_, rfl⟩)
  | offset => exact .scalar (.inl ⟨_, rfl⟩)
  | integer => exact .scalar (.inl ⟨_, rfl⟩)
  | real => exact .scalar (.inl ⟨_, rfl⟩)
  | character => exact .text (.inl ⟨_, rfl⟩)
  | boolean => exact .scalar (.inl ⟨_, rfl⟩)
  | list hsome h =>
    exact .array (items_complete (hinner _ hsome) h)
  | pair hsome hfirst hsecond =>
    refine .array (List.forall_mem_cons.mpr ⟨hinner _ hsome _ _ _ hfirst, ?_⟩)
    exact List.forall_mem_cons.mpr ⟨hinner _ hsome _ _ _ hsecond, List.forall_mem_nil _⟩
  | node h => exact h.complete hinner

end

/-- **Presents.complete**: a tree that presents a value is complete. -/
theorem Presents.complete (room : Nat) : AllComplete (Presents room) :=
  presents_induction (fun _ hinner _ _ _ h => h.complete hinner) room

/-! ## §B Texts and nodes -/

theorem decodeDocument_iff {k : Kind} {document : Document} {node : k.Node} :
    decodeDocument k document = .ok node ↔
      Presents greatestDepth (.node k) node document.root ∧ document.ending = .ok () := by
  rw [decodeDocument, bind_eq_ok_iff]
  constructor
  · rintro ⟨found, hread, h⟩
    obtain ⟨_, hending, h⟩ := bind_eq_ok_iff.mp h
    cases h
    exact ⟨read_iff.mp hread, ofText_eq_ok_iff.mp hending⟩
  · rintro ⟨hpresents, hending⟩
    refine ⟨node, read_iff.mpr hpresents, ?_⟩
    exact bind_eq_ok_iff.mpr ⟨(), ofText_eq_ok_iff.mpr hending, rfl⟩

/-- **decode_eq_ok_iff**: a node is decoded from a text exactly if the text spells a tree that presents the node
within the room there is. -/
theorem decode_eq_ok_iff {k : Kind} {text : String} {node : k.Node} :
    decode k text = .ok node ↔
      ∃ j : Json, j.SpelledBy text.toList ∧ Presents greatestDepth (.node k) node j := by
  rw [decode, decodeDocument_iff]
  constructor
  · rintro ⟨hpresents, hending⟩
    refine ⟨_, spelledBy_iff.mpr ⟨Presents.complete _ _ _ _ hpresents, ?_⟩, hpresents⟩
    rw [← hending]
  · rintro ⟨j, hspelled, hpresents⟩
    rw [(spelledBy_iff.mp hspelled).2]
    exact ⟨hpresents, rfl⟩

/-- **Presented.unique**: a tree presents one value of a shape at most. -/
theorem Presented.unique {s : Shape} {v w : s.Value} {j : Json} (hv : Presented s v j)
    (hw : Presented s w j) : v = w := by
  have hread : ∀ {u : s.Value}, Presented s u j → read (depthRead (some s) j) s j = .ok u := fun hu =>
    read_iff.mpr (presents_iff.mpr ⟨hu, Nat.le_refl _⟩)
  exact Except.ok.inj ((hread hv).symm.trans (hread hw))

/-- **decode_exactly**: a node is decoded from a text if and only if the text spells a tree that presents the
node and that is nested less than 128 levels deep where it is read. Of a tree that is not nested deeper, just
the node is decoded that it presents, and there is one at most. -/
theorem decode_exactly (k : Kind) (text : String) :
    (∀ node, decode k text = .ok node ↔
      ∃ j : Json, j.SpelledBy text.toList ∧ Presented (.node k) node j ∧
        depthRead (some (.node k)) j < 128) ∧
    (∀ j : Json, j.SpelledBy text.toList → depthRead (some (.node k)) j < 128 →
      ∀ node, decode k text = .ok node ↔ Presented (.node k) node j) ∧
    (∀ j j' : Json, j.SpelledBy text.toList → j'.SpelledBy text.toList →
      ∀ node node', Presented (.node k) node j → Presented (.node k) node' j' → node = node') := by
  have hdecode : ∀ node, decode k text = .ok node ↔
      ∃ j : Json, j.SpelledBy text.toList ∧ Presented (.node k) node j ∧
        depthRead (some (.node k)) j < 128 := by
    intro node
    rw [decode_eq_ok_iff]
    refine exists_congr fun j => and_congr_right fun _ => presents_iff.trans ?_
    rw [greatestDepth, Nat.lt_succ_iff]
  refine ⟨hdecode, ?_, ?_⟩
  · intro j hspelled hdepth node
    rw [hdecode]
    constructor
    · rintro ⟨i, hi, hnode, -⟩
      rw [hspelled.unique hi]
      exact hnode
    · intro hnode
      exact ⟨j, hspelled, hnode, hdepth⟩
  · intro j j' hj hj' node node' hnode hnode'
    rw [← hj.unique hj'] at hnode'
    exact hnode.unique hnode'

/-! ## §C The zero with a minus -/

/-- An object of one member, the number of an integer literal. -/
def integerLiteral (lexeme : Lexeme Scalar) : Json :=
  .object [.mk (.string "integer") (.scalar lexeme)] (.ok ())

/-- The text of an integer literal with the given numeral. -/
def integerLiteralText (numeral : String) : String := "\x7b\"integer\":" ++ numeral ++ "\x7d"

theorem integerLiteral_spelled {lexeme : Lexeme Scalar} (hmet : lexeme.Met) {numeral : String}
    (h : (Token.scalar lexeme).SpelledBy numeral.toList) :
    (integerLiteral lexeme).SpelledBy (integerLiteralText numeral).toList := by
  have htext : (integerLiteralText numeral).toList =
      '\x7b' :: (writtenString "integer" ++ ':' :: (numeral.toList ++ ['\x7d'])) := by
    rw [integerLiteralText, String.toList_append, String.toList_append]
    rfl
  have hvalue := (lexes_singleton h).append (lexes_singleton .closeBrace)
  have hmember := (writtenString_lexes "integer").append (hvalue.mark .colon)
  refine ⟨complete_object (List.forall_mem_cons.mpr ⟨?_, List.forall_mem_nil _⟩), ?_⟩
  · exact memberComplete_named (.scalar hmet)
  · rw [htext]
    exact hmember.mark .openBrace

/-- The zero with a minus is spelled without fraction and exponent and is in the range of an integer, but it is
read as a real. So no literal is decoded from it, as one is from a plain zero. -/
theorem minusZero_refused :
    (⟨true, ['0'], none, none⟩ : Numeral).SpelledBy "-0".toList ∧
      -(Nat.ofDigitChars 10 ['0'] 0 : Int) = Int64.toInt 0 ∧
      (∀ node, decode .literal (integerLiteralText "-0") ≠ .ok node) ∧
      decode .literal (integerLiteralText "0") = .ok (.integer 0) := by
  have hdigits : WholeDigits ['0'] :=
    ⟨⟨List.cons_ne_nil _ _, List.forall_mem_singleton.mpr rfl⟩, fun h => h.2 rfl⟩
  have hminus : (⟨true, ['0'], none, none⟩ : Numeral).SpelledBy "-0".toList := .mk hdigits .none .none
  have hplain : (⟨false, ['0'], none, none⟩ : Numeral).SpelledBy "0".toList := .mk hdigits .none .none
  have hworth : Nat.ofDigitChars 10 ['0'] 0 = (0 : UInt64).toNat := rfl
  have hother : ∀ n, ¬(⟨true, ['0'], none, none⟩ : Numeral).IsWhole n := by
    intro n hn
    cases hn with
    | negative hneg hvalue =>
      have hless := Int64.lt_iff_toInt_lt.mp hneg
      rw [hworth] at hvalue
      rw [← hvalue] at hless
      exact absurd hless (by decide)
  obtain ⟨x, hx⟩ := Numeral.value_of_not_isWhole hother
  have hreal := integerLiteral_spelled (.inr rfl) (.real hminus hother hx)
  have hwhole := integerLiteral_spelled (.inr rfl) (.whole hplain (.natural hworth))
  refine ⟨hminus, rfl, ?_, ?_⟩
  · intro node h
    rw [decode, (spelledBy_iff.mp hreal).2] at h
    cases x with
    | error fault => cases h
    | ok x => cases h
  · rw [decode, (spelledBy_iff.mp hwhole).2]
    rfl

end ScopeTable.Grammar
