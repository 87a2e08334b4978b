/-
# ScopeTable.Proofs.Grammar.Equality -- equality of trees is equality up to places

Two trees are equal when they are the same without places, and their reals are equal one by one. The written form gives
a second account of the same thing: `Json.withoutPlaces` takes the members `line` and `span` out of a JSON tree, and
what is left of two written forms is identical when the trees are the same without places and have identical reals.

Both are shown by one induction over the syntax. `Compared` holds the three comparisons of two nodes together, the test,
the bare trees and the written forms, and says how they depend on each other. It is carried through records
(`Compared.both`) and fails alike where two nodes have different forms (`Compared.apart`).
-/
import ScopeTable.Proofs.Grammar.Normal
import ScopeTable.Proofs.Language.Bare

namespace ScopeTable

/-! ## §A Written forms without places -/

namespace Json

/-- The names of the members that tell where an identifier stands. No other node has members of these names
(`place_field`, `place_variant`). -/
def isPlaceName (name : String) : Bool := name == "line" || name == "span"

/-- Whether a key is one of these names. -/
def isPlaceKey : Json → Bool
  | .text ⟨.ok name, _⟩ => isPlaceName name
  | _ => false

mutual
/-- The tree without the members that tell a place, at any depth. -/
def withoutPlaces : Json → Json
  | .array items ending => .array (itemsWithoutPlaces items) ending
  | .object members ending => .object (membersWithoutPlaces members) ending
  | j => j
/-- The items without places. -/
def itemsWithoutPlaces : List Json → List Json
  | [] => []
  | item :: items => withoutPlaces item :: itemsWithoutPlaces items
/-- The members that tell no place, without places. -/
def membersWithoutPlaces : List Member → List Member
  | [] => []
  | .mk key value :: members =>
    if isPlaceKey key then membersWithoutPlaces members
    else .mk key (withoutPlaces value) :: membersWithoutPlaces members
end

/-- The fields that tell no place, without places. -/
def fieldsWithoutPlaces (fields : List (String × Json)) : List (String × Json) :=
  (fields.filter fun field => !isPlaceName field.1).map fun field => (field.1, field.2.withoutPlaces)

@[simp]
theorem withoutPlaces_null : null.withoutPlaces = null := rfl

@[simp]
theorem withoutPlaces_string (s : String) : (string s).withoutPlaces = string s := rfl

@[simp]
theorem withoutPlaces_integer (n : Int64) : (integer n).withoutPlaces = integer n := rfl

@[simp]
theorem withoutPlaces_real (x : Float) : (real x).withoutPlaces = real x := rfl

@[simp]
theorem withoutPlaces_character (c : Char) : (character c).withoutPlaces = character c := rfl

@[simp]
theorem withoutPlaces_boolean (b : Bool) : (boolean b).withoutPlaces = boolean b := rfl

@[simp]
theorem withoutPlaces_ofList (items : List Json) :
    (ofList items).withoutPlaces = ofList (items.map withoutPlaces) := by
  have hitems : itemsWithoutPlaces items = items.map withoutPlaces := by
    induction items with
    | nil => rfl
    | cons item items ih => rw [itemsWithoutPlaces, List.map_cons, ih]
  rw [ofList, withoutPlaces, hitems]
  rfl

@[simp]
theorem withoutPlaces_ofFields (fields : List (String × Json)) :
    (ofFields fields).withoutPlaces = ofFields (fieldsWithoutPlaces fields) := by
  have hmembers : membersWithoutPlaces (fields.map fun field => .mk (.string field.1) field.2) =
      (fieldsWithoutPlaces fields).map fun field => .mk (.string field.1) field.2 := by
    induction fields with
    | nil => rfl
    | cons field fields ih =>
      have hkey : isPlaceKey (string field.1) = isPlaceName field.1 := rfl
      rw [List.map_cons, membersWithoutPlaces, ih, hkey, fieldsWithoutPlaces, fieldsWithoutPlaces]
      cases hname : isPlaceName field.1 with
      | true => simp [hname]
      | false => simp [hname]
  rw [ofFields, withoutPlaces, hmembers]
  rfl

@[simp]
theorem fieldsWithoutPlaces_nil : fieldsWithoutPlaces [] = [] := rfl

@[simp]
theorem fieldsWithoutPlaces_cons (name : String) (value : Json) (fields : List (String × Json)) :
    fieldsWithoutPlaces ((name, value) :: fields) =
      if isPlaceName name then fieldsWithoutPlaces fields
      else (name, value.withoutPlaces) :: fieldsWithoutPlaces fields := by
  rw [fieldsWithoutPlaces, List.filter_cons]
  cases isPlaceName name <;> rfl

@[simp]
theorem withoutPlaces_single (name : String) (value : Json) :
    (single name value).withoutPlaces = ofFields (fieldsWithoutPlaces [(name, value)]) :=
  withoutPlaces_ofFields _

@[simp]
theorem ofList_inj {items others : List Json} : ofList items = ofList others ↔ items = others := by
  simp [ofList]

@[simp]
theorem ofFields_inj {fields others : List (String × Json)} : ofFields fields = ofFields others ↔ fields = others := by
  have hmember : Function.Injective fun field : String × Json => Member.mk (.string field.1) field.2 := by
    rintro ⟨name, value⟩ ⟨other, value'⟩ h
    simpa [string, Lexeme.sound] using h
  simp only [ofFields, object.injEq, and_true]
  exact (List.map_injective_iff.mpr hmember).eq_iff

@[simp]
theorem string_inj {s t : String} : string s = string t ↔ s = t := by simp [string, Lexeme.sound]

@[simp]
theorem boolean_inj {a b : Bool} : boolean a = boolean b ↔ a = b := by simp [boolean, Lexeme.sound]

@[simp]
theorem character_inj {c d : Char} : character c = character d ↔ c = d := by simp [character]

@[simp]
theorem real_inj {x y : Float} : real x = real y ↔ x = y := by simp [real, number, Lexeme.sound]

/-- **integer_inj**: no whole number is written as another. -/
@[simp]
theorem integer_inj {m n : Int64} : integer m = integer n ↔ m = n := by
  refine ⟨?_, congrArg integer⟩
  intro h
  rw [integer, integer] at h
  split at h <;> split at h
  all_goals simp [number, Lexeme.sound] at h
  · exact h
  · exact congrArg Int64.ofUInt64 h

@[simp]
theorem ofFields_ne_null (fields : List (String × Json)) : ofFields fields ≠ null := nofun

@[simp]
theorem null_ne_ofFields (fields : List (String × Json)) : null ≠ ofFields fields := nofun

@[simp]
theorem ofFields_ne_string (fields : List (String × Json)) (s : String) : ofFields fields ≠ string s := nofun

@[simp]
theorem string_ne_ofFields (fields : List (String × Json)) (s : String) : string s ≠ ofFields fields := nofun

end Json

namespace Grammar

/-- **place_field**: only in identifiers there are fields that tell a place. -/
theorem place_field {k : Kind} {fs : List Field} {make : Values fs → Except Mismatch k.Node}
    (hlayout : layoutOf k = .record fs make) (hk : k ≠ .ident) : ∀ f ∈ fs, Json.isPlaceName f.name = false := by
  cases k with
  | ident => exact absurd rfl hk
  | _ => cases hlayout <;> decide

/-- No variant has a name that tells a place. -/
theorem place_variant {k : Kind} {variants : List (Variant k.Node)} (hlayout : layoutOf k = .choice variants) :
    ∀ variant ∈ variants, Json.isPlaceName variant.name = false := by
  cases k <;> cases hlayout <;> decide

end Grammar

/-! ## §B Two nodes compared -/

/-- What is known of two nodes from comparing them: `same` is the outcome of the test, `bare` says that they are the
same without places and reals, `written` that their written forms are the same without places, and `as` and `bs` are
their leaves. -/
structure Compared (same : Bool) (bare written : Prop) (as bs : List Leaf) : Prop where
  same_iff : same = true ↔ bare ∧ List.Forall₂ (fun x y => (x == y) = true) (realsOf as) (realsOf bs)
  written_iff : written ↔ bare ∧ realsOf as = realsOf bs
  length_eq : bare → (realsOf as).length = (realsOf bs).length

/-- Lists of equal length are related when their parts are. -/
theorem forall₂_append_iff {R : Float → Float → Prop} {xs ys xs' ys' : List Float} (h : xs.length = ys.length) :
    List.Forall₂ R (xs ++ xs') (ys ++ ys') ↔ List.Forall₂ R xs ys ∧ List.Forall₂ R xs' ys' := by
  induction xs generalizing ys with
  | nil =>
    obtain rfl := List.length_eq_zero_iff.mp h.symm
    simp
  | cons x xs ih =>
    cases ys with
    | nil => cases h
    | cons y ys =>
      rw [List.cons_append, List.cons_append, List.forall₂_cons, List.forall₂_cons, ih (Nat.succ.inj h), and_assoc]

namespace Compared

variable {same same' : Bool} {bare bare' written written' : Prop} {as bs as' bs' : List Leaf}

/-- Two values that hold neither places nor reals. -/
theorem plain (hsame : same = true ↔ bare) (hwritten : written ↔ bare) : Compared same bare written [] [] :=
  ⟨hsame.trans (and_iff_left .nil).symm, hwritten.trans (and_iff_left rfl).symm, fun _ => rfl⟩

/-- **Compared.both**: two records are compared field by field. -/
theorem both (h : Compared same bare written as bs) (h' : Compared same' bare' written' as' bs') :
    Compared (same && same') (bare ∧ bare') (written ∧ written') (as ++ as') (bs ++ bs') := by
  refine ⟨?_, ?_, ?_⟩
  · rw [Bool.and_eq_true, h.same_iff, h'.same_iff, realsOf_append, realsOf_append, and_and_and_comm]
    refine and_congr_right fun hbare => ?_
    exact (forall₂_append_iff (h.length_eq hbare.1)).symm
  · rw [h.written_iff, h'.written_iff, realsOf_append, realsOf_append, and_and_and_comm]
    refine and_congr_right fun hbare => ⟨?_, fun hall => List.append_inj hall (h.length_eq hbare.1)⟩
    rintro ⟨hfront, hrest⟩
    rw [hfront, hrest]
  · rintro ⟨hbare, hbare'⟩
    rw [realsOf_append, realsOf_append, List.length_append, List.length_append, h.length_eq hbare, h'.length_eq hbare']

/-- What a node consists of may be put in other words. -/
theorem congr (h : Compared same bare written as bs) (hsame : same' = same) (hbare : bare' ↔ bare)
    (hwritten : written' ↔ written) : Compared same' bare' written' as bs :=
  ⟨hsame ▸ h.same_iff.trans (and_congr_left' hbare.symm),
    hwritten.trans (h.written_iff.trans (and_congr_left' hbare.symm)), fun hbare' => h.length_eq (hbare.mp hbare')⟩

/-- **Compared.apart**: nodes of different forms differ in every respect. -/
theorem apart (hsame : same = false) (hbare : ¬bare) (hwritten : ¬written) : Compared same bare written as bs :=
  ⟨iff_of_false (by rw [hsame]; exact Bool.false_ne_true) fun h => hbare h.1,
    iff_of_false hwritten fun h => hbare h.1, fun h => absurd h hbare⟩

end Compared

/-! ## §C Leaves -/

open Json

theorem Ident.toJson_withoutPlaces (name : Ident) :
    name.toJson.withoutPlaces = .ofFields [("id", .string name.spelling)] := by
  obtain ⟨spelling, line, span | span⟩ := name
  · simp [toJson, isPlaceName]
  · simp [toJson, isPlaceName]

theorem Ident.compared (a b : Ident) :
    Compared (a == b) (a.bare = b.bare) (a.toJson.withoutPlaces = b.toJson.withoutPlaces) a.leaves b.leaves := by
  have hspelling : Compared (a.spelling == b.spelling) (a.bare = b.bare)
      (a.toJson.withoutPlaces = b.toJson.withoutPlaces) [] [] := by
    apply Compared.plain
    · simp [bare]
    · simp [bare, toJson_withoutPlaces]
  obtain ⟨hsame, hwritten, hlength⟩ := hspelling
  -- The span of an identifier is a leaf, but it is none of its reals.
  constructor
  · rw [realsOf_ident, realsOf_ident]
    exact hsame
  · rw [realsOf_ident, realsOf_ident]
    exact hwritten
  · rw [realsOf_ident, realsOf_ident]
    exact hlength

theorem Literal.compared (a b : Literal) :
    Compared (a == b) (a.bare = b.bare) (a.toJson.withoutPlaces = b.toJson.withoutPlaces) a.leaves b.leaves := by
  cases a with
  | integer m =>
    cases b with
    | integer n => exact .plain (by simp [bare, BEq.beq, same]) (by simp [bare, toJson, isPlaceName])
    | _ => exact .apart rfl (by simp [bare]) (by simp [toJson, isPlaceName])
  | real x =>
    cases b with
    | real y =>
      constructor
      · simp [leaves, realsOf, Leaf.real?, bare, BEq.beq, same]
      · simp [leaves, realsOf, Leaf.real?, bare, toJson, isPlaceName]
      · exact fun _ => rfl
    | _ => exact .apart rfl (by simp [bare]) (by simp [toJson, isPlaceName])
  | char c =>
    cases b with
    | char d => exact .plain (by simp [bare, BEq.beq, same]) (by simp [bare, toJson, isPlaceName])
    | _ => exact .apart rfl (by simp [bare]) (by simp [toJson, isPlaceName])
  | boolean x =>
    cases b with
    | boolean y => exact .plain (by simp [bare, BEq.beq, same]) (by simp [bare, toJson, isPlaceName])
    | _ => exact .apart rfl (by simp [bare]) (by simp [toJson, isPlaceName])

theorem RelOp.compared (a b : RelOp) :
    Compared (a == b) (a = b) (a.toJson.withoutPlaces = b.toJson.withoutPlaces) [] [] := by
  apply Compared.plain beq_iff_eq
  cases a <;> cases b <;> simp [toJson]

theorem AddOp.compared (a b : AddOp) :
    Compared (a == b) (a = b) (a.toJson.withoutPlaces = b.toJson.withoutPlaces) [] [] := by
  apply Compared.plain beq_iff_eq
  cases a <;> cases b <;> simp [toJson]

theorem MulOp.compared (a b : MulOp) :
    Compared (a == b) (a = b) (a.toJson.withoutPlaces = b.toJson.withoutPlaces) [] [] := by
  apply Compared.plain beq_iff_eq
  cases a <;> cases b <;> simp [toJson]

theorem Sign.compared (a b : Sign) :
    Compared (a == b) (a = b) (a.toJson.withoutPlaces = b.toJson.withoutPlaces) [] [] := by
  apply Compared.plain beq_iff_eq
  cases a <;> cases b <;> simp [toJson]

/-! ## §D Expressions -/

mutual
theorem Expression.compared : ∀ a b : Expression,
    Compared (a.same b) (a.bare = b.bare) (a.toJson.withoutPlaces = b.toJson.withoutPlaces) a.leaves b.leaves
  | ⟨left₁, comparison₁⟩, ⟨left₂, comparison₂⟩ => by
    refine ((AdditiveExpression.compared left₁ left₂).both (Comparison.comparedOption comparison₁ comparison₂)).congr
      ?_ ?_ ?_
    · rw [Expression.same]
    · simp [Expression.bare]
    · simp [Expression.toJson, isPlaceName]
theorem Comparison.compared : ∀ a b : Comparison,
    Compared (a.same b) (a.bare = b.bare) (a.toJson.withoutPlaces = b.toJson.withoutPlaces) a.leaves b.leaves
  | ⟨op₁, right₁⟩, ⟨op₂, right₂⟩ => by
    refine ((RelOp.compared op₁ op₂).both (AdditiveExpression.compared right₁ right₂)).congr ?_ ?_ ?_
    · rw [Comparison.same]
    · simp [Comparison.bare]
    · simp [Comparison.toJson, isPlaceName]
theorem Comparison.comparedOption : ∀ a b : Option Comparison,
    Compared (Comparison.sameOption a b) (Comparison.bareOption a = Comparison.bareOption b)
      ((Comparison.toJsonOption a).withoutPlaces = (Comparison.toJsonOption b).withoutPlaces)
      (Comparison.leavesOption a) (Comparison.leavesOption b)
  | none, none => .plain (by simp [Comparison.sameOption]) (by simp)
  | none, some b => .apart (by simp [Comparison.sameOption]) nofun (by
      cases b
      simp [Comparison.toJsonOption, Comparison.toJson])
  | some a, none => .apart (by simp [Comparison.sameOption]) nofun (by
      cases a
      simp [Comparison.toJsonOption, Comparison.toJson])
  | some a, some b => by
    refine (Comparison.compared a b).congr ?_ ?_ ?_
    · rw [Comparison.sameOption]
    · simp [Comparison.bareOption]
    · simp [Comparison.toJsonOption]
theorem AdditiveExpression.compared : ∀ a b : AdditiveExpression,
    Compared (a.same b) (a.bare = b.bare) (a.toJson.withoutPlaces = b.toJson.withoutPlaces) a.leaves b.leaves
  | ⟨first₁, rest₁⟩, ⟨first₂, rest₂⟩ => by
    refine ((MultiplicativeExpression.compared first₁ first₂).both (AdditiveExpression.comparedRest rest₁ rest₂)).congr
      ?_ ?_ ?_
    · rw [AdditiveExpression.same]
    · simp [AdditiveExpression.bare]
    · simp [AdditiveExpression.toJson, isPlaceName]
theorem AdditiveExpression.comparedRest : ∀ a b : List (AddOp × MultiplicativeExpression),
    Compared (AdditiveExpression.sameRest a b) (AdditiveExpression.bareRest a = AdditiveExpression.bareRest b)
      ((AdditiveExpression.restToJson a).map withoutPlaces = (AdditiveExpression.restToJson b).map withoutPlaces)
      (AdditiveExpression.leavesRest a) (AdditiveExpression.leavesRest b)
  | [], [] => .plain (by simp [AdditiveExpression.sameRest]) (by simp)
  | [], _ :: _ => .apart (by simp [AdditiveExpression.sameRest]) nofun nofun
  | _ :: _, [] => .apart (by simp [AdditiveExpression.sameRest]) nofun nofun
  | (op₁, term₁) :: rest₁, (op₂, term₂) :: rest₂ => by
    refine (((AddOp.compared op₁ op₂).both (MultiplicativeExpression.compared term₁ term₂)).both
      (AdditiveExpression.comparedRest rest₁ rest₂)).congr ?_ ?_ ?_
    · rw [AdditiveExpression.sameRest]
    · simp [AdditiveExpression.bareRest]
    · simp [AdditiveExpression.restToJson]
theorem MultiplicativeExpression.compared : ∀ a b : MultiplicativeExpression,
    Compared (a.same b) (a.bare = b.bare) (a.toJson.withoutPlaces = b.toJson.withoutPlaces) a.leaves b.leaves
  | ⟨first₁, rest₁⟩, ⟨first₂, rest₂⟩ => by
    refine ((NegatableExpression.compared first₁ first₂).both (MultiplicativeExpression.comparedRest rest₁ rest₂)).congr
      ?_ ?_ ?_
    · rw [MultiplicativeExpression.same]
    · simp [MultiplicativeExpression.bare]
    · simp [MultiplicativeExpression.toJson, isPlaceName]
theorem MultiplicativeExpression.comparedRest : ∀ a b : List (MulOp × NegatableExpression),
    Compared (MultiplicativeExpression.sameRest a b)
      (MultiplicativeExpression.bareRest a = MultiplicativeExpression.bareRest b)
      ((MultiplicativeExpression.restToJson a).map withoutPlaces =
        (MultiplicativeExpression.restToJson b).map withoutPlaces)
      (MultiplicativeExpression.leavesRest a) (MultiplicativeExpression.leavesRest b)
  | [], [] => .plain (by simp [MultiplicativeExpression.sameRest]) (by simp)
  | [], _ :: _ => .apart (by simp [MultiplicativeExpression.sameRest]) nofun nofun
  | _ :: _, [] => .apart (by simp [MultiplicativeExpression.sameRest]) nofun nofun
  | (op₁, factor₁) :: rest₁, (op₂, factor₂) :: rest₂ => by
    refine (((MulOp.compared op₁ op₂).both (NegatableExpression.compared factor₁ factor₂)).both
      (MultiplicativeExpression.comparedRest rest₁ rest₂)).congr ?_ ?_ ?_
    · rw [MultiplicativeExpression.sameRest]
    · simp [MultiplicativeExpression.bareRest]
    · simp [MultiplicativeExpression.restToJson]
theorem NegatableExpression.compared : ∀ a b : NegatableExpression,
    Compared (a.same b) (a.bare = b.bare) (a.toJson.withoutPlaces = b.toJson.withoutPlaces) a.leaves b.leaves
  | .signed sign₁ inner₁, b => by
    cases b with
    | signed sign₂ inner₂ =>
      refine ((Sign.compared sign₁ sign₂).both (NegatableExpression.compared inner₁ inner₂)).congr ?_ ?_ ?_
      · rw [NegatableExpression.same]
      · simp [NegatableExpression.bare]
      · simp [NegatableExpression.toJson, isPlaceName]
    | _ => exact .apart (by simp [NegatableExpression.same]) nofun (by simp [NegatableExpression.toJson, isPlaceName])
  | .primary operand₁, b => by
    cases b with
    | primary operand₂ =>
      refine (PrimaryExpression.compared operand₁ operand₂).congr ?_ ?_ ?_
      · rw [NegatableExpression.same]
      · simp [NegatableExpression.bare]
      · simp [NegatableExpression.toJson, isPlaceName]
    | _ => exact .apart (by simp [NegatableExpression.same]) nofun (by simp [NegatableExpression.toJson, isPlaceName])
theorem PrimaryExpression.compared : ∀ a b : PrimaryExpression,
    Compared (a.same b) (a.bare = b.bare) (a.toJson.withoutPlaces = b.toJson.withoutPlaces) a.leaves b.leaves
  | .access path₁, b => by
    cases b with
    | access path₂ =>
      refine (VariableAccess.compared path₁ path₂).congr ?_ ?_ ?_
      · rw [PrimaryExpression.same]
      · simp [PrimaryExpression.bare]
      · simp [PrimaryExpression.toJson, isPlaceName]
    | _ => exact .apart (by simp [PrimaryExpression.same]) nofun (by simp [PrimaryExpression.toJson, isPlaceName])
  | .literal value₁, b => by
    cases b with
    | literal value₂ =>
      refine (Literal.compared value₁ value₂).congr ?_ ?_ ?_
      · rw [PrimaryExpression.same]
      · simp [PrimaryExpression.bare]
      · simp [PrimaryExpression.toJson, isPlaceName]
    | _ => exact .apart (by simp [PrimaryExpression.same]) nofun (by simp [PrimaryExpression.toJson, isPlaceName])
  | .function call₁, b => by
    cases b with
    | function call₂ =>
      refine (FunctionDesignator.compared call₁ call₂).congr ?_ ?_ ?_
      · rw [PrimaryExpression.same]
      · simp [PrimaryExpression.bare]
      · simp [PrimaryExpression.toJson, isPlaceName]
    | _ => exact .apart (by simp [PrimaryExpression.same]) nofun (by simp [PrimaryExpression.toJson, isPlaceName])
  | .method call₁, b => by
    cases b with
    | method call₂ =>
      refine (MethodDesignator.compared call₁ call₂).congr ?_ ?_ ?_
      · rw [PrimaryExpression.same]
      · simp [PrimaryExpression.bare]
      · simp [PrimaryExpression.toJson, isPlaceName]
    | _ => exact .apart (by simp [PrimaryExpression.same]) nofun (by simp [PrimaryExpression.toJson, isPlaceName])
  | .objectInstantiation creation₁, b => by
    cases b with
    | objectInstantiation creation₂ =>
      refine (ObjectInstantiation.compared creation₁ creation₂).congr ?_ ?_ ?_
      · rw [PrimaryExpression.same]
      · simp [PrimaryExpression.bare]
      · simp [PrimaryExpression.toJson, isPlaceName]
    | _ => exact .apart (by simp [PrimaryExpression.same]) nofun (by simp [PrimaryExpression.toJson, isPlaceName])
  | .parens inner₁, b => by
    cases b with
    | parens inner₂ =>
      refine (Expression.compared inner₁ inner₂).congr ?_ ?_ ?_
      · rw [PrimaryExpression.same]
      · simp [PrimaryExpression.bare]
      · simp [PrimaryExpression.toJson, isPlaceName]
    | _ => exact .apart (by simp [PrimaryExpression.same]) nofun (by simp [PrimaryExpression.toJson, isPlaceName])
  | .not inner₁, b => by
    cases b with
    | not inner₂ =>
      refine (PrimaryExpression.compared inner₁ inner₂).congr ?_ ?_ ?_
      · rw [PrimaryExpression.same]
      · simp [PrimaryExpression.bare]
      · simp [PrimaryExpression.toJson, isPlaceName]
    | _ => exact .apart (by simp [PrimaryExpression.same]) nofun (by simp [PrimaryExpression.toJson, isPlaceName])
theorem VariableAccess.compared : ∀ a b : VariableAccess,
    Compared (a.same b) (a.bare = b.bare) (a.toJson.withoutPlaces = b.toJson.withoutPlaces) a.leaves b.leaves
  | .identifier name₁, b => by
    cases b with
    | identifier name₂ =>
      refine (Ident.compared name₁ name₂).congr ?_ ?_ ?_
      · rw [VariableAccess.same]
      · simp [VariableAccess.bare]
      · simp [VariableAccess.toJson, isPlaceName]
    | _ => exact .apart (by simp [VariableAccess.same]) nofun (by simp [VariableAccess.toJson, isPlaceName])
  | .indexed base₁ indices₁, b => by
    cases b with
    | indexed base₂ indices₂ =>
      refine ((VariableAccess.compared base₁ base₂).both (Expression.comparedList indices₁ indices₂)).congr ?_ ?_ ?_
      · rw [VariableAccess.same]
      · simp [VariableAccess.bare]
      · simp [VariableAccess.toJson, isPlaceName]
    | _ => exact .apart (by simp [VariableAccess.same]) nofun (by simp [VariableAccess.toJson, isPlaceName])
  | .attribute base₁ field₁, b => by
    match b with
    | .attribute base₂ field₂ =>
      refine ((VariableAccess.compared base₁ base₂).both (Ident.compared field₁ field₂)).congr ?_ ?_ ?_
      · rw [VariableAccess.same]
      · simp [VariableAccess.bare]
      · simp [VariableAccess.toJson, isPlaceName]
    | .identifier _ | .indexed .. =>
      exact .apart (by simp [VariableAccess.same]) nofun (by simp [VariableAccess.toJson, isPlaceName])
theorem Expression.comparedList : ∀ a b : List Expression,
    Compared (Expression.sameList a b) (Expression.bareList a = Expression.bareList b)
      ((Expression.listToJson a).map withoutPlaces = (Expression.listToJson b).map withoutPlaces)
      (Expression.leavesList a) (Expression.leavesList b)
  | [], [] => .plain (by simp [Expression.sameList]) (by simp)
  | [], _ :: _ => .apart (by simp [Expression.sameList]) nofun nofun
  | _ :: _, [] => .apart (by simp [Expression.sameList]) nofun nofun
  | a :: as, b :: bs => by
    refine ((Expression.compared a b).both (Expression.comparedList as bs)).congr ?_ ?_ ?_
    · rw [Expression.sameList]
    · simp [Expression.bareList]
    · simp [Expression.listToJson]
theorem FunctionDesignator.compared : ∀ a b : FunctionDesignator,
    Compared (a.same b) (a.bare = b.bare) (a.toJson.withoutPlaces = b.toJson.withoutPlaces) a.leaves b.leaves
  | ⟨name₁, args₁⟩, ⟨name₂, args₂⟩ => by
    refine ((Ident.compared name₁ name₂).both (ActualParameter.comparedList args₁ args₂)).congr ?_ ?_ ?_
    · rw [FunctionDesignator.same]
    · simp [FunctionDesignator.bare]
    · simp [FunctionDesignator.toJson, isPlaceName]
theorem MethodDesignator.compared : ∀ a b : MethodDesignator,
    Compared (a.same b) (a.bare = b.bare) (a.toJson.withoutPlaces = b.toJson.withoutPlaces) a.leaves b.leaves
  | ⟨receiver₁, call₁⟩, ⟨receiver₂, call₂⟩ => by
    refine ((VariableAccess.compared receiver₁ receiver₂).both (FunctionDesignator.compared call₁ call₂)).congr ?_ ?_ ?_
    · rw [MethodDesignator.same]
    · simp [MethodDesignator.bare]
    · simp [MethodDesignator.toJson, isPlaceName]
theorem ObjectInstantiation.compared : ∀ a b : ObjectInstantiation,
    Compared (a.same b) (a.bare = b.bare) (a.toJson.withoutPlaces = b.toJson.withoutPlaces) a.leaves b.leaves
  | ⟨name₁, args₁⟩, ⟨name₂, args₂⟩ => by
    refine ((Ident.compared name₁ name₂).both (ActualParameter.comparedList args₁ args₂)).congr ?_ ?_ ?_
    · rw [ObjectInstantiation.same]
    · simp [ObjectInstantiation.bare]
    · simp [ObjectInstantiation.toJson, isPlaceName]
theorem ActualParameter.compared : ∀ a b : ActualParameter,
    Compared (a.same b) (a.bare = b.bare) (a.toJson.withoutPlaces = b.toJson.withoutPlaces) a.leaves b.leaves
  | ⟨value₁, width₁, precision₁⟩, ⟨value₂, width₂, precision₂⟩ => by
    refine ((Expression.compared value₁ value₂).both
      ((Expression.comparedOption width₁ width₂).both (Expression.comparedOption precision₁ precision₂))).congr ?_ ?_ ?_
    · rw [ActualParameter.same, Bool.and_assoc]
    · simp [ActualParameter.bare]
    · simp [ActualParameter.toJson, isPlaceName]
theorem ActualParameter.comparedList : ∀ a b : List ActualParameter,
    Compared (ActualParameter.sameList a b) (ActualParameter.bareList a = ActualParameter.bareList b)
      ((ActualParameter.listToJson a).map withoutPlaces = (ActualParameter.listToJson b).map withoutPlaces)
      (ActualParameter.leavesList a) (ActualParameter.leavesList b)
  | [], [] => .plain (by simp [ActualParameter.sameList]) (by simp)
  | [], _ :: _ => .apart (by simp [ActualParameter.sameList]) nofun nofun
  | _ :: _, [] => .apart (by simp [ActualParameter.sameList]) nofun nofun
  | a :: as, b :: bs => by
    refine ((ActualParameter.compared a b).both (ActualParameter.comparedList as bs)).congr ?_ ?_ ?_
    · rw [ActualParameter.sameList]
    · simp [ActualParameter.bareList]
    · simp [ActualParameter.listToJson]
theorem Expression.comparedOption : ∀ a b : Option Expression,
    Compared (Expression.sameOption a b) (Expression.bareOption a = Expression.bareOption b)
      ((Expression.toJsonOption a).withoutPlaces = (Expression.toJsonOption b).withoutPlaces)
      (Expression.leavesOption a) (Expression.leavesOption b)
  | none, none => .plain (by simp [Expression.sameOption]) (by simp)
  | none, some b => .apart (by simp [Expression.sameOption]) nofun (by
      cases b
      simp [Expression.toJsonOption, Expression.toJson])
  | some a, none => .apart (by simp [Expression.sameOption]) nofun (by
      cases a
      simp [Expression.toJsonOption, Expression.toJson])
  | some a, some b => by
    refine (Expression.compared a b).congr ?_ ?_ ?_
    · rw [Expression.sameOption]
    · simp [Expression.bareOption]
    · simp [Expression.toJsonOption]
end

/-! ## §E Statements -/

theorem Assignment.compared (a b : Assignment) :
    Compared (a.same b) (a.bare = b.bare) (a.toJson.withoutPlaces = b.toJson.withoutPlaces) a.leaves b.leaves := by
  refine ((VariableAccess.compared a.target b.target).both (Expression.compared a.value b.value)).congr rfl ?_ ?_
  · simp [bare]
  · simp [toJson, isPlaceName]

theorem Print.compared (a b : Print) :
    Compared (a.same b) (a.bare = b.bare) (a.toJson.withoutPlaces = b.toJson.withoutPlaces) a.leaves b.leaves := by
  refine (Expression.compared a.value b.value).congr rfl ?_ ?_
  · simp [bare]
  · simp [toJson, isPlaceName]

mutual
theorem Statement.compared : ∀ a b : Statement,
    Compared (a.same b) (a.bare = b.bare) (a.toJson.withoutPlaces = b.toJson.withoutPlaces) a.leaves b.leaves
  | .assignment step₁, b => by
    cases b with
    | assignment step₂ =>
      refine (Assignment.compared step₁ step₂).congr ?_ ?_ ?_
      · rw [Statement.same]
        rfl
      · simp [Statement.bare]
      · simp [Statement.toJson, isPlaceName]
    | _ => exact .apart (by simp [Statement.same]) nofun (by simp [Statement.toJson, isPlaceName])
  | .conditional choice₁, b => by
    cases b with
    | conditional choice₂ =>
      refine (If.compared choice₁ choice₂).congr ?_ ?_ ?_
      · rw [Statement.same]
      · simp [Statement.bare]
      · simp [Statement.toJson, isPlaceName]
    | _ => exact .apart (by simp [Statement.same]) nofun (by simp [Statement.toJson, isPlaceName])
  | .print output₁, b => by
    cases b with
    | print output₂ =>
      refine (Print.compared output₁ output₂).congr ?_ ?_ ?_
      · rw [Statement.same]
        rfl
      · simp [Statement.bare]
      · simp [Statement.toJson, isPlaceName]
    | _ => exact .apart (by simp [Statement.same]) nofun (by simp [Statement.toJson, isPlaceName])
  | .loop repeated₁, b => by
    cases b with
    | loop repeated₂ =>
      refine (While.compared repeated₁ repeated₂).congr ?_ ?_ ?_
      · rw [Statement.same]
      · simp [Statement.bare]
      · simp [Statement.toJson, isPlaceName]
    | _ => exact .apart (by simp [Statement.same]) nofun (by simp [Statement.toJson, isPlaceName])
  | .compound body₁, b => by
    cases b with
    | compound body₂ =>
      refine (Statement.comparedList body₁ body₂).congr ?_ ?_ ?_
      · rw [Statement.same]
      · simp [Statement.bare]
      · simp [Statement.toJson, isPlaceName]
    | _ => exact .apart (by simp [Statement.same]) nofun (by simp [Statement.toJson, isPlaceName])
theorem If.compared : ∀ a b : If,
    Compared (a.same b) (a.bare = b.bare) (a.toJson.withoutPlaces = b.toJson.withoutPlaces) a.leaves b.leaves
  | ⟨cond₁, then₁, else₁⟩, ⟨cond₂, then₂, else₂⟩ => by
    refine ((Expression.compared cond₁ cond₂).both
      ((Statement.compared then₁ then₂).both (Statement.comparedOption else₁ else₂))).congr ?_ ?_ ?_
    · rw [If.same, Bool.and_assoc]
      rfl
    · simp [If.bare]
    · simp [If.toJson, isPlaceName]
theorem While.compared : ∀ a b : While,
    Compared (a.same b) (a.bare = b.bare) (a.toJson.withoutPlaces = b.toJson.withoutPlaces) a.leaves b.leaves
  | ⟨cond₁, body₁⟩, ⟨cond₂, body₂⟩ => by
    refine ((Expression.compared cond₁ cond₂).both (Statement.compared body₁ body₂)).congr ?_ ?_ ?_
    · rw [While.same]
      rfl
    · simp [While.bare]
    · simp [While.toJson, isPlaceName]
theorem Statement.comparedList : ∀ a b : List Statement,
    Compared (Statement.sameList a b) (Statement.bareList a = Statement.bareList b)
      ((Statement.listToJson a).map withoutPlaces = (Statement.listToJson b).map withoutPlaces)
      (Statement.leavesList a) (Statement.leavesList b)
  | [], [] => .plain (by simp [Statement.sameList]) (by simp)
  | [], _ :: _ => .apart (by simp [Statement.sameList]) nofun nofun
  | _ :: _, [] => .apart (by simp [Statement.sameList]) nofun nofun
  | a :: as, b :: bs => by
    refine ((Statement.compared a b).both (Statement.comparedList as bs)).congr ?_ ?_ ?_
    · rw [Statement.sameList]
    · simp [Statement.bareList]
    · simp [Statement.listToJson]
theorem Statement.comparedOption : ∀ a b : Option Statement,
    Compared (Statement.sameOption a b) (Statement.bareOption a = Statement.bareOption b)
      ((Statement.toJsonOption a).withoutPlaces = (Statement.toJsonOption b).withoutPlaces)
      (Statement.leavesOption a) (Statement.leavesOption b)
  | none, none => .plain (by simp [Statement.sameOption]) (by simp)
  | none, some b => .apart (by simp [Statement.sameOption]) nofun (by
      cases b <;> simp [Statement.toJsonOption, Statement.toJson, isPlaceName])
  | some a, none => .apart (by simp [Statement.sameOption]) nofun (by
      cases a <;> simp [Statement.toJsonOption, Statement.toJson, isPlaceName])
  | some a, some b => by
    refine (Statement.compared a b).congr ?_ ?_ ?_
    · rw [Statement.sameOption]
    · simp [Statement.bareOption]
    · simp [Statement.toJsonOption]
end

/-! ## §F Types -/

mutual
theorem TypeDenoter.compared : ∀ a b : TypeDenoter,
    Compared (a.same b) (a.bare = b.bare) (a.toJson.withoutPlaces = b.toJson.withoutPlaces) a.leaves b.leaves
  | .integer, b => by
    cases b with
    | integer => exact .plain (by simp [TypeDenoter.same]) (by simp)
    | _ => exact .apart (by simp [TypeDenoter.same]) nofun (by simp [TypeDenoter.toJson, isPlaceName])
  | .real, b => by
    cases b with
    | real => exact .plain (by simp [TypeDenoter.same]) (by simp)
    | _ => exact .apart (by simp [TypeDenoter.same]) nofun (by simp [TypeDenoter.toJson, isPlaceName])
  | .char, b => by
    cases b with
    | char => exact .plain (by simp [TypeDenoter.same]) (by simp)
    | _ => exact .apart (by simp [TypeDenoter.same]) nofun (by simp [TypeDenoter.toJson, isPlaceName])
  | .boolean, b => by
    cases b with
    | boolean => exact .plain (by simp [TypeDenoter.same]) (by simp)
    | _ => exact .apart (by simp [TypeDenoter.same]) nofun (by simp [TypeDenoter.toJson, isPlaceName])
  | .named name₁, b => by
    cases b with
    | named name₂ =>
      refine (Ident.compared name₁ name₂).congr ?_ ?_ ?_
      · rw [TypeDenoter.same]
      · simp [TypeDenoter.bare]
      · simp [TypeDenoter.toJson, isPlaceName]
    | _ => exact .apart (by simp [TypeDenoter.same]) nofun (by simp [TypeDenoter.toJson, isPlaceName])
  | .array type₁, b => by
    cases b with
    | array type₂ =>
      refine (ArrayType.compared type₁ type₂).congr ?_ ?_ ?_
      · rw [TypeDenoter.same]
      · simp [TypeDenoter.bare]
      · simp [TypeDenoter.toJson, isPlaceName]
    | _ => exact .apart (by simp [TypeDenoter.same]) nofun (by simp [TypeDenoter.toJson, isPlaceName])
theorem ArrayType.compared : ∀ a b : ArrayType,
    Compared (a.same b) (a.bare = b.bare) (a.toJson.withoutPlaces = b.toJson.withoutPlaces) a.leaves b.leaves
  | ⟨min₁, max₁, element₁⟩, ⟨min₂, max₂, element₂⟩ => by
    have hbounds : ∀ m n : Int64, Compared (m == n) (m = n) (integer m = integer n) [] [] :=
      fun m n => .plain beq_iff_eq integer_inj
    refine (((hbounds min₁ min₂).both (hbounds max₁ max₂)).both (TypeDenoter.compared element₁ element₂)).congr
      ?_ ?_ ?_
    · rw [ArrayType.same]
    · simp [ArrayType.bare, and_assoc]
    · simp [ArrayType.toJson, isPlaceName, and_assoc]
end

/-! ## §G Equality of the nodes of a kind -/

namespace Grammar

/-- The reals of a node, in the order of the text. -/
def reals (k : Kind) (node : k.Node) : List Float := realsOf (leaves k node)

/-- Equality of the nodes of a kind is equality up to places. -/
structure EqualityUpToPlaces (k : Kind) (same : k.Node → k.Node → Bool) (bare : k.Node → k.Node) : Prop where
  /-- Two nodes are equal when they are the same without places and their reals are equal as numbers. -/
  same_iff : ∀ a b, same a b = true ↔
    bare a = bare b ∧ List.Forall₂ (fun x y => (x == y) = true) (reals k a) (reals k b)
  /-- Where there are no reals, they are equal when their written forms are identical without places. -/
  written_iff : ∀ a b, reals k a = [] → reals k b = [] →
    (same a b = true ↔ (toJson k a).withoutPlaces = (toJson k b).withoutPlaces)
  /-- What is decoded is equal to itself. -/
  refl : ∀ text node, decode k text = .ok node → same node node = true
  symm : ∀ a b, same a b = true → same b a = true
  trans : ∀ a b c, same a b = true → same b c = true → same a c = true

/-- The reals that are decoded are finite. -/
theorem finite_of_decoded {k : Kind} {text : String} {node : k.Node} (h : decode k text = .ok node) {x : Float}
    (hx : x ∈ reals k node) : x.isFinite = true := by
  obtain ⟨j, -, hpresents⟩ := decode_eq_ok_iff.mp h
  exact Presents.sound greatestDepth _ _ _ hpresents (.real x) (mem_realsOf.mp hx)

theorem forall₂_real_symm {xs ys : List Float} (h : List.Forall₂ (fun x y => (x == y) = true) xs ys) :
    List.Forall₂ (fun x y => (x == y) = true) ys xs := by
  induction h with
  | nil => exact .nil
  | cons hxy _ ih => exact .cons (beq_real_symm hxy) ih

theorem forall₂_real_trans {xs ys zs : List Float} (h : List.Forall₂ (fun x y => (x == y) = true) xs ys)
    (hnext : List.Forall₂ (fun x y => (x == y) = true) ys zs) :
    List.Forall₂ (fun x y => (x == y) = true) xs zs := by
  induction h generalizing zs with
  | nil => exact hnext
  | cons hxy _ ih =>
    cases hnext with
    | cons hyz hrest => exact .cons (beq_real_trans hxy hyz) (ih hrest)

/-- **equalityUpToPlaces**: where any two nodes are compared alike in all respects, equality is equality up to
places. -/
theorem equalityUpToPlaces {k : Kind} {same : k.Node → k.Node → Bool} {bare : k.Node → k.Node}
    (h : ∀ a b, Compared (same a b) (bare a = bare b) ((toJson k a).withoutPlaces = (toJson k b).withoutPlaces)
      (leaves k a) (leaves k b)) : EqualityUpToPlaces k same bare := by
  have hsame : ∀ a b, same a b = true ↔
      bare a = bare b ∧ List.Forall₂ (fun x y => (x == y) = true) (reals k a) (reals k b) := fun a b => (h a b).same_iff
  refine ⟨hsame, ?_, ?_, ?_, ?_⟩
  · intro a b ha hb
    have hwritten : _ ↔ bare a = bare b ∧ reals k a = reals k b := (h a b).written_iff
    rw [hsame, hwritten, ha, hb]
    simp
  · intro text node hdecoded
    exact (hsame node node).mpr ⟨rfl, List.forall₂_same.mpr fun x hx => beq_real_refl (finite_of_decoded hdecoded hx)⟩
  · intro a b hab
    obtain ⟨hbare, hreals⟩ := (hsame a b).mp hab
    exact (hsame b a).mpr ⟨hbare.symm, forall₂_real_symm hreals⟩
  · intro a b c hab hbc
    obtain ⟨hbare, hreals⟩ := (hsame a b).mp hab
    obtain ⟨hbare', hreals'⟩ := (hsame b c).mp hbc
    exact (hsame a c).mpr ⟨hbare.trans hbare', forall₂_real_trans hreals hreals'⟩

/-- **equality_up_to_places**: the equality of identifiers, types, statements, expressions and of all their parts is
equality up to places, and types that are equal have one text. -/
theorem equality_up_to_places :
    EqualityUpToPlaces .ident (fun a b : Ident => a == b) Ident.bare ∧
    EqualityUpToPlaces .typeDenoter (fun a b : TypeDenoter => a == b) TypeDenoter.bare ∧
    EqualityUpToPlaces .arrayType (fun a b : ArrayType => a == b) ArrayType.bare ∧
    EqualityUpToPlaces .statement (fun a b : Statement => a == b) Statement.bare ∧
    EqualityUpToPlaces .assignment (fun a b : Assignment => a == b) Assignment.bare ∧
    EqualityUpToPlaces .conditional (fun a b : If => a == b) If.bare ∧
    EqualityUpToPlaces .print (fun a b : Print => a == b) Print.bare ∧
    EqualityUpToPlaces .loop (fun a b : While => a == b) While.bare ∧
    EqualityUpToPlaces .expression (fun a b : Expression => a == b) Expression.bare ∧
    EqualityUpToPlaces .comparison (fun a b : Comparison => a == b) Comparison.bare ∧
    EqualityUpToPlaces .relOp (fun a b : RelOp => a == b) id ∧
    EqualityUpToPlaces .additiveExpression (fun a b : AdditiveExpression => a == b) AdditiveExpression.bare ∧
    EqualityUpToPlaces .addOp (fun a b : AddOp => a == b) id ∧
    EqualityUpToPlaces .multiplicativeExpression (fun a b : MultiplicativeExpression => a == b)
      MultiplicativeExpression.bare ∧
    EqualityUpToPlaces .mulOp (fun a b : MulOp => a == b) id ∧
    EqualityUpToPlaces .negatableExpression (fun a b : NegatableExpression => a == b) NegatableExpression.bare ∧
    EqualityUpToPlaces .sign (fun a b : Sign => a == b) id ∧
    EqualityUpToPlaces .primaryExpression (fun a b : PrimaryExpression => a == b) PrimaryExpression.bare ∧
    EqualityUpToPlaces .literal (fun a b : Literal => a == b) Literal.bare ∧
    EqualityUpToPlaces .variableAccess (fun a b : VariableAccess => a == b) VariableAccess.bare ∧
    EqualityUpToPlaces .functionDesignator (fun a b : FunctionDesignator => a == b) FunctionDesignator.bare ∧
    EqualityUpToPlaces .methodDesignator (fun a b : MethodDesignator => a == b) MethodDesignator.bare ∧
    EqualityUpToPlaces .objectInstantiation (fun a b : ObjectInstantiation => a == b) ObjectInstantiation.bare ∧
    EqualityUpToPlaces .actualParameter (fun a b : ActualParameter => a == b) ActualParameter.bare ∧
    (∀ a b : TypeDenoter, (a == b) = true → a.text = b.text) ∧
    ∀ a b : ArrayType, (a == b) = true → a.text = b.text := by
  refine ⟨equalityUpToPlaces Ident.compared, equalityUpToPlaces TypeDenoter.compared,
    equalityUpToPlaces ArrayType.compared, equalityUpToPlaces Statement.compared,
    equalityUpToPlaces Assignment.compared, equalityUpToPlaces If.compared, equalityUpToPlaces Print.compared,
    equalityUpToPlaces While.compared, equalityUpToPlaces Expression.compared, equalityUpToPlaces Comparison.compared,
    equalityUpToPlaces RelOp.compared, equalityUpToPlaces AdditiveExpression.compared,
    equalityUpToPlaces AddOp.compared, equalityUpToPlaces MultiplicativeExpression.compared,
    equalityUpToPlaces MulOp.compared, equalityUpToPlaces NegatableExpression.compared,
    equalityUpToPlaces Sign.compared, equalityUpToPlaces PrimaryExpression.compared,
    equalityUpToPlaces Literal.compared, equalityUpToPlaces VariableAccess.compared,
    equalityUpToPlaces FunctionDesignator.compared, equalityUpToPlaces MethodDesignator.compared,
    equalityUpToPlaces ObjectInstantiation.compared, equalityUpToPlaces ActualParameter.compared, ?_, ?_⟩
  · intro a b hab
    have hbare : a.bare = b.bare := ((TypeDenoter.compared a b).same_iff.mp hab).1
    rw [← a.text_bare, hbare, b.text_bare]
  · intro a b hab
    have hbare : a.bare = b.bare := ((ArrayType.compared a b).same_iff.mp hab).1
    rw [← a.text_bare, hbare, b.text_bare]

end Grammar

end ScopeTable
