/-
# ScopeTable.Proofs.Language.Bare -- trees without places, and their reals

What two trees have to agree on to be equal is told by two functions on one tree. `bare` puts every identifier of a tree
at no place at all, on line zero and without a span, and blanks the real literals; everything else it leaves as it is.
`reals` lists the real literals, in the order of the text. They are kept apart because reals are compared as numbers:
the two zeros are equal, and what is not a number is equal to nothing (`beq_real_iff`).
-/
import ScopeTable.Language.Declaration
import ScopeTable.Proofs.Grammar.Leaves

namespace ScopeTable

/-! ## §A Trees without places -/

/-- The identifier at no place. -/
def Ident.bare (name : Ident) : Ident := ⟨name.spelling, 0, none⟩

/-- The literal, with any real blanked. -/
def Literal.bare : Literal → Literal
  | .real _ => .real 0
  | value => value

mutual
/-- The expression without places and reals. -/
def Expression.bare : Expression → Expression
  | ⟨left, comparison⟩ => ⟨AdditiveExpression.bare left, Comparison.bareOption comparison⟩
/-- The right side of a comparison without places and reals. -/
def Comparison.bare : Comparison → Comparison
  | ⟨op, right⟩ => ⟨op, AdditiveExpression.bare right⟩
/-- The right side that may be missing without places and reals. -/
def Comparison.bareOption : Option Comparison → Option Comparison
  | none => none
  | some c => some (Comparison.bare c)
/-- The sum without places and reals. -/
def AdditiveExpression.bare : AdditiveExpression → AdditiveExpression
  | ⟨first, rest⟩ => ⟨MultiplicativeExpression.bare first, AdditiveExpression.bareRest rest⟩
/-- The further terms of a sum without places and reals. -/
def AdditiveExpression.bareRest : List (AddOp × MultiplicativeExpression) → List (AddOp × MultiplicativeExpression)
  | [] => []
  | (op, term) :: rest => (op, MultiplicativeExpression.bare term) :: AdditiveExpression.bareRest rest
/-- The product without places and reals. -/
def MultiplicativeExpression.bare : MultiplicativeExpression → MultiplicativeExpression
  | ⟨first, rest⟩ => ⟨NegatableExpression.bare first, MultiplicativeExpression.bareRest rest⟩
/-- The further factors of a product without places and reals. -/
def MultiplicativeExpression.bareRest : List (MulOp × NegatableExpression) → List (MulOp × NegatableExpression)
  | [] => []
  | (op, factor) :: rest => (op, NegatableExpression.bare factor) :: MultiplicativeExpression.bareRest rest
/-- The operand without places and reals. -/
def NegatableExpression.bare : NegatableExpression → NegatableExpression
  | .signed sign inner => .signed sign (NegatableExpression.bare inner)
  | .primary operand => .primary (PrimaryExpression.bare operand)
/-- The operand without sign without places and reals. -/
def PrimaryExpression.bare : PrimaryExpression → PrimaryExpression
  | .access path => .access (VariableAccess.bare path)
  | .literal value => .literal value.bare
  | .function call => .function (FunctionDesignator.bare call)
  | .method call => .method (MethodDesignator.bare call)
  | .objectInstantiation creation => .objectInstantiation (ObjectInstantiation.bare creation)
  | .parens inner => .parens (Expression.bare inner)
  | .not inner => .not (PrimaryExpression.bare inner)
/-- The path to a variable without places and reals. -/
def VariableAccess.bare : VariableAccess → VariableAccess
  | .identifier name => .identifier name.bare
  | .indexed base indices => .indexed (VariableAccess.bare base) (Expression.bareList indices)
  | .attribute base field => .attribute (VariableAccess.bare base) field.bare
/-- The list of expressions without places and reals. -/
def Expression.bareList : List Expression → List Expression
  | [] => []
  | e :: es => Expression.bare e :: Expression.bareList es
/-- The call without places and reals. -/
def FunctionDesignator.bare : FunctionDesignator → FunctionDesignator
  | ⟨name, args⟩ => ⟨name.bare, ActualParameter.bareList args⟩
/-- The method call without places and reals. -/
def MethodDesignator.bare : MethodDesignator → MethodDesignator
  | ⟨receiver, call⟩ => ⟨VariableAccess.bare receiver, FunctionDesignator.bare call⟩
/-- The object creation without places and reals. -/
def ObjectInstantiation.bare : ObjectInstantiation → ObjectInstantiation
  | ⟨className, args⟩ => ⟨className.bare, ActualParameter.bareList args⟩
/-- The argument without places and reals. -/
def ActualParameter.bare : ActualParameter → ActualParameter
  | ⟨value, width, precision⟩ =>
    ⟨Expression.bare value, Expression.bareOption width, Expression.bareOption precision⟩
/-- The list of arguments without places and reals. -/
def ActualParameter.bareList : List ActualParameter → List ActualParameter
  | [] => []
  | a :: as => ActualParameter.bare a :: ActualParameter.bareList as
/-- The expression that may be missing without places and reals. -/
def Expression.bareOption : Option Expression → Option Expression
  | none => none
  | some e => some (Expression.bare e)
end

/-- The assignment without places and reals. -/
def Assignment.bare (step : Assignment) : Assignment := ⟨step.target.bare, step.value.bare⟩

/-- The print statement without places and reals. -/
def Print.bare (output : Print) : Print := ⟨output.value.bare⟩

mutual
/-- The statement without places and reals. -/
def Statement.bare : Statement → Statement
  | .assignment step => .assignment step.bare
  | .conditional choice => .conditional (If.bare choice)
  | .print output => .print output.bare
  | .loop repeated => .loop (While.bare repeated)
  | .compound body => .compound (Statement.bareList body)
/-- The branch without places and reals. -/
def If.bare : If → If
  | ⟨cond, thenBranch, elseBranch⟩ =>
    ⟨cond.bare, Statement.bare thenBranch, Statement.bareOption elseBranch⟩
/-- The loop without places and reals. -/
def While.bare : While → While
  | ⟨cond, body⟩ => ⟨cond.bare, Statement.bare body⟩
/-- The list of statements without places and reals. -/
def Statement.bareList : List Statement → List Statement
  | [] => []
  | s :: ss => Statement.bare s :: Statement.bareList ss
/-- The statement that may be missing without places and reals. -/
def Statement.bareOption : Option Statement → Option Statement
  | none => none
  | some s => some (Statement.bare s)
end

mutual
/-- The type without places. -/
def TypeDenoter.bare : TypeDenoter → TypeDenoter
  | .named name => .named name.bare
  | .array type => .array (ArrayType.bare type)
  | type => type
/-- The array type without places. -/
def ArrayType.bare : ArrayType → ArrayType
  | ⟨min, max, element⟩ => ⟨min, max, TypeDenoter.bare element⟩
end

mutual
/-- **TypeDenoter.text_bare**: the text of a type does not tell where its names stand. -/
theorem TypeDenoter.text_bare : ∀ type : TypeDenoter, type.bare.text = type.text
  | .integer => rfl
  | .real => rfl
  | .char => rfl
  | .boolean => rfl
  | .named _ => rfl
  | .array type => ArrayType.text_bare type
theorem ArrayType.text_bare : ∀ type : ArrayType, type.bare.text = type.text
  | ⟨_, _, element⟩ => by rw [ArrayType.bare, ArrayType.text, ArrayType.text, TypeDenoter.text_bare element]
end

/-! ## §B Reals -/

/-- The real that a leaf is. -/
def Leaf.real? : Leaf → Option Float
  | real x => some x
  | span _ => none

/-- The reals among leaves. -/
def realsOf (leaves : List Leaf) : List Float := leaves.filterMap Leaf.real?

theorem realsOf_append (as bs : List Leaf) : realsOf (as ++ bs) = realsOf as ++ realsOf bs :=
  List.filterMap_append

theorem realsOf_ident (name : Ident) : realsOf name.leaves = [] := by
  obtain ⟨spelling, line, span | span⟩ := name
  · rfl
  · rfl

theorem mem_realsOf {x : Float} {leaves : List Leaf} : x ∈ realsOf leaves ↔ .real x ∈ leaves := by
  rw [realsOf, List.mem_filterMap]
  constructor
  · rintro ⟨leaf, hleaf, hx⟩
    cases leaf with
    | real y =>
      obtain rfl := Option.some.inj hx
      exact hleaf
    | span s => cases hx
  · intro h
    exact ⟨.real x, h, rfl⟩

/-! ## §C Equality of reals -/

section

open Float.Model (UnpackedFloat)

/-- The number is one of the two zeros. -/
def IsZero : UnpackedFloat → Prop
  | .zero _ => True
  | _ => False

theorem compare_finite_iff {s t : UnpackedFloat.Sign} {m n : Nat} {e f : Int} (hm : 0 < m) (hn : 0 < n) :
    (UnpackedFloat.finite s m e hm).compare (.finite t n f hn) = some .eq ↔
      UnpackedFloat.finite s m e hm = .finite t n f hn := by
  have hmagnitude : (compare e f).then (compare m n) = .eq ↔ m = n ∧ e = f := by simp [and_comm]
  rw [UnpackedFloat.finite.injEq]
  -- Numbers below zero are compared the other way round, which is the same when they are equal.
  cases s <;> cases t
  · show some ((compare e f).then (compare m n)).swap = some .eq ↔ _
    simp [hmagnitude]
  · exact iff_of_false nofun (by simp)
  · exact iff_of_false nofun (by simp)
  · show some ((compare e f).then (compare m n)) = some .eq ↔ _
    simp [hmagnitude]

/-- **compare_eq_iff**: numbers compare equal when both are zero, or when they are one number and not none at all. -/
theorem compare_eq_iff (x y : UnpackedFloat) :
    x.compare y = some .eq ↔ IsZero x ∧ IsZero y ∨ x = y ∧ x ≠ .notANumber := by
  have hsigns : ∀ s t : UnpackedFloat.Sign, compare s t = .eq ↔ s = t := by
    rintro (_ | _) (_ | _) <;> simp <;> rfl
  cases x with
  | notANumber => exact iff_of_false nofun (by rintro (⟨⟨⟩, -⟩ | ⟨-, hnot⟩); exact hnot rfl)
  | infinity s =>
    cases y with
    | infinity t =>
      show some (compare s t) = some .eq ↔ _
      simp [IsZero, hsigns]
    | _ => cases s <;> exact iff_of_false nofun (by rintro (⟨⟨⟩, -⟩ | ⟨⟨⟩, -⟩))
  | zero s =>
    cases y with
    | zero t => exact iff_of_true rfl (.inl ⟨trivial, trivial⟩)
    | infinity t => cases t <;> exact iff_of_false nofun (by rintro (⟨-, ⟨⟩⟩ | ⟨⟨⟩, -⟩))
    | finite t n f hn => cases t <;> exact iff_of_false nofun (by rintro (⟨-, ⟨⟩⟩ | ⟨⟨⟩, -⟩))
    | notANumber => exact iff_of_false nofun (by rintro (⟨-, ⟨⟩⟩ | ⟨⟨⟩, -⟩))
  | finite s m e hm =>
    cases y with
    | finite t n f hn =>
      rw [compare_finite_iff]
      exact ⟨fun heq => .inr ⟨heq, nofun⟩, by rintro (⟨⟨⟩, -⟩ | ⟨heq, -⟩); exact heq⟩
    | infinity t => cases s <;> cases t <;> exact iff_of_false nofun (by rintro (⟨⟨⟩, -⟩ | ⟨⟨⟩, -⟩))
    | zero t => cases s <;> exact iff_of_false nofun (by rintro (⟨⟨⟩, -⟩ | ⟨⟨⟩, -⟩))
    | notANumber => exact iff_of_false nofun (by rintro (⟨⟨⟩, -⟩ | ⟨⟨⟩, -⟩))

theorem beq_real_iff (x y : Float) :
    (x == y) = true ↔ IsZero x.toModel.unpack ∧ IsZero y.toModel.unpack ∨
      x.toModel.unpack = y.toModel.unpack ∧ x.toModel.unpack ≠ .notANumber := by
  rw [← compare_eq_iff]
  show (x.toModel.unpack.compare y.toModel.unpack == some Ordering.eq) = true ↔ _
  exact beq_iff_eq

example : ((0 : Float) == -0) = true ∧ ((0 / 0 : Float) == 0 / 0) = false := by decide +kernel

theorem beq_real_refl {x : Float} (h : x.isFinite = true) : (x == x) = true := by
  refine (beq_real_iff x x).mpr (.inr ⟨rfl, ?_⟩)
  intro hnone
  have hfinite : x.toModel.unpack.isFinite = true := h
  rw [hnone] at hfinite
  cases hfinite

theorem beq_real_symm {x y : Float} (h : (x == y) = true) : (y == x) = true := by
  rcases (beq_real_iff x y).mp h with ⟨hx, hy⟩ | ⟨heq, hnot⟩
  · exact (beq_real_iff y x).mpr (.inl ⟨hy, hx⟩)
  · exact (beq_real_iff y x).mpr (.inr ⟨heq.symm, heq ▸ hnot⟩)

theorem beq_real_trans {x y z : Float} (h : (x == y) = true) (hnext : (y == z) = true) : (x == z) = true := by
  rcases (beq_real_iff x y).mp h with ⟨hx, hy⟩ | ⟨heq, hnot⟩
  · rcases (beq_real_iff y z).mp hnext with ⟨-, hz⟩ | ⟨heq', -⟩
    · exact (beq_real_iff x z).mpr (.inl ⟨hx, hz⟩)
    · exact (beq_real_iff x z).mpr (.inl ⟨hx, heq' ▸ hy⟩)
  · rcases (beq_real_iff y z).mp hnext with ⟨hy, hz⟩ | ⟨heq', -⟩
    · exact (beq_real_iff x z).mpr (.inl ⟨heq ▸ hy, hz⟩)
    · exact (beq_real_iff x z).mpr (.inr ⟨heq.trans heq', hnot⟩)

end

end ScopeTable
