/-
# ScopeTable.Language.Expression -- expressions of the language

The node types follow the grammar of the language: a comparison of sums of products of operands, where an
operand is signed or primary. Equality of nodes is equality of structure, operators, literals and
spellings; the places of identifiers do not count, and real literals are compared as numbers.
-/
import ScopeTable.Language.Ident

namespace ScopeTable

/-! ## §A Operators and literals -/

/-- The relational operators. -/
inductive RelOp where
  | eq
  | notEq
  | lt
  | gt
  | ltEq
  | gtEq
  deriving DecidableEq, Repr

/-- The operators between the terms of a sum. -/
inductive AddOp where
  | plus
  | minus
  | or
  deriving DecidableEq, Repr

/-- The operators between the factors of a product. -/
inductive MulOp where
  | times
  | divide
  | div
  | mod
  | and
  deriving DecidableEq, Repr

/-- The sign of an operand. -/
inductive Sign where
  | plus
  | minus
  deriving DecidableEq, Repr

/-- A literal. -/
inductive Literal where
  | integer (n : Int64)
  | real (x : Float)
  | char (c : Char)
  | boolean (b : Bool)

/-! ## §B Nodes -/

mutual
/-- A sum, possibly compared with another. -/
structure Expression where
  left : AdditiveExpression
  comparison : Option Comparison
/-- The right side of a comparison. -/
structure Comparison where
  op : RelOp
  right : AdditiveExpression
/-- A sum: the first term, then operators and terms. -/
structure AdditiveExpression where
  first : MultiplicativeExpression
  rest : List (AddOp × MultiplicativeExpression)
/-- A product: the first factor, then operators and factors. -/
structure MultiplicativeExpression where
  first : NegatableExpression
  rest : List (MulOp × NegatableExpression)
/-- An operand that may carry signs. -/
inductive NegatableExpression where
  | signed (sign : Sign) (inner : NegatableExpression)
  | primary (operand : PrimaryExpression)
/-- An operand without sign. -/
inductive PrimaryExpression where
  | access (path : VariableAccess)
  | literal (value : Literal)
  | function (call : FunctionDesignator)
  | method (call : MethodDesignator)
  | objectInstantiation (creation : ObjectInstantiation)
  | parens (inner : Expression)
  | not (inner : PrimaryExpression)
/-- A path to a variable: a name, an element of an array or a field of an object. -/
inductive VariableAccess where
  | identifier (name : Ident)
  | indexed (base : VariableAccess) (indices : List Expression)
  | attribute (base : VariableAccess) (field : Ident)
/-- A call of a function by its name. -/
structure FunctionDesignator where
  name : Ident
  args : List ActualParameter
/-- A call of a method of an object. -/
structure MethodDesignator where
  receiver : VariableAccess
  call : FunctionDesignator
/-- The creation of an object. -/
structure ObjectInstantiation where
  className : Ident
  args : List ActualParameter
/-- An argument, with the widths that an argument of a print call may have. -/
structure ActualParameter where
  value : Expression
  width : Option Expression
  precision : Option Expression
end

/-! ## §C Equality up to places -/

/-- Literals are equal when they are of one kind and of one value; reals are compared as numbers. -/
def Literal.same : Literal → Literal → Bool
  | .integer m, .integer n => m == n
  | .real x, .real y => x == y
  | .char c, .char d => c == d
  | .boolean a, .boolean b => a == b
  | _, _ => false

instance : BEq Literal := ⟨Literal.same⟩

mutual
/-- Equality of expressions. -/
def Expression.same : Expression → Expression → Bool
  | ⟨left₁, comparison₁⟩, ⟨left₂, comparison₂⟩ =>
    AdditiveExpression.same left₁ left₂ && Comparison.sameOption comparison₁ comparison₂
/-- Equality of the right sides of comparisons. -/
def Comparison.same : Comparison → Comparison → Bool
  | ⟨op₁, right₁⟩, ⟨op₂, right₂⟩ => op₁ == op₂ && AdditiveExpression.same right₁ right₂
/-- Equality of right sides that may be missing. -/
def Comparison.sameOption : Option Comparison → Option Comparison → Bool
  | none, none => true
  | some a, some b => Comparison.same a b
  | _, _ => false
/-- Equality of sums. -/
def AdditiveExpression.same : AdditiveExpression → AdditiveExpression → Bool
  | ⟨first₁, rest₁⟩, ⟨first₂, rest₂⟩ =>
    MultiplicativeExpression.same first₁ first₂ && AdditiveExpression.sameRest rest₁ rest₂
/-- Equality of the further terms of sums. -/
def AdditiveExpression.sameRest :
    List (AddOp × MultiplicativeExpression) → List (AddOp × MultiplicativeExpression) → Bool
  | [], [] => true
  | (op₁, term₁) :: rest₁, (op₂, term₂) :: rest₂ =>
    op₁ == op₂ && MultiplicativeExpression.same term₁ term₂ &&
      AdditiveExpression.sameRest rest₁ rest₂
  | _, _ => false
/-- Equality of products. -/
def MultiplicativeExpression.same :
    MultiplicativeExpression → MultiplicativeExpression → Bool
  | ⟨first₁, rest₁⟩, ⟨first₂, rest₂⟩ =>
    NegatableExpression.same first₁ first₂ && MultiplicativeExpression.sameRest rest₁ rest₂
/-- Equality of the further factors of products. -/
def MultiplicativeExpression.sameRest :
    List (MulOp × NegatableExpression) → List (MulOp × NegatableExpression) → Bool
  | [], [] => true
  | (op₁, factor₁) :: rest₁, (op₂, factor₂) :: rest₂ =>
    op₁ == op₂ && NegatableExpression.same factor₁ factor₂ &&
      MultiplicativeExpression.sameRest rest₁ rest₂
  | _, _ => false
/-- Equality of operands. -/
def NegatableExpression.same : NegatableExpression → NegatableExpression → Bool
  | .signed sign₁ inner₁, .signed sign₂ inner₂ =>
    sign₁ == sign₂ && NegatableExpression.same inner₁ inner₂
  | .primary operand₁, .primary operand₂ => PrimaryExpression.same operand₁ operand₂
  | _, _ => false
/-- Equality of operands without sign. -/
def PrimaryExpression.same : PrimaryExpression → PrimaryExpression → Bool
  | .access a, .access b => VariableAccess.same a b
  | .literal a, .literal b => a == b
  | .function a, .function b => FunctionDesignator.same a b
  | .method a, .method b => MethodDesignator.same a b
  | .objectInstantiation a, .objectInstantiation b => ObjectInstantiation.same a b
  | .parens a, .parens b => Expression.same a b
  | .not a, .not b => PrimaryExpression.same a b
  | _, _ => false
/-- Equality of paths to variables. -/
def VariableAccess.same : VariableAccess → VariableAccess → Bool
  | .identifier a, .identifier b => a == b
  | .indexed base₁ indices₁, .indexed base₂ indices₂ =>
    VariableAccess.same base₁ base₂ && Expression.sameList indices₁ indices₂
  | .attribute base₁ field₁, .attribute base₂ field₂ =>
    VariableAccess.same base₁ base₂ && field₁ == field₂
  | _, _ => false
/-- Equality of lists of expressions. -/
def Expression.sameList : List Expression → List Expression → Bool
  | [], [] => true
  | a :: as, b :: bs => Expression.same a b && Expression.sameList as bs
  | _, _ => false
/-- Equality of calls. -/
def FunctionDesignator.same : FunctionDesignator → FunctionDesignator → Bool
  | ⟨name₁, args₁⟩, ⟨name₂, args₂⟩ => name₁ == name₂ && ActualParameter.sameList args₁ args₂
/-- Equality of method calls. -/
def MethodDesignator.same : MethodDesignator → MethodDesignator → Bool
  | ⟨receiver₁, call₁⟩, ⟨receiver₂, call₂⟩ =>
    VariableAccess.same receiver₁ receiver₂ && FunctionDesignator.same call₁ call₂
/-- Equality of object creations. -/
def ObjectInstantiation.same : ObjectInstantiation → ObjectInstantiation → Bool
  | ⟨name₁, args₁⟩, ⟨name₂, args₂⟩ => name₁ == name₂ && ActualParameter.sameList args₁ args₂
/-- Equality of arguments. -/
def ActualParameter.same : ActualParameter → ActualParameter → Bool
  | ⟨value₁, width₁, precision₁⟩, ⟨value₂, width₂, precision₂⟩ =>
    Expression.same value₁ value₂ && Expression.sameOption width₁ width₂ &&
      Expression.sameOption precision₁ precision₂
/-- Equality of lists of arguments. -/
def ActualParameter.sameList : List ActualParameter → List ActualParameter → Bool
  | [], [] => true
  | a :: as, b :: bs => ActualParameter.same a b && ActualParameter.sameList as bs
  | _, _ => false
/-- Equality of expressions that may be missing. -/
def Expression.sameOption : Option Expression → Option Expression → Bool
  | none, none => true
  | some a, some b => Expression.same a b
  | _, _ => false
end

instance : BEq Expression := ⟨Expression.same⟩
instance : BEq Comparison := ⟨Comparison.same⟩
instance : BEq AdditiveExpression := ⟨AdditiveExpression.same⟩
instance : BEq MultiplicativeExpression := ⟨MultiplicativeExpression.same⟩
instance : BEq NegatableExpression := ⟨NegatableExpression.same⟩
instance : BEq PrimaryExpression := ⟨PrimaryExpression.same⟩
instance : BEq VariableAccess := ⟨VariableAccess.same⟩
instance : BEq FunctionDesignator := ⟨FunctionDesignator.same⟩
instance : BEq MethodDesignator := ⟨MethodDesignator.same⟩
instance : BEq ObjectInstantiation := ⟨ObjectInstantiation.same⟩
instance : BEq ActualParameter := ⟨ActualParameter.same⟩

end ScopeTable
