/-
# ScopeTable.Language.Declaration -- types, members, classes and programs

A program is a list of classes, a class holds groups of fields and methods, and a method has groups of
parameters and locals and a body. Every group declares several names of one type. The names of a class or
method are listed here together with what they belong to, in the order of the text.
-/
import ScopeTable.Decimal.Integer
import ScopeTable.Language.Statement

namespace ScopeTable

/-! ## §A Types -/

mutual
/-- The type of a field, parameter, local or result. -/
inductive TypeDenoter where
  | integer
  | real
  | char
  | boolean
  | named (name : Ident)
  | array (type : ArrayType)
/-- An array type with both of its bounds. -/
structure ArrayType where
  min : Int64
  max : Int64
  element : TypeDenoter
end

mutual
/-- Equality of types: names are compared by their spelling. -/
def TypeDenoter.same : TypeDenoter → TypeDenoter → Bool
  | .integer, .integer => true
  | .real, .real => true
  | .char, .char => true
  | .boolean, .boolean => true
  | .named a, .named b => a == b
  | .array a, .array b => ArrayType.same a b
  | _, _ => false
/-- Equality of array types. -/
def ArrayType.same : ArrayType → ArrayType → Bool
  | ⟨min₁, max₁, element₁⟩, ⟨min₂, max₂, element₂⟩ =>
    min₁ == min₂ && max₁ == max₂ && TypeDenoter.same element₁ element₂
end

instance : BEq TypeDenoter := ⟨TypeDenoter.same⟩
instance : BEq ArrayType := ⟨ArrayType.same⟩

mutual
/-- A type as it is written in source text. -/
def TypeDenoter.text : TypeDenoter → String
  | .integer => "integer"
  | .real => "real"
  | .char => "char"
  | .boolean => "boolean"
  | .named name => name.spelling
  | .array type => ArrayType.text type
/-- An array type as it is written in source text. -/
def ArrayType.text : ArrayType → String
  | ⟨min, max, element⟩ =>
    "array[" ++ Decimal.integerText min.toInt ++ ".." ++ Decimal.integerText max.toInt ++ "] of " ++
      TypeDenoter.text element
end

mutual
/-- The pieces in which a type is written. -/
def TypeDenoter.pieces : TypeDenoter → List String
  | .integer => ["integer"]
  | .real => ["real"]
  | .char => ["char"]
  | .boolean => ["boolean"]
  | .named name => [name.spelling]
  | .array type => ArrayType.pieces type
/-- The pieces in which an array type is written. -/
def ArrayType.pieces : ArrayType → List String
  | ⟨min, max, element⟩ =>
    "array[" :: Decimal.integerPieces min.toInt ++ ".." :: Decimal.integerPieces max.toInt ++
      "] of " :: TypeDenoter.pieces element
end

mutual
/-- **join_pieces**: the pieces of a type are those of its text. -/
theorem TypeDenoter.join_pieces : ∀ type : TypeDenoter, String.join type.pieces = type.text
  | .integer => by simp [TypeDenoter.pieces, TypeDenoter.text]
  | .real => by simp [TypeDenoter.pieces, TypeDenoter.text]
  | .char => by simp [TypeDenoter.pieces, TypeDenoter.text]
  | .boolean => by simp [TypeDenoter.pieces, TypeDenoter.text]
  | .named name => by simp [TypeDenoter.pieces, TypeDenoter.text]
  | .array type => by
    rw [TypeDenoter.pieces, TypeDenoter.text]
    exact ArrayType.join_pieces type
theorem ArrayType.join_pieces : ∀ type : ArrayType, String.join type.pieces = type.text
  | ⟨min, max, element⟩ => by
    have helement := TypeDenoter.join_pieces element
    simp [ArrayType.pieces, ArrayType.text, Decimal.join_integerPieces, helement, String.append_assoc]
end

/-! ## §B Declarations -/

/-- A group of names declared with one type. -/
structure VarDecl where
  names : List Ident
  type : TypeDenoter

/-- The locals and statements of a method. -/
structure FunctionBlock where
  locals : List VarDecl
  body : List Statement

/-- A method. -/
structure FunctionDecl where
  name : Ident
  params : List VarDecl
  returnType : TypeDenoter
  block : FunctionBlock

/-- The members of a class. -/
structure ClassBlock where
  fields : List VarDecl
  methods : List FunctionDecl

/-- A class, with the parent it names. -/
structure ClassDecl where
  name : Ident
  parent : Option Ident
  block : ClassBlock

/-- A program. -/
structure Program where
  name : Ident
  classes : List ClassDecl

/-- A block without locals and statements. -/
def FunctionBlock.empty : FunctionBlock := ⟨[], []⟩

/-- A block without members. -/
def ClassBlock.empty : ClassBlock := ⟨[], []⟩

end ScopeTable
