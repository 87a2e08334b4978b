/-
# ScopeTable.Grammar.Shape -- the shapes of nodes in a tree of JSON

A node is a record of named fields or a choice between named variants; a field or payload has a shape, and
a shape is a leaf, a list, a pair or again a node. Every shape names the type of the values it stands for,
so that a description of a node is at the same time the type of what is read by it.
-/
import ScopeTable.Grammar.Mismatch
import ScopeTable.Language.Declaration

namespace ScopeTable.Grammar

/-! ## §A Kinds of nodes -/

/-- The kinds of nodes, in the order of the language. The last three are the bodies of variants with
fields of their own. -/
inductive Kind where
  | ident
  | span
  | program
  | classDecl
  | classBlock
  | varDecl
  | typeDenoter
  | arrayType
  | functionDecl
  | functionBlock
  | statement
  | assignment
  | conditional
  | print
  | loop
  | expression
  | comparison
  | relOp
  | additiveExpression
  | addOp
  | multiplicativeExpression
  | mulOp
  | negatableExpression
  | sign
  | primaryExpression
  | literal
  | variableAccess
  | functionDesignator
  | methodDesignator
  | objectInstantiation
  | actualParameter
  | signedBody
  | indexedBody
  | attributeBody
  deriving DecidableEq, Repr

namespace Kind

/-- The nodes of a kind. -/
def Node : Kind → Type
  | ident => Ident
  | span => Span
  | program => Program
  | classDecl => ClassDecl
  | classBlock => ClassBlock
  | varDecl => VarDecl
  | typeDenoter => TypeDenoter
  | arrayType => ArrayType
  | functionDecl => FunctionDecl
  | functionBlock => FunctionBlock
  | statement => Statement
  | assignment => Assignment
  | conditional => If
  | print => Print
  | loop => While
  | expression => Expression
  | comparison => Comparison
  | relOp => RelOp
  | additiveExpression => AdditiveExpression
  | addOp => AddOp
  | multiplicativeExpression => MultiplicativeExpression
  | mulOp => MulOp
  | negatableExpression => NegatableExpression
  | sign => Sign
  | primaryExpression => PrimaryExpression
  | literal => Literal
  | variableAccess => VariableAccess
  | functionDesignator => FunctionDesignator
  | methodDesignator => MethodDesignator
  | objectInstantiation => ObjectInstantiation
  | actualParameter => ActualParameter
  | signedBody => Sign × NegatableExpression
  | indexedBody => VariableAccess × List Expression
  | attributeBody => VariableAccess × Ident

/-- The name of a kind in the grammar. A body is named after its variant. -/
def title : Kind → String
  | ident => "Ident"
  | span => "Span"
  | program => "Program"
  | classDecl => "ClassDecl"
  | classBlock => "ClassBlock"
  | varDecl => "VarDecl"
  | typeDenoter => "TypeDenoter"
  | arrayType => "ArrayType"
  | functionDecl => "FunctionDecl"
  | functionBlock => "FunctionBlock"
  | statement => "Statement"
  | assignment => "Assignment"
  | conditional => "If"
  | print => "Print"
  | loop => "While"
  | expression => "Expression"
  | comparison => "Comparison"
  | relOp => "RelOp"
  | additiveExpression => "AdditiveExpression"
  | addOp => "AddOp"
  | multiplicativeExpression => "MultiplicativeExpression"
  | mulOp => "MulOp"
  | negatableExpression => "NegatableExpression"
  | sign => "Sign"
  | primaryExpression => "PrimaryExpression"
  | literal => "Literal"
  | variableAccess => "VariableAccess"
  | functionDesignator => "FunctionDesignator"
  | methodDesignator => "MethodDesignator"
  | objectInstantiation => "ObjectInstantiation"
  | actualParameter => "ActualParameter"
  | signedBody => "NegatableExpression::Sign"
  | indexedBody => "VariableAccess::Indexed"
  | attributeBody => "VariableAccess::Attribute"

/-- Whether nodes of this kind are the bodies of a variant. -/
def isBody : Kind → Bool
  | signedBody => true
  | indexedBody => true
  | attributeBody => true
  | _ => false

/-- The words for a record of this kind. -/
def recordWords (k : Kind) : String :=
  (if k.isBody then "struct variant " else "struct ") ++ k.title

end Kind

/-! ## §B Shapes and their values -/

/-- The shape of a value. `line` is a 64-bit word and `offset` a 32-bit word without sign. -/
inductive Shape where
  | text
  | line
  | offset
  | integer
  | real
  | character
  | boolean
  | list (item : Shape)
  | pair (first second : Shape)
  | node (kind : Kind)
  deriving DecidableEq, Repr

namespace Shape

/-- The values of a shape. -/
def Value : Shape → Type
  | text => String
  | line => UInt64
  | offset => UInt32
  | integer => Int64
  | real => Float
  | character => Char
  | boolean => Bool
  | list item => List item.Value
  | pair first second => first.Value × second.Value
  | node kind => kind.Node

/-- The words for a leaf or sequence of this shape. A node has words of its own. -/
def words : Shape → String
  | text => "a string"
  | line => "usize"
  | offset => "u32"
  | integer => "i64"
  | real => "f64"
  | character => "a character"
  | boolean => "a boolean"
  | list _ => "a sequence"
  | pair _ _ => "a tuple of size 2"
  | node kind => kind.recordWords

/-- The words for a variant with a payload of this shape. -/
def variantWords : Shape → String
  | node kind => if kind.isBody then "struct variant" else "newtype variant"
  | _ => "newtype variant"

end Shape

/-! ## §C Fields and variants -/

/-- A field of a record. One that is `nullable` may be missing or null; one that is `defaulted` may be
missing, and then has the given value. -/
inductive Field where
  | required (name : String) (shape : Shape)
  | nullable (name : String) (shape : Shape)
  | defaulted (name : String) (shape : Shape) (value : shape.Value)

namespace Field

/-- The name of a field. -/
def name : Field → String
  | required name _ => name
  | nullable name _ => name
  | defaulted name _ _ => name

/-- The values of a field. -/
def Value : Field → Type
  | required _ shape => shape.Value
  | nullable _ shape => Option shape.Value
  | defaulted _ shape _ => shape.Value

/-- The value of a field that is missing, if it may be. -/
def absent? : (f : Field) → Option f.Value
  | required _ _ => none
  | nullable _ _ => some none
  | defaulted _ _ value => some value

end Field

/-- The values of a record: one for each field, in the order of declaration. -/
def Values : List Field → Type
  | [] => Unit
  | f :: fs => f.Value × Values fs

/-- The values of a record found so far. -/
def Slots : List Field → Type
  | [] => Unit
  | f :: fs => Option f.Value × Slots fs

/-- A variant of a choice: a name that says all, or a name with a payload. -/
inductive Variant (α : Type) where
  | plain (name : String) (value : α)
  | holding (name : String) (shape : Shape) (make : shape.Value → α)

/-- The name of a variant. -/
def Variant.name {α : Type} : Variant α → String
  | plain name _ => name
  | holding name _ _ => name

/-- How nodes are laid out: as a record, which may refuse the values of its fields, or as a choice. -/
inductive Layout (α : Type) where
  | record (fields : List Field) (make : Values fields → Except Mismatch α)
  | choice (variants : List (Variant α))

end ScopeTable.Grammar
