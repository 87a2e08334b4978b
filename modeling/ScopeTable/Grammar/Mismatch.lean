/-
# ScopeTable.Grammar.Mismatch -- why a value is not the node it should be

A text may be JSON and still not the tree of a program. Every way to miss the grammar is a constructor
here, and its wording stands in one place.
-/
import ScopeTable.Decimal.Notation
import ScopeTable.Json.Document
import ScopeTable.Language.Ident
import ScopeTable.Text.Quoted

namespace ScopeTable.Grammar

open ScopeTable.Json

/-- What stands in a place where something else is expected. -/
inductive Found where
  | null
  | boolean (b : Bool)
  | integer (n : Int)
  | real (x : Float)
  | text (s : String)
  | sequence
  | map
  | unitVariant

/-- A value without structure, as something found. -/
def Found.ofScalar : Scalar → Found
  | .boolean b => .boolean b
  | .number (.natural n) => .integer n.toNat
  | .number (.negative n) => .integer n.toInt
  | .number (.real x) => .real x

/-- The words for what is found. -/
def Found.words : Found → String
  | .null => "null"
  | .boolean b => "boolean `" ++ (if b then "true" else "false") ++ "`"
  | .integer n => "integer `" ++ Decimal.integerText n ++ "`"
  | .real x => "floating point `" ++ String.ofList (Decimal.ofFloat x) ++ "`"
  | .text s => "string " ++ Text.quoted s
  | .sequence => "sequence"
  | .map => "map"
  | .unitVariant => "unit variant"

/-- The ways to miss the grammar. -/
inductive Mismatch where
  /-- Something of the wrong kind. -/
  | invalidType (found : Found) (expected : String)
  /-- Something of the right kind, but outside its range. -/
  | invalidValue (found : Found) (expected : String)
  /-- An array that ends before a part which must be there; `count` parts stand before that one. -/
  | invalidLength (count : Nat) (expected : String)
  /-- An object without a member which must be there. -/
  | missingField (name : String)
  /-- A member given twice. -/
  | duplicateField (name : String)
  /-- A name which is none of the alternatives. -/
  | unknownVariant (name : String) (known : List String)
  /-- A span that runs backwards. -/
  | reversedSpan (span : Span)

/-- A name between backticks. -/
def ticked (name : String) : String := "`" ++ name ++ "`"

/-- The words for a choice between names. -/
def choiceWords : List String → String
  | [] => "there are no variants"
  | [a] => ticked a
  | [a, b] => ticked a ++ " or " ++ ticked b
  | names => "one of " ++ String.intercalate ", " (names.map ticked)

/-- The text of a mismatch. -/
def Mismatch.message : Mismatch → String
  | invalidType found expected => "invalid type: " ++ found.words ++ ", expected " ++ expected
  | invalidValue found expected => "invalid value: " ++ found.words ++ ", expected " ++ expected
  | invalidLength count expected =>
    "invalid length " ++ Decimal.integerText count ++ ", expected " ++ expected
  | missingField name => "missing field " ++ ticked name
  | duplicateField name => "duplicate field " ++ ticked name
  | unknownVariant name known =>
    "unknown variant " ++ ticked name ++ ", expected " ++ choiceWords known
  | reversedSpan span =>
    "span [" ++ Decimal.integerText span.start.toNat ++ ", " ++ Decimal.integerText span.stop.toNat ++
      ") ends before it starts"

/-- Why a text cannot be read as a node: it is no JSON, or it is not that node. -/
inductive DecodeError where
  | text (fault : Fault)
  | data (mismatch : Mismatch)

end ScopeTable.Grammar
