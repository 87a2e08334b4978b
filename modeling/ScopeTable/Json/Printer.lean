/-
# ScopeTable.Json.Printer -- the written form of a JSON tree

Values are written without blanks. A string escapes what JSON demands and nothing else, so that every
other character stands for itself; a real is written with the fewest digits that read back and always
with a point or an exponent, and one that is no number is written as `null`.
-/
import ScopeTable.Decimal.Notation
import ScopeTable.Json.Document

namespace ScopeTable.Json

/-! ## §A Scalars -/

/-- A character as it stands in a written string. -/
def writtenChar (c : Char) : List Char :=
  match c with
  | '"' => ['\\', '"']
  | '\\' => ['\\', '\\']
  | '\x08' => ['\\', 'b']
  | '\t' => ['\\', 't']
  | '\n' => ['\\', 'n']
  | '\x0c' => ['\\', 'f']
  | '\r' => ['\\', 'r']
  | c =>
    if c < ' ' then ['\\', 'u', '0', '0', Nat.digitChar (c.toNat / 16), Nat.digitChar (c.toNat % 16)]
    else [c]

/-- The written form of a string. -/
def writtenString (s : String) : List Char := '"' :: s.toList.flatMap writtenChar ++ ['"']

/-- The written form of a number. -/
def Number.written : Number → List Char
  | .natural n => Decimal.digitsOf n.toNat
  | .negative n => '-' :: Decimal.digitsOf n.toInt.natAbs
  | .real x => if x.isFinite then Decimal.ofFloat x else ['n', 'u', 'l', 'l']

/-- The written form of a value without structure. -/
def Scalar.written : Scalar → List Char
  | .boolean true => ['t', 'r', 'u', 'e']
  | .boolean false => ['f', 'a', 'l', 's', 'e']
  | .number n => n.written

/-! ## §B Trees -/

mutual
/-- The written form of a tree. A literal whose value cannot be had is left out. -/
def written : Json → List Char
  | .absent _ => []
  | .nothing ⟨.ok (), _⟩ => ['n', 'u', 'l', 'l']
  | .nothing ⟨.error _, _⟩ => []
  | .scalar ⟨.ok value, _⟩ => value.written
  | .scalar ⟨.error _, _⟩ => []
  | .text ⟨.ok s, _⟩ => writtenString s
  | .text ⟨.error _, _⟩ => []
  | .array items _ => '[' :: writtenItems items ++ [']']
  | .object members _ => '\x7b' :: writtenMembers members ++ ['\x7d']
/-- The written form of the items of an array. -/
def writtenItems : List Json → List Char
  | [] => []
  | [item] => written item
  | item :: items => written item ++ ',' :: writtenItems items
/-- The written form of the members of an object. -/
def writtenMembers : List Member → List Char
  | [] => []
  | [.mk key value] => written key ++ ':' :: written value
  | .mk key value :: members => written key ++ ':' :: written value ++ ',' :: writtenMembers members
end

/-- The written form of a tree as a string. -/
def render (j : Json) : String := String.ofList j.written

end ScopeTable.Json
