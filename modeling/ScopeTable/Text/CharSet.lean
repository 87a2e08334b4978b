/-
# ScopeTable.Text.CharSet -- sets of characters given by ranges of code points

Character properties of the Unicode standard are data: a property is a list of ascending, disjoint
ranges of code points, and membership is one pass over the list that stops at the first range which
begins beyond the character asked for.
-/

namespace ScopeTable.Text

/-- A set of characters: ascending, disjoint ranges of code points, both ends included. -/
abbrev CharSet := List (Nat × Nat)

namespace CharSet

/-- Whether a code point lies in one of the ranges. -/
def holds : CharSet → Nat → Bool
  | [], _ => false
  | (first, last) :: ranges, code =>
    if code < first then false else if code ≤ last then true else holds ranges code

/-- Whether a character lies in one of the ranges. -/
def contains (set : CharSet) (c : Char) : Bool :=
  set.holds c.toNat

end CharSet

end ScopeTable.Text
