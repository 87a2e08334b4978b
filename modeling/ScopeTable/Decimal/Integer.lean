/-
# ScopeTable.Decimal.Integer -- whole numbers in decimal

The digits of a number without leading zeros, and a minus before those of a negative one.
-/

namespace ScopeTable.Decimal

/-- The decimal digits of a number. -/
def digitsOf (n : Nat) : List Char := Nat.toDigits 10 n

/-- A whole number in decimal. -/
def integerText (n : Int) : String :=
  String.ofList ((if n < 0 then ['-'] else []) ++ digitsOf n.natAbs)

/-- The pieces in which a whole number is written: its sign, if it has one, and its digits. -/
def integerPieces (n : Int) : List String :=
  (if n < 0 then ["-"] else []) ++ [String.ofList (digitsOf n.natAbs)]

theorem join_integerPieces (n : Int) : String.join (integerPieces n) = integerText n := by
  rw [integerPieces, integerText]
  split <;> simp

end ScopeTable.Decimal
