/-
# ScopeTable.Decimal.Notation -- the text of a binary64 number

A finite number is written with the fewest digits that read back. Numbers of moderate size are written
positionally, with at least one digit on either side of the point; the others with one digit before the
point and an exponent whose sign is always written.
-/
import ScopeTable.Decimal.Integer
import ScopeTable.Decimal.Shortest

namespace ScopeTable.Decimal

/-- Where positional writing ends: the exponents of the first digit for which it is used. -/
structure Notation where
  lowest : Int
  highest : Int

/-- Positional from `0.00001` up to numbers of sixteen digits before the point. -/
def plain : Notation := ⟨-5, 15⟩

/-- An exponent after its letter: the sign, then the digits. -/
def exponentText (e : Int) : List Char :=
  (if e < 0 then '-' else '+') :: digitsOf e.natAbs

/-- The text of a decimal with at least one digit that is not zero. -/
def Notation.text (style : Notation) (d : Decimal) : List Char :=
  let digits := digitsOf d.digits
  let first : Int := d.exponent + digits.length - 1
  if style.lowest ≤ first ∧ first ≤ style.highest then
    if 0 ≤ d.exponent then
      digits ++ List.replicate d.exponent.toNat '0' ++ ['.', '0']
    else if 0 ≤ first then
      digits.take (first.toNat + 1) ++ '.' :: digits.drop (first.toNat + 1)
    else
      ['0', '.'] ++ List.replicate (-first - 1).toNat '0' ++ digits
  else
    digits.take 1 ++ (if digits.length = 1 then [] else '.' :: digits.drop 1) ++
      'e' :: exponentText first

/-- The text of a number that is neither infinite nor undefined. -/
def ofFloat (x : Float) : List Char :=
  (if x.toBits < 0x8000000000000000 then [] else ['-']) ++
    (if x == 0 then ['0', '.', '0'] else plain.text (shortest x))

end ScopeTable.Decimal
