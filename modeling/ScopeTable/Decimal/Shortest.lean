/-
# ScopeTable.Decimal.Shortest -- the fewest decimal digits that read back

A binary64 number stands for every real that rounds to it, an interval with its ends included when
the significand is even. Among the decimals `d * 10 ^ e` of that interval this module finds one with
the greatest `e`, which is one with the fewest digits, and of those the one nearest to the number.
Everything is computed on natural numbers: the interval is scaled by a power of two so that its ends
and its centre are whole.
-/

namespace ScopeTable

/-- A decimal `digits * 10 ^ exponent`. -/
structure Decimal where
  digits : Nat
  exponent : Int
  deriving DecidableEq, Repr

namespace Decimal

/-! ## §A The interval of a binary64 number -/

/-- The reals that round to a positive number, in quarters of its last binary place: from `low` to
`high` around `centre`, each times `2 ^ scale`. The ends belong to it when `closed`. -/
structure Interval where
  low : Nat
  centre : Nat
  high : Nat
  scale : Int
  closed : Bool
  deriving DecidableEq, Repr

/-- The interval of the positive number with the given fields of the binary64 format. Below a power of
two the neighbour is only half as far away. -/
def intervalOf (biased fraction : Nat) : Interval :=
  let significand := if biased = 0 then fraction else fraction + 0x10000000000000
  let place : Int := if biased = 0 then -1074 else biased - 1075
  { low := 4 * significand - (if fraction = 0 ∧ 1 < biased then 1 else 2)
    centre := 4 * significand
    high := 4 * significand + 2
    scale := place - 2
    closed := significand % 2 == 0 }

/-! ## §B Decimal grids -/

/-- The fraction `n * 2 ^ scale / 10 ^ exponent`, as numerator and denominator. -/
def onGrid (n : Nat) (scale exponent : Int) : Nat × Nat :=
  (n * Nat.pow 2 scale.toNat * Nat.pow 10 (-exponent).toNat,
    Nat.pow 2 (-scale).toNat * Nat.pow 10 exponent.toNat)

/-- Whether the point `d * 10 ^ exponent` lies in the interval. -/
def Interval.has (i : Interval) (exponent : Int) (d : Nat) : Bool :=
  let (low, unit) := onGrid i.low i.scale exponent
  let (high, _) := onGrid i.high i.scale exponent
  if i.closed then low ≤ d * unit && d * unit ≤ high else low < d * unit && d * unit < high

/-- The point of the grid with the given exponent that lies in the interval, if there is one: the nearer
of the two around the centre, and the even one of two at the same distance. -/
def Interval.nearest? (i : Interval) (exponent : Int) : Option Nat :=
  let (centre, unit) := onGrid i.centre i.scale exponent
  let below := centre / unit
  match i.has exponent below, i.has exponent (below + 1) with
  | true, false => some below
  | false, true => some (below + 1)
  | false, false => none
  | true, true =>
    let rest := 2 * (centre % unit)
    if rest < unit then some below
    else if unit < rest then some (below + 1)
    else some (if below % 2 = 0 then below else below + 1)

/-- The first grid with a point in the interval, going down from the given exponent. -/
def Interval.search (i : Interval) : Nat → Int → Decimal
  | 0, exponent => ⟨i.centre, exponent⟩
  | fuel + 1, exponent =>
    match i.nearest? exponent with
    | some d => ⟨d, exponent⟩
    | none => i.search fuel (exponent - 1)

/-- The exponent of the greatest power of ten below the greatest binary64 number, and above. -/
def greatestExponent : Int := 309

/-- How many decimal places there are from `greatestExponent` to the last place of the smallest
binary64 number. -/
def gridCount : Nat := 634

/-- The shortest decimal of a finite, non-zero number; its sign is left aside. -/
def shortest (x : Float) : Decimal :=
  let bits := x.toBits.toNat
  (intervalOf (bits / 0x10000000000000 % 0x800) (bits % 0x10000000000000)).search gridCount greatestExponent

end Decimal

end ScopeTable
