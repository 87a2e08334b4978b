/-
# ScopeTable.Json.Numeral -- the spelling of a number and its value

A numeral is split into its digits first; only then is it given a value. Without fraction and exponent
it is a whole number, as long as it fits into 64 bits. Everything else is a binary64 number, and it is
the quick approximation that is kept, not the nearest number: as many leading digits as fit into 64
bits, multiplied or divided by a power of ten.
-/
import ScopeTable.Json.Fault

namespace ScopeTable.Json

/-! ## §A Spelling -/

/-- An exponent: whether a minus stands before it, and its digits. -/
structure Exponent where
  negative : Bool
  digits : List Char
  deriving DecidableEq, Repr

/-- A number as it is spelled. -/
structure Numeral where
  negative : Bool
  whole : List Char
  fraction : Option (List Char)
  exponent : Option Exponent
  deriving DecidableEq, Repr

/-- The digits at the beginning of a text, and the rest of it. At least one is asked for. -/
def scanDigits (cs : List Char) : Except Fault (List Char × List Char) :=
  match cs.takeWhile Char.isDigit with
  | [] => .error (if cs = [] then .truncated else .malformed)
  | d :: ds => .ok (d :: ds, cs.dropWhile Char.isDigit)

/-- The digits before the point: a zero stands alone. -/
def scanWhole (cs : List Char) : Except Fault (List Char × List Char) := do
  let (digits, rest) ← scanDigits cs
  if digits.head? = some '0' ∧ digits.length ≠ 1 then .error .malformed else .ok (digits, rest)

/-- The fraction, if a point stands first. -/
def scanFraction : List Char → Except Fault (Option (List Char) × List Char)
  | '.' :: rest => do
    let (digits, rest) ← scanDigits rest
    .ok (some digits, rest)
  | rest => .ok (none, rest)

/-- An optional sign, and whether it is a minus. -/
def scanSign : List Char → Bool × List Char
  | '-' :: rest => (true, rest)
  | '+' :: rest => (false, rest)
  | rest => (false, rest)

/-- The exponent, if its letter stands first. -/
def scanExponent (cs : List Char) : Except Fault (Option Exponent × List Char) :=
  match cs with
  | [] => .ok (none, [])
  | c :: rest =>
    if c = 'e' ∨ c = 'E' then do
      let (negative, rest) := scanSign rest
      let (digits, rest) ← scanDigits rest
      .ok (some ⟨negative, digits⟩, rest)
    else .ok (none, cs)

/-- Whether a minus stands first, and what follows it. -/
def scanMinus : List Char → Bool × List Char
  | '-' :: rest => (true, rest)
  | rest => (false, rest)

/-- The numeral at the beginning of a text that starts with a digit or a minus. -/
def Numeral.scan (cs : List Char) : Except Fault (Numeral × List Char) := do
  let (negative, rest) := scanMinus cs
  let (whole, rest) ← scanWhole rest
  let (fraction, rest) ← scanFraction rest
  let (exponent, rest) ← scanExponent rest
  .ok (⟨negative, whole, fraction, exponent⟩, rest)

/-! ## §B A numeral takes at least one character -/

/-- **scanDigits_append**: digits and rest make up the text, and there is a digit. -/
theorem scanDigits_append {cs digits rest : List Char} (h : scanDigits cs = .ok (digits, rest)) :
    digits ++ rest = cs ∧ digits ≠ [] := by
  unfold scanDigits at h
  have happ := List.takeWhile_append_dropWhile (p := Char.isDigit) (l := cs)
  split at h
  · cases h
  · next heq =>
    cases h
    exact ⟨by rw [← heq, happ], List.cons_ne_nil _ _⟩

theorem scanDigits_length {cs digits rest : List Char} (h : scanDigits cs = .ok (digits, rest)) :
    rest.length < cs.length := by
  obtain ⟨rfl, hne⟩ := scanDigits_append h
  rw [List.length_append]
  have := List.length_pos_iff.mpr hne
  omega

theorem scanWhole_length {cs digits rest : List Char} (h : scanWhole cs = .ok (digits, rest)) :
    rest.length < cs.length := by
  unfold scanWhole at h
  obtain ⟨found, hfound, h⟩ := bind_eq_ok_iff.mp h
  dsimp only at h
  split at h
  · cases h
  · cases h
    exact scanDigits_length hfound

theorem scanFraction_length {cs rest : List Char} {fraction : Option (List Char)}
    (h : scanFraction cs = .ok (fraction, rest)) : rest.length ≤ cs.length := by
  unfold scanFraction at h
  split at h
  · next tail =>
    obtain ⟨found, hfound, h⟩ := bind_eq_ok_iff.mp h
    cases h
    have := scanDigits_length hfound
    simp only [List.length_cons]
    omega
  · cases h
    exact Nat.le_refl _

theorem scanSign_length (cs : List Char) : (scanSign cs).2.length ≤ cs.length := by
  unfold scanSign
  split <;> simp

theorem scanExponent_length {cs rest : List Char} {exponent : Option Exponent}
    (h : scanExponent cs = .ok (exponent, rest)) : rest.length ≤ cs.length := by
  unfold scanExponent at h
  split at h
  · cases h
    exact Nat.le_refl _
  · next c tail =>
    split at h
    · obtain ⟨found, hfound, h⟩ := bind_eq_ok_iff.mp h
      cases h
      have : _ < (scanSign tail).2.length := scanDigits_length hfound
      have := scanSign_length tail
      simp only [List.length_cons]
      omega
    · cases h
      exact Nat.le_refl _

theorem scanMinus_length (cs : List Char) : (scanMinus cs).2.length ≤ cs.length := by
  unfold scanMinus
  split <;> simp

/-- **Numeral.scan_length**: a numeral takes at least one character. -/
theorem Numeral.scan_length {cs rest : List Char} {numeral : Numeral}
    (h : Numeral.scan cs = .ok (numeral, rest)) : rest.length < cs.length := by
  unfold Numeral.scan at h
  obtain ⟨whole, hwhole, h⟩ := bind_eq_ok_iff.mp h
  obtain ⟨fraction, hfraction, h⟩ := bind_eq_ok_iff.mp h
  obtain ⟨exponent, hexponent, h⟩ := bind_eq_ok_iff.mp h
  cases h
  have := scanMinus_length cs
  have : _ < (scanMinus cs).2.length := scanWhole_length hwhole
  have := scanFraction_length hfraction
  have := scanExponent_length hexponent
  omega

/-! ## §C Value -/

/-- The value of a numeral. -/
inductive Number where
  | natural (n : UInt64)
  | negative (n : Int64)
  | real (x : Float)

/-- A number as a binary64 number. -/
def Number.toFloat : Number → Float
  | natural n => n.toFloat
  | negative n => n.toFloat
  | real x => x

/-- The value of a digit. -/
def digitValue (c : Char) : Nat := c.toNat - '0'.toNat

/-- Appends digits to a number as long as the result is at most `limit`, and tells how many were left. -/
def appendDigits (limit : Nat) : Nat → List Char → Nat × List Char
  | n, [] => (n, [])
  | n, c :: cs =>
    if n * 10 + digitValue c ≤ limit then appendDigits limit (n * 10 + digitValue c) cs else (n, c :: cs)

/-- The greatest whole number that is kept exactly. -/
def greatestNatural : Nat := UInt64.size - 1

/-- The greatest exponent that is counted exactly. -/
def greatestExponent : Nat := 0x7FFFFFFF

/-- An exponent kept within the 32 bits of a signed word. -/
def clampExponent (e : Int) : Int := max (-greatestExponent - 1) (min greatestExponent e)

/-- A power of ten up to `10 ^ 308`, the nearest binary64 number to it. -/
def powerOfTen (n : Nat) : Float := Float.ofScientific 1 false n

/-- Multiplies by a power of ten; the product may be infinite. Beyond `10 ^ 308` a positive exponent is out
of range, unless the number is zero, and a negative one is applied in steps. -/
def scale (x : Float) (e : Int) : Except Fault Float :=
  if 308 < e then
    if x == 0 then .ok x else .error .malformed
  else if 0 ≤ e then .ok (x * powerOfTen e.toNat)
  else if -308 ≤ e then .ok (x / powerOfTen (-e).toNat)
  else if x == 0 then .ok x
  else scale (x / powerOfTen 308) (e + 308)
termination_by e.natAbs
decreasing_by omega

/-- The exponent that a numeral states, together with the one its digits left behind. An exponent too
large to count is out of range when positive, unless all digits are zero, and makes zero when not. -/
def scaleBy (significand : Nat) (shift : Int) : Option Exponent → Except Fault Float
  | none => scale (UInt64.ofNat significand).toFloat shift
  | some e =>
    match appendDigits greatestExponent 0 e.digits with
    | (n, []) =>
      let stated : Int := if e.negative then -(n : Int) else n
      scale (UInt64.ofNat significand).toFloat (clampExponent (shift + stated))
    | (_, _ :: _) => if significand ≠ 0 ∧ ¬e.negative then .error .malformed else .ok 0

/-- A real as the value of a numeral: an infinite one is out of range. -/
def inRange (x : Float) : Except Fault Float := if x.isFinite then .ok x else .error .malformed

/-- The value of a numeral as a binary64 number. -/
def Numeral.real (m : Numeral) : Except Fault Float := do
  let (whole, extra) := appendDigits greatestNatural 0 m.whole
  let (significand, left) := appendDigits greatestNatural whole (m.fraction.getD [])
  let used := (m.fraction.getD []).length - left.length
  let x ← scaleBy significand ((extra.length : Int) - used) m.exponent
  inRange (if m.negative then -x else x)

/-- The value of a numeral. -/
def Numeral.value (m : Numeral) : Except Fault Number :=
  match m.fraction, m.exponent, appendDigits greatestNatural 0 m.whole with
  | none, none, (n, []) =>
    if ¬m.negative then .ok (.natural (.ofNat n))
    else if n ≠ 0 ∧ n ≤ 0x8000000000000000 then .ok (.negative (.ofInt (-n)))
    else (inRange (-(UInt64.ofNat n).toFloat)).map .real
  | _, _, _ => m.real.map .real

end ScopeTable.Json
