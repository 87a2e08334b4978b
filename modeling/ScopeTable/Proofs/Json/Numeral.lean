/-
# ScopeTable.Proofs.Json.Numeral -- how numbers are scanned, and which are read back

A numeral is scanned as far as it goes, so what stands behind it matters: `EndsNumeral` says that the rest
of a text cannot continue a number. The scanner and the grammar of numerals agree part by part: what it takes
is spelled by the text it has passed (`Numeral.scan_sound`), and a text that spells a numeral is taken as a
whole, if the rest does not continue it (`Numeral.scan_complete`).

`Number.ReadsBack` is the round trip of one number. It is proved here for all whole numbers. For reals it
is a property of the number and no theorem: the reader computes with one rounding too many, so there are
finite reals whose text is read as a neighbour.
-/
import Mathlib.Data.List.TakeWhile
import ScopeTable.Json.Printer
import ScopeTable.Proofs.Json.Spelling

namespace ScopeTable.Json

/-! ## §A Texts that do not continue a number -/

/-- The text does not begin with a digit. -/
def EndsDigits (rest : List Char) : Prop := ∀ c ∈ rest.head?, c.isDigit = false

/-- The text does not begin with a character that could belong to a number. -/
def EndsNumeral (rest : List Char) : Prop :=
  ∀ c ∈ rest.head?, c.isDigit = false ∧ c ≠ '.' ∧ c ≠ 'e' ∧ c ≠ 'E'

theorem endsNumeral_nil : EndsNumeral [] := by
  intro c hc
  cases hc

theorem endsNumeral_cons {c : Char} (rest : List Char)
    (h : c.isDigit = false ∧ c ≠ '.' ∧ c ≠ 'e' ∧ c ≠ 'E') : EndsNumeral (c :: rest) := by
  intro d hd
  cases hd
  exact h

variable {cs ds rest : List Char}

theorem EndsNumeral.endsDigits (h : EndsNumeral rest) : EndsDigits rest := fun c hc => (h c hc).1

theorem Digits.head {d : Char} (h : Digits (d :: ds)) : d.isDigit = true := h.2 d List.mem_cons_self

/-- A fraction or nothing continues no digits. -/
theorem FractionSpelling.endsDigits {fraction : Option (List Char)} {front : List Char}
    (h : FractionSpelling fraction front) (hrest : EndsDigits rest) : EndsDigits (front ++ rest) := by
  cases h with
  | none => exact hrest
  | some _ =>
    intro c hc
    cases hc
    rfl

/-- An exponent or nothing continues neither digits nor a fraction. -/
theorem ExponentSpelling.ends {exponent : Option Exponent} {front : List Char}
    (h : ExponentSpelling exponent front) (hrest : EndsNumeral rest) :
    EndsDigits (front ++ rest) ∧ ∀ c ∈ (front ++ rest).head?, c ≠ '.' := by
  cases h with
  | none => exact ⟨hrest.endsDigits, fun c hc => (hrest c hc).2.1⟩
  | some hletter _ _ =>
    constructor
    · intro c hc
      cases hc
      rcases hletter with rfl | rfl <;> rfl
    · intro c hc
      cases hc
      rcases hletter with rfl | rfl <;> decide

/-! ## §B The parts of a numeral -/

/-- **scanDigits_eq_ok_iff**: the digits that are scanned are all that stand at the beginning. -/
theorem scanDigits_eq_ok_iff :
    scanDigits cs = .ok (ds, rest) ↔ Digits ds ∧ cs = ds ++ rest ∧ EndsDigits rest := by
  constructor
  · intro h
    obtain ⟨happ, hne⟩ := scanDigits_append h
    rw [scanDigits] at h
    split at h
    · cases h
    · next heq =>
      cases h
      refine ⟨⟨hne, ?_⟩, happ.symm, ?_⟩
      · rw [← heq]
        intro d hd
        exact List.mem_takeWhile_imp hd
      · intro c hc
        have hhead := List.head?_dropWhile_not Char.isDigit cs
        rw [show (cs.dropWhile Char.isDigit).head? = some c from hc] at hhead
        exact hhead
  · rintro ⟨⟨hne, hdigits⟩, rfl, hrest⟩
    have hstop : rest.takeWhile Char.isDigit = [] ∧ rest.dropWhile Char.isDigit = rest := by
      cases rest with
      | nil => exact ⟨rfl, rfl⟩
      | cons c rest => simp [hrest c rfl]
    rw [scanDigits, List.takeWhile_append_of_pos hdigits, List.dropWhile_append_of_pos hdigits, hstop.1,
      hstop.2, List.append_nil]
    cases ds with
    | nil => exact absurd rfl hne
    | cons d ds => rfl

theorem scanWhole_eq_ok_iff :
    scanWhole cs = .ok (ds, rest) ↔ WholeDigits ds ∧ cs = ds ++ rest ∧ EndsDigits rest := by
  rw [scanWhole, bind_eq_ok_iff]
  constructor
  · rintro ⟨⟨digits, tail⟩, hscan, h⟩
    obtain ⟨hdigits, rfl, hrest⟩ := scanDigits_eq_ok_iff.mp hscan
    dsimp only at h
    split at h
    · cases h
    · next hlead =>
      cases h
      exact ⟨⟨hdigits, hlead⟩, rfl, hrest⟩
  · rintro ⟨⟨hdigits, hlead⟩, rfl, hrest⟩
    exact ⟨_, scanDigits_eq_ok_iff.mpr ⟨hdigits, rfl, hrest⟩, if_neg hlead⟩

theorem scanFraction_sound {fraction : Option (List Char)} (h : scanFraction cs = .ok (fraction, rest)) :
    ∃ front, FractionSpelling fraction front ∧ cs = front ++ rest := by
  rw [scanFraction.eq_def] at h
  split at h
  · next tail =>
    obtain ⟨⟨digits, tail'⟩, hscan, h⟩ := bind_eq_ok_iff.mp h
    cases h
    obtain ⟨hdigits, rfl, -⟩ := scanDigits_eq_ok_iff.mp hscan
    exact ⟨_, .some hdigits, rfl⟩
  · cases h
    exact ⟨[], .none, rfl⟩

theorem scanFraction_complete {fraction : Option (List Char)} {front : List Char}
    (h : FractionSpelling fraction front) (hdigits : EndsDigits rest) (hpoint : ∀ c ∈ rest.head?, c ≠ '.') :
    scanFraction (front ++ rest) = .ok (fraction, rest) := by
  cases h with
  | none =>
    rw [List.nil_append, scanFraction]
    rintro tail rfl
    exact hpoint '.' rfl rfl
  | some hds =>
    rw [List.cons_append, scanFraction, scanDigits_eq_ok_iff.mpr ⟨hds, rfl, hdigits⟩]
    rfl

theorem scanSign_sound (cs : List Char) :
    ∃ sign, SignSpelling (scanSign cs).1 sign ∧ cs = sign ++ (scanSign cs).2 := by
  rw [scanSign.eq_def]
  split
  · exact ⟨_, .minus, rfl⟩
  · exact ⟨_, .plus, rfl⟩
  · exact ⟨_, .none, rfl⟩

theorem scanSign_complete {negative : Bool} {sign : List Char} (h : SignSpelling negative sign)
    (hds : Digits ds) (rest : List Char) : scanSign (sign ++ (ds ++ rest)) = (negative, ds ++ rest) := by
  cases h with
  | minus => rfl
  | plus => rfl
  | none =>
    cases ds with
    | nil => exact absurd rfl hds.1
    | cons d ds =>
      have hminus : d ≠ '-' := by
        rintro rfl
        exact absurd hds.head (by decide)
      have hplus : d ≠ '+' := by
        rintro rfl
        exact absurd hds.head (by decide)
      simp [scanSign, hminus, hplus]

theorem scanExponent_sound {exponent : Option Exponent} (h : scanExponent cs = .ok (exponent, rest)) :
    ∃ front, ExponentSpelling exponent front ∧ cs = front ++ rest := by
  rw [scanExponent.eq_def] at h
  split at h
  · cases h
    exact ⟨[], .none, rfl⟩
  · next c tail =>
    split at h
    · next hletter =>
      obtain ⟨⟨digits, tail'⟩, hscan, h⟩ := bind_eq_ok_iff.mp h
      cases h
      obtain ⟨sign, hsign, htail⟩ := scanSign_sound tail
      obtain ⟨hdigits, hrest, -⟩ := scanDigits_eq_ok_iff.mp hscan
      refine ⟨_, .some hletter hsign hdigits, ?_⟩
      rw [List.cons_append, List.append_assoc, ← hrest]
      exact congrArg _ htail
    · cases h
      exact ⟨[], .none, rfl⟩

theorem scanExponent_complete {exponent : Option Exponent} {front : List Char}
    (h : ExponentSpelling exponent front) (hrest : EndsNumeral rest) :
    scanExponent (front ++ rest) = .ok (exponent, rest) := by
  cases h with
  | none =>
    cases rest with
    | nil => rfl
    | cons c rest =>
      have hletter : ¬(c = 'e' ∨ c = 'E') := by
        rintro (he | he)
        · exact (hrest c rfl).2.2.1 he
        · exact (hrest c rfl).2.2.2 he
      exact if_neg hletter
  | some hletter hsign hds =>
    rw [List.cons_append, List.append_assoc, scanExponent, if_pos hletter, scanSign_complete hsign hds]
    show scanDigits _ >>= _ = _
    rw [scanDigits_eq_ok_iff.mpr ⟨hds, rfl, hrest.endsDigits⟩]
    rfl

theorem scanMinus_sound (cs : List Char) : cs = minusOf (scanMinus cs).1 ++ (scanMinus cs).2 := by
  rw [scanMinus.eq_def]
  split <;> rfl

theorem scanMinus_complete (negative : Bool) (hds : Digits ds) (rest : List Char) :
    scanMinus (minusOf negative ++ (ds ++ rest)) = (negative, ds ++ rest) := by
  cases negative with
  | true => rfl
  | false =>
    cases ds with
    | nil => exact absurd rfl hds.1
    | cons d ds =>
      have hminus : d ≠ '-' := by
        rintro rfl
        exact absurd hds.head (by decide)
      simp [scanMinus, minusOf, hminus]

/-! ## §C Numerals -/

namespace Numeral

variable {m : Numeral} {n : Number}

/-- The parts of a numeral, one after the other. -/
theorem scan_eq_ok_iff :
    scan cs = .ok (m, rest) ↔
      ∃ whole tail fraction tail' exponent,
        scanWhole (scanMinus cs).2 = .ok (whole, tail) ∧ scanFraction tail = .ok (fraction, tail') ∧
          scanExponent tail' = .ok (exponent, rest) ∧
            m = ⟨(scanMinus cs).1, whole, fraction, exponent⟩ := by
  rw [scan]
  constructor
  · intro h
    obtain ⟨⟨whole, tail⟩, hwhole, h⟩ := bind_eq_ok_iff.mp h
    obtain ⟨⟨fraction, tail'⟩, hfraction, h⟩ := bind_eq_ok_iff.mp h
    obtain ⟨⟨exponent, tail''⟩, hexponent, h⟩ := bind_eq_ok_iff.mp h
    cases h
    exact ⟨whole, tail, fraction, tail', exponent, hwhole, hfraction, hexponent, rfl⟩
  · rintro ⟨whole, tail, fraction, tail', exponent, hwhole, hfraction, hexponent, rfl⟩
    exact bind_eq_ok_iff.mpr ⟨_, hwhole,
      bind_eq_ok_iff.mpr ⟨_, hfraction, bind_eq_ok_iff.mpr ⟨_, hexponent, rfl⟩⟩⟩

/-- **scan_sound**: the text that is passed spells the numeral that is scanned. -/
theorem scan_sound (h : scan cs = .ok (m, rest)) : ∃ front, m.SpelledBy front ∧ cs = front ++ rest := by
  obtain ⟨whole, tail, fraction, tail', exponent, hwhole, hfraction, hexponent, rfl⟩ :=
    scan_eq_ok_iff.mp h
  obtain ⟨hdigits, hcs, -⟩ := scanWhole_eq_ok_iff.mp hwhole
  obtain ⟨fractionText, hf, rfl⟩ := scanFraction_sound hfraction
  obtain ⟨exponentText, he, rfl⟩ := scanExponent_sound hexponent
  refine ⟨_, .mk hdigits hf he, ?_⟩
  calc cs = minusOf (scanMinus cs).1 ++ (scanMinus cs).2 := scanMinus_sound cs
    _ = minusOf (scanMinus cs).1 ++ (whole ++ (fractionText ++ exponentText)) ++ rest := by
      rw [hcs]
      simp only [List.append_assoc]

/-- **scan_complete**: a text that spells a numeral is scanned as a whole in front of a rest that does not
continue it. -/
theorem scan_complete {front : List Char} (h : m.SpelledBy front) (hrest : EndsNumeral rest) :
    scan (front ++ rest) = .ok (m, rest) := by
  cases h with
  | @mk negative whole fractionText exponentText fraction exponent hwhole hfraction hexponent =>
    obtain ⟨hdigits, hpoint⟩ := hexponent.ends hrest
    have hminus := scanMinus_complete negative hwhole.1 (fractionText ++ (exponentText ++ rest))
    simp only [List.append_assoc]
    refine scan_eq_ok_iff.mpr
      ⟨whole, _, fraction, _, exponent, ?_, scanFraction_complete hfraction hdigits hpoint,
        scanExponent_complete hexponent hrest, ?_⟩
    · rw [hminus]
      exact scanWhole_eq_ok_iff.mpr ⟨hwhole, rfl, hfraction.endsDigits hdigits⟩
    · rw [hminus]

/-- A numeral begins with a minus or a digit. -/
theorem SpelledBy.head (h : m.SpelledBy cs) :
    ∃ c rest, cs = c :: rest ∧ (c = '-' ∨ c.isDigit = true) := by
  cases h with
  | @mk negative whole _ _ _ _ hwhole _ _ =>
    cases negative with
    | true => exact ⟨_, _, rfl, .inl rfl⟩
    | false =>
      cases whole with
      | nil => exact absurd rfl hwhole.1.1
      | cons d ds => exact ⟨_, _, rfl, .inr hwhole.1.head⟩

end Numeral

/-! ## §D Values -/

theorem le_ofDigitChars (cs : List Char) (n : Nat) : n ≤ Nat.ofDigitChars 10 cs n := by
  induction cs generalizing n with
  | nil => exact Nat.le_of_eq Nat.ofDigitChars_nil.symm
  | cons c cs ih =>
    rw [Nat.ofDigitChars_cons]
    have := ih (10 * n + (c.toNat - '0'.toNat))
    omega

theorem ofDigitChars_step (c : Char) (cs : List Char) (n : Nat) :
    Nat.ofDigitChars 10 (c :: cs) n = Nat.ofDigitChars 10 cs (n * 10 + digitValue c) := by
  rw [Nat.ofDigitChars_cons, digitValue, Nat.mul_comm]

/-- **appendDigits_eq_iff**: digits are appended to the last exactly when the whole number stays within the
limit. -/
theorem appendDigits_eq_iff {limit n total : Nat} (hn : n ≤ limit) :
    appendDigits limit n cs = (total, []) ↔ Nat.ofDigitChars 10 cs n = total ∧ total ≤ limit := by
  induction cs generalizing n with
  | nil =>
    rw [appendDigits, Nat.ofDigitChars_nil, Prod.mk.injEq]
    constructor
    · rintro ⟨rfl, -⟩
      exact ⟨rfl, hn⟩
    · rintro ⟨rfl, -⟩
      exact ⟨rfl, rfl⟩
  | cons c cs ih =>
    -- What has been read so far is never more than the whole number, so the limit is kept here too.
    have hle := le_ofDigitChars cs (n * 10 + digitValue c)
    rw [appendDigits, ofDigitChars_step]
    split
    · next hfits => exact ih hfits
    · next hover =>
      constructor
      · intro h
        cases h
      · rintro ⟨htotal, hlimit⟩
        omega

namespace Numeral

variable {m : Numeral} {n : Number}

/-- **IsWhole.value**: a whole number is read as it is. -/
theorem IsWhole.value (h : m.IsWhole n) : m.value = .ok n := by
  cases h with
  | @natural whole n h =>
    have hlimit : n.toNat ≤ greatestNatural := Nat.le_sub_one_of_lt n.toNat_lt
    rw [Numeral.value]
    dsimp only
    rw [(appendDigits_eq_iff (Nat.zero_le _)).mpr ⟨h, hlimit⟩]
    show Except.ok (Number.natural (UInt64.ofNat n.toNat)) = _
    rw [UInt64.ofNat_toNat]
  | @negative whole n hneg h =>
    have hsign : n.toInt < 0 := Int64.lt_iff_toInt_lt.mp hneg
    have hlow : -0x8000000000000000 ≤ n.toInt := Int64.le_toInt n
    have hlimit : Nat.ofDigitChars 10 whole 0 ≤ greatestNatural := by
      show _ ≤ 0xFFFFFFFFFFFFFFFF
      omega
    rw [Numeral.value]
    dsimp only
    rw [(appendDigits_eq_iff (Nat.zero_le _)).mpr ⟨rfl, hlimit⟩]
    show (if ¬true = true then _ else if _ ≠ 0 ∧ _ then _ else _) = _
    rw [if_neg (by simp), if_pos (by omega), h, Int64.ofInt_toInt]

/-- **value_of_not_isWhole**: every numeral that is no whole number is a real or has no value. -/
theorem value_of_not_isWhole (h : ∀ n, ¬m.IsWhole n) : ∃ x : Except Fault Float, m.value = x.map .real := by
  obtain ⟨negative, whole, fraction, exponent⟩ := m
  rw [Numeral.value]
  dsimp only
  split
  · next n happ =>
    obtain ⟨hvalue, hle⟩ := (appendDigits_eq_iff (Nat.zero_le _)).mp happ
    split
    · next hplus =>
      have hnegative : negative = false := by simpa using hplus
      have hfits : (UInt64.ofNat n).toNat = n :=
        UInt64.toNat_ofNat_of_lt' (Nat.lt_of_le_pred (by decide) hle)
      subst hnegative
      exact absurd (.natural (by rw [hvalue, hfits])) (h (.natural (.ofNat n)))
    · next hminus =>
      have hnegative : negative = true := by simpa using hminus
      subst hnegative
      split
      · next hrange =>
        have hint : (Int64.ofInt (-n)).toInt = -n := Int64.toInt_ofInt_of_le (by omega) (by omega)
        refine absurd (.negative ?_ ?_) (h (.negative (.ofInt (-n))))
        · rw [Int64.lt_iff_toInt_lt, hint]
          show -(n : Int) < 0
          omega
        · rw [hvalue, hint]
      · exact ⟨_, rfl⟩
  · exact ⟨_, rfl⟩

end Numeral

/-! ## §E The digits of a whole number -/

theorem digitsOf_isDigit {n : Nat} {c : Char} (h : c ∈ Decimal.digitsOf n) : c.isDigit = true :=
  Nat.isDigit_of_mem_toDigits (by decide) (by decide) h

/-- The digits of a number begin with a zero only if it is zero. -/
theorem digitsOf_head {n : Nat} (h : (Decimal.digitsOf n).head? = some '0') : n = 0 := by
  -- The first digit of a number is also the first of its tenth, down to a single digit.
  induction n using Nat.strongRecOn with
  | _ n ih =>
    rw [Decimal.digitsOf, Nat.toDigits_eq_if (by decide)] at h
    split at h
    · rw [List.head?_cons, Option.some_inj, Nat.digitChar_eq_zero] at h
      exact h
    · next hge =>
      have hhead : (Decimal.digitsOf (n / 10)).head? = some '0' := by
        rw [List.head?_append, Option.or_eq_some_iff, List.head?_eq_none_iff] at h
        exact h.resolve_right fun hnil => Nat.toDigits_ne_nil hnil.1
      have := ih (n / 10) (by omega) hhead
      omega

/-- **digitsOf_wholeDigits**: the digits of a number may stand before a point. -/
theorem digitsOf_wholeDigits (n : Nat) : WholeDigits (Decimal.digitsOf n) := by
  refine ⟨⟨Nat.toDigits_ne_nil, fun d => digitsOf_isDigit⟩, ?_⟩
  rintro ⟨hzero, hlength⟩
  rw [digitsOf_head hzero] at hlength
  exact hlength rfl

theorem digitsOf_value (n : Nat) : Nat.ofDigitChars 10 (Decimal.digitsOf n) 0 = n :=
  Nat.ofDigitChars_ten_toDigits

/-- Digits, with a minus before them or not, are a numeral. -/
theorem digitsOf_spelled (negative : Bool) (n : Nat) :
    (⟨negative, Decimal.digitsOf n, none, none⟩ : Numeral).SpelledBy
      (minusOf negative ++ Decimal.digitsOf n) := by
  have h : (⟨negative, Decimal.digitsOf n, none, none⟩ : Numeral).SpelledBy
      (minusOf negative ++ (Decimal.digitsOf n ++ ([] ++ []))) :=
    .mk (digitsOf_wholeDigits n) .none .none
  rw [List.append_nil, List.append_nil] at h
  exact h

/-! ## §F Numbers that are read back -/

/-- The text that is written for the number is read as the number. -/
def Number.ReadsBack (n : Number) : Prop :=
  ∃ numeral, Numeral.scan n.written = .ok (numeral, []) ∧ numeral.value = .ok n

/-- A text that spells a whole number is read as that number. -/
theorem readsBack_of_isWhole {m : Numeral} {n : Number} (h : m.SpelledBy n.written) (hn : m.IsWhole n) :
    n.ReadsBack := by
  have hscan := Numeral.scan_complete h endsNumeral_nil
  rw [List.append_nil] at hscan
  exact ⟨m, hscan, hn.value⟩

/-- **natural_readsBack**: every whole number that is not negative is read back. -/
theorem natural_readsBack (n : UInt64) : (Number.natural n).ReadsBack :=
  readsBack_of_isWhole (digitsOf_spelled false n.toNat) (.natural (digitsOf_value n.toNat))

/-- **negative_readsBack**: every negative whole number is read back. -/
theorem negative_readsBack (n : Int64) (h : n < 0) : (Number.negative n).ReadsBack := by
  have hneg : n.toInt < 0 := Int64.lt_iff_toInt_lt.mp h
  refine readsBack_of_isWhole (digitsOf_spelled true n.toInt.natAbs) (.negative h ?_)
  rw [digitsOf_value]
  omega

end ScopeTable.Json
