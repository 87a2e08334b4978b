/-
# ScopeTable.Proofs.Text.AsciiCase -- the case of ASCII letters does not matter to a fold

Two spellings that differ in nothing but the case of ASCII letters have one fold, whatever else they are
made of. A fold asks four things of a character: whether it is the capital sigma, whether it has case, whether
it interrupts a word, and for its small letter. None of the four tells an ASCII capital from its small
letter, and so the small form of a sigma is the same too, although it depends on the characters around it.
-/
import ScopeTable.Text.Fold

namespace ScopeTable.Text

/-! ## §A One character -/

/-- A character is its own ASCII small letter or one of the 26 ASCII capitals. -/
theorem toLower_eq_self_or_capital (c : Char) :
    c.toLower = c ∨ ∃ n < 26, c = Char.ofNat (65 + n) := by
  by_cases h : 'A'.val ≤ c.val ∧ c.val ≤ 'Z'.val
  · right
    have hlow : 65 ≤ c.toNat := h.1
    have hhigh : c.toNat ≤ 90 := h.2
    refine ⟨c.toNat - 65, by omega, ?_⟩
    rw [Nat.add_sub_cancel' hlow, Char.ofNat_toNat]
  · left
    exact dif_neg h

/-- What cannot tell the 26 ASCII capitals from their small letters cannot tell a character from its ASCII
small letter. -/
theorem toLower_congr {β : Type} {f : Char → β}
    (h : ∀ n < 26, f (Char.ofNat (65 + n)).toLower = f (Char.ofNat (65 + n))) (c : Char) :
    f c.toLower = f c := by
  rcases toLower_eq_self_or_capital c with hsmall | ⟨n, hn, rfl⟩
  · rw [hsmall]
  · exact h n hn

theorem isCased_toLower : ∀ c : Char, isCased c.toLower = isCased c :=
  toLower_congr (by decide)

theorem isCaseIgnorable_toLower : ∀ c : Char, isCaseIgnorable c.toLower = isCaseIgnorable c :=
  toLower_congr (by decide)

theorem lowerChar_toLower : ∀ c : Char, lowerChar c.toLower = lowerChar c :=
  toLower_congr (by decide)

theorem toLower_eq_sigma (c : Char) : c.toLower = 'Σ' ↔ c = 'Σ' := by
  have h : decide (c.toLower = 'Σ') = decide (c = 'Σ') :=
    toLower_congr (f := fun c => decide (c = 'Σ')) (by decide) c
  simpa using h

/-! ## §B Whole texts -/

/-- Whether a letter comes next is the same in ASCII small letters. -/
theorem meetsLetter_toLower (cs : List Char) :
    meetsLetter (cs.map Char.toLower) = meetsLetter cs := by
  induction cs with
  | nil => rfl
  | cons c cs ih =>
    unfold meetsLetter at ih ⊢
    rw [List.map_cons, List.dropWhile_cons, List.dropWhile_cons, isCaseIgnorable_toLower]
    cases hc : isCaseIgnorable c with
    | true => simpa using ih
    | false => simp [isCased_toLower]

theorem lowerSigma_toLower (before after : List Char) :
    lowerSigma (before.map Char.toLower) (after.map Char.toLower) = lowerSigma before after := by
  rw [lowerSigma, lowerSigma, meetsLetter_toLower, meetsLetter_toLower]

/-- **foldAfter_toLower**: a text folds as it does in ASCII small letters, what stands before it included. -/
theorem foldAfter_toLower (before cs : List Char) :
    foldAfter (before.map Char.toLower) (cs.map Char.toLower) = foldAfter before cs := by
  induction cs generalizing before with
  | nil => rfl
  | cons c cs ih =>
    have ih := ih (c :: before)
    rw [List.map_cons] at ih
    rw [List.map_cons, foldAfter, foldAfter, ih, lowerSigma_toLower, lowerChar_toLower]
    simp only [toLower_eq_sigma]

/-- The two spellings differ at most in the case of ASCII letters. -/
def CaseVariant (a b : String) : Prop := a.toList.map Char.toLower = b.toList.map Char.toLower

instance (a b : String) : Decidable (CaseVariant a b) := inferInstanceAs (Decidable (_ = _))

/-- **CaseVariant.fold_eq**: spellings that differ at most in the case of ASCII letters have one fold. -/
theorem CaseVariant.fold_eq {a b : String} (h : CaseVariant a b) : fold a = fold b := by
  have hlower : ∀ s : String, fold s = String.ofList (foldAfter [] (s.toList.map Char.toLower)) := by
    intro s
    rw [fold, ← foldAfter_toLower [] s.toList]
    rfl
  rw [hlower a, hlower b, h]

end ScopeTable.Text
