/-
# ScopeTable.Proofs.Text.Settled -- a fold has nothing left to fold

A character is settled when it is its own lower-case form. A text of settled characters is its own fold, and a
fold is a text of settled characters. So folding twice is folding once (`fold_fold`), and the folds are just the
texts in which nothing is left to fold (`fold_eq_self_iff`).

What a character becomes depends on its neighbours only if it is the capital sigma, and both forms of the small
sigma are settled. So the words around a character need no invariant, and all rests on one fact about the case
table: a small letter is never a capital, of its own run or of another (`smallLetter_smallLetter`). The table
settles it run against run. Where the small letters of one run lie apart from the capitals of the other, the ends
of the two show it; only where they overlap are the small letters taken one by one.
-/
import Mathlib.Data.List.Range
import ScopeTable.Text.Fold

namespace ScopeTable.Text

/-! ## §A Runs of capitals -/

namespace CaseRange

variable {run other : CaseRange} {code : Nat}

/-- The code point of the small letter of a capital of the run. -/
def small (run : CaseRange) (capital : Nat) : Nat := ((capital : Int) + run.shift).toNat

/-- The capitals of a run, one after the other. -/
def capitals (run : CaseRange) : List Nat :=
  List.range' run.first ((run.last - run.first) / run.step + 1) run.step

theorem holds_iff :
    run.holds code = true ↔ run.first ≤ code ∧ code ≤ run.last ∧ (code - run.first) % run.step = 0 := by
  simp [holds, and_assoc]

/-- A run holds no code point but its capitals. -/
theorem mem_capitals (h : run.holds code = true) : code ∈ run.capitals := by
  obtain ⟨hfirst, hlast, hstep⟩ := holds_iff.mp h
  have hdistance : run.step * ((code - run.first) / run.step) = code - run.first :=
    Nat.mul_div_cancel' (Nat.dvd_of_mod_eq_zero hstep)
  refine List.mem_range'.mpr ⟨(code - run.first) / run.step, ?_, by omega⟩
  exact Nat.lt_succ_of_le (Nat.div_le_div_right (Nat.sub_le_sub_right hlast run.first))

/-- Whether no small letter of a run is a capital of the other. -/
def clears (run other : CaseRange) : Bool :=
  (run.small run.last).blt other.first || other.last.blt (run.small run.first) ||
    run.capitals.all fun capital => !other.holds (run.small capital)

theorem not_holds_of_clears (hclear : run.clears other = true) (hcapital : run.holds code = true) :
    other.holds (run.small code) = false := by
  obtain ⟨hfirst, hlast, -⟩ := holds_iff.mp hcapital
  have hlow : run.small run.first ≤ run.small code := Int.toNat_le_toNat (by omega)
  have hhigh : run.small code ≤ run.small run.last := Int.toNat_le_toNat (by omega)
  rw [Bool.eq_false_iff]
  intro hholds
  obtain ⟨hbelow, habove, -⟩ := holds_iff.mp hholds
  simp only [clears, Bool.or_eq_true, Nat.blt_eq, List.all_eq_true, Bool.not_eq_true'] at hclear
  rcases hclear with (hbefore | hbehind) | hnone
  · omega
  · omega
  · rw [hnone code (mem_capitals hcapital)] at hholds
    exact Bool.false_ne_true hholds

end CaseRange

/-- **smallLetter_cases**: a code point is its own small letter, or a run holds it and gives its small letter. -/
theorem smallLetter_cases (runs : List CaseRange) (code : Nat) :
    smallLetter runs code = code ∨
      ∃ run ∈ runs, run.holds code = true ∧ smallLetter runs code = run.small code := by
  induction runs with
  | nil => exact Or.inl rfl
  | cons run runs ih =>
    rw [smallLetter]
    split_ifs with hbelow hholds
    · exact Or.inl rfl
    · exact Or.inr ⟨run, List.mem_cons_self, hholds, rfl⟩
    · refine ih.imp_right ?_
      rintro ⟨later, hlater, hsmall⟩
      exact ⟨later, List.mem_cons_of_mem run hlater, hsmall⟩

/-! ## §B The case table -/

/-- No small letter of any run is a capital of any. -/
theorem capitalRuns_clear : (capitalRuns.all fun run => capitalRuns.all run.clears) = true := by
  -- Thirty thousand pairs of runs: as a computation this is much cheaper than as a quantifier that is decided.
  decide +kernel

/-- Every small letter of the table is a character, and none is the dotted capital I. -/
theorem capitalRuns_characters :
    ∀ run ∈ capitalRuns, ∀ capital ∈ run.capitals,
      (Char.ofNat (run.small capital)).toNat = run.small capital ∧ run.small capital ≠ 'İ'.toNat := by
  decide +kernel

/-- **smallLetter_smallLetter**: a small letter is its own small letter. -/
theorem smallLetter_smallLetter (code : Nat) :
    smallLetter capitalRuns (smallLetter capitalRuns code) = smallLetter capitalRuns code := by
  rcases smallLetter_cases capitalRuns code with hself | ⟨run, hrun, hcapital, hsmall⟩
  · rw [hself, hself]
  · rw [hsmall]
    refine (smallLetter_cases capitalRuns (run.small code)).resolve_right ?_
    rintro ⟨other, hother, hholds, -⟩
    have hclear : run.clears other = true :=
      List.all_eq_true.mp (List.all_eq_true.mp capitalRuns_clear run hrun) other hother
    rw [CaseRange.not_holds_of_clears hclear hcapital] at hholds
    exact Bool.false_ne_true hholds

/-- The table gives characters for characters. -/
theorem smallLetterOf_toNat (c : Char) : (smallLetterOf c).toNat = smallLetter capitalRuns c.toNat := by
  rw [smallLetterOf]
  rcases smallLetter_cases capitalRuns c.toNat with hself | ⟨run, hrun, hcapital, hsmall⟩
  · rw [hself, Char.ofNat_toNat]
  · rw [hsmall]
    exact (capitalRuns_characters run hrun c.toNat (CaseRange.mem_capitals hcapital)).1

/-- The table gives the dotted capital I for no other character. -/
theorem smallLetterOf_ne_dotted {c : Char} (h : c ≠ 'İ') : smallLetterOf c ≠ 'İ' := by
  intro hdotted
  have hcode : smallLetter capitalRuns c.toNat = 'İ'.toNat := by rw [← smallLetterOf_toNat, hdotted]
  rcases smallLetter_cases capitalRuns c.toNat with hself | ⟨run, hrun, hcapital, hsmall⟩
  · exact h (Char.toNat_inj.mp (hself.symm.trans hcode))
  · have hnever := (capitalRuns_characters run hrun c.toNat (CaseRange.mem_capitals hcapital)).2
    exact hnever (hsmall.symm.trans hcode)

/-! ## §C Settled characters -/

/-- The character is its own lower-case form. -/
def IsSettled (c : Char) : Prop := lowerChar c = [c]

instance : DecidablePred IsSettled := fun _ => inferInstanceAs (Decidable (_ = _))

theorem IsSettled.ne_sigma {c : Char} (h : IsSettled c) : c ≠ 'Σ' := by
  rintro rfl
  revert h
  decide +kernel

/-- **lowerChar_settled**: the lower-case form of a character is settled, both characters that the dotted capital I
becomes included. -/
theorem lowerChar_settled (c : Char) : ∀ d ∈ lowerChar c, IsSettled d := by
  by_cases hdotted : c = 'İ'
  · have hparts : lowerChar c = ['i', '\u0307'] := if_pos hdotted
    -- The two are named first: a quantifier over characters may be decided by trying all there are.
    rw [hparts, List.forall_mem_cons, List.forall_mem_singleton]
    decide +kernel
  · have hlower : lowerChar c = [smallLetterOf c] := if_neg hdotted
    rw [hlower, List.forall_mem_singleton, IsSettled, lowerChar, if_neg (smallLetterOf_ne_dotted hdotted)]
    have htwice : smallLetterOf (smallLetterOf c) = smallLetterOf c := by
      rw [smallLetterOf, smallLetterOf_toNat, smallLetter_smallLetter]
      rfl
    rw [htwice]

/-- Either form of the small sigma is settled, so it does not matter which of them the word calls for. -/
theorem lowerSigma_settled (before after : List Char) : IsSettled (lowerSigma before after) := by
  rw [lowerSigma]
  split
  · decide +kernel
  · decide +kernel

/-! ## §D Whole texts -/

/-- **foldAfter_settled**: whatever stands before a text, the characters of its fold are settled. -/
theorem foldAfter_settled (before cs : List Char) : ∀ d ∈ foldAfter before cs, IsSettled d := by
  induction cs generalizing before with
  | nil => exact List.forall_mem_nil _
  | cons c cs ih =>
    intro d hd
    rw [foldAfter, List.mem_append] at hd
    rcases hd with hhere | hlater
    · split_ifs at hhere with hsigma
      · rw [List.mem_singleton.mp hhere]
        exact lowerSigma_settled before cs
      · exact lowerChar_settled c d hhere
    · exact ih (c :: before) d hlater

/-- **foldAfter_eq_self**: whatever stands before a text of settled characters, the text is its own fold. -/
theorem foldAfter_eq_self {cs : List Char} (h : ∀ c ∈ cs, IsSettled c) (before : List Char) :
    foldAfter before cs = cs := by
  induction cs generalizing before with
  | nil => rfl
  | cons c cs ih =>
    obtain ⟨hsettled, hrest⟩ := List.forall_mem_cons.mp h
    rw [foldAfter, if_neg hsettled.ne_sigma, hsettled, ih hrest]
    rfl

/-- **fold_settled**: the characters of a fold are settled. -/
theorem fold_settled (name : String) : ∀ c ∈ (fold name).toList, IsSettled c := by
  rw [fold, String.toList_ofList]
  exact foldAfter_settled [] name.toList

/-- **fold_eq_self_iff**: a name is its own fold exactly if all its characters are settled. -/
theorem fold_eq_self_iff (name : String) : fold name = name ↔ ∀ c ∈ name.toList, IsSettled c := by
  constructor
  · intro h
    rw [← h]
    exact fold_settled name
  · intro h
    rw [fold, foldAfter_eq_self h, String.ofList_toList]

/-- **fold_fold**: a fold is its own fold. -/
theorem fold_fold (name : String) : fold (fold name) = fold name :=
  (fold_eq_self_iff (fold name)).mpr (fold_settled name)

/-- A capital sigma at the end of a word and within it, the dotted capital I, and a sigma that stands alone. -/
example : fold "ΊΣΟΣ İΣ Σ" = "ίσος i\u0307ς σ" := by decide +kernel

end ScopeTable.Text
