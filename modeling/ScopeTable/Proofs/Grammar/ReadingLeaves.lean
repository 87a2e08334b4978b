/-
# ScopeTable.Proofs.Grammar.ReadingLeaves -- what the readers of leaves accept

One equivalence for each reader of a value without structure: it succeeds with a value exactly on the
literals of that value. What it says when it fails plays no part here.
-/
import ScopeTable.Grammar.Decode
import ScopeTable.Proofs.Grammar.Presentation

namespace ScopeTable.Grammar

open ScopeTable.Json

/-! ## §A Outcomes -/

@[simp] theorem ofText_eq_ok_iff {α : Type} {r : Except Fault α} {a : α} :
    ofText r = .ok a ↔ r = .ok a := by
  cases r with
  | error fault => simp [ofText, Except.mapError]
  | ok b => simp [ofText, Except.mapError]

@[simp] theorem ofNode_eq_ok_iff {α : Type} {r : Except Mismatch α} {a : α} :
    ofNode r = .ok a ↔ r = .ok a := by
  cases r with
  | error mismatch => simp [ofNode, Except.mapError]
  | ok b => simp [ofNode, Except.mapError]

/-- A value of the wrong kind is not read. -/
theorem not_wrongType {α : Type} {expected : String} {j : Json} {a : α} :
    ¬wrongType expected j = .ok a := by
  intro h
  cases j with
  | absent fault => cases h
  | array items ending => cases h
  | object members ending => cases h
  | nothing lexeme =>
    obtain ⟨_, -, h⟩ := bind_eq_ok_iff.mp h
    cases h
  | scalar lexeme =>
    obtain ⟨_, -, h⟩ := bind_eq_ok_iff.mp h
    cases h
  | text lexeme =>
    obtain ⟨_, -, h⟩ := bind_eq_ok_iff.mp h
    cases h

/-! ## §B Literals -/

theorem readText_iff {expected : String} {j : Json} {s : String} :
    readText expected j = .ok s ↔ ∃ passed, j = .text ⟨.ok s, passed⟩ := by
  constructor
  · intro h
    rw [readText.eq_def] at h
    split at h
    · next lexeme =>
      obtain ⟨value, passed⟩ := lexeme
      have hvalue : value = .ok s := ofText_eq_ok_iff.mp h
      exact ⟨passed, by rw [hvalue]⟩
    · exact (not_wrongType h).elim
  · rintro ⟨passed, rfl⟩
    rfl

theorem readCharacter_iff {expected : String} {j : Json} {c : Char} :
    readCharacter expected j = .ok c ↔ ∃ passed, j = .text ⟨.ok (String.ofList [c]), passed⟩ := by
  rw [readCharacter, bind_eq_ok_iff]
  constructor
  · rintro ⟨s, hs, h⟩
    obtain ⟨passed, rfl⟩ := readText_iff.mp hs
    split at h
    · next d heq =>
      cases h
      exact ⟨passed, by rw [← heq, String.ofList_toList]⟩
    · cases h
  · rintro ⟨passed, rfl⟩
    refine ⟨_, readText_iff.mpr ⟨passed, rfl⟩, ?_⟩
    rw [String.toList_ofList]

theorem readNumber_iff {expected : String} {j : Json} {n : Number} :
    readNumber expected j = .ok n ↔ ∃ passed, j = .scalar ⟨.ok (.number n), passed⟩ := by
  constructor
  · intro h
    rw [readNumber.eq_def] at h
    split at h
    · next lexeme =>
      obtain ⟨value, passed⟩ := lexeme
      obtain ⟨scalar, hscalar, h⟩ := bind_eq_ok_iff.mp h
      have hvalue : value = .ok scalar := ofText_eq_ok_iff.mp hscalar
      cases scalar with
      | boolean b => cases h
      | number m =>
        cases h
        exact ⟨passed, by rw [hvalue]⟩
    · exact (not_wrongType h).elim
  · rintro ⟨passed, rfl⟩
    rfl

theorem readBoolean_iff {expected : String} {j : Json} {b : Bool} :
    readBoolean expected j = .ok b ↔ ∃ passed, j = .scalar ⟨.ok (.boolean b), passed⟩ := by
  constructor
  · intro h
    rw [readBoolean.eq_def] at h
    split at h
    · next lexeme =>
      obtain ⟨value, passed⟩ := lexeme
      obtain ⟨scalar, hscalar, h⟩ := bind_eq_ok_iff.mp h
      have hvalue : value = .ok scalar := ofText_eq_ok_iff.mp hscalar
      cases scalar with
      | number m => cases h
      | boolean c =>
        cases h
        exact ⟨passed, by rw [hvalue]⟩
    · exact (not_wrongType h).elim
  · rintro ⟨passed, rfl⟩
    rfl

theorem readNull_iff {j : Json} :
    readNull j = .ok () ↔ ∃ passed, j = .nothing ⟨.ok (), passed⟩ := by
  constructor
  · intro h
    rw [readNull.eq_def] at h
    split at h
    · next lexeme =>
      obtain ⟨value, passed⟩ := lexeme
      have hvalue : value = .ok () := ofText_eq_ok_iff.mp h
      exact ⟨passed, by rw [hvalue]⟩
    · exact (not_wrongType h).elim
  · rintro ⟨passed, rfl⟩
    rfl

/-! ## §C Numbers -/

/-- A whole number is read if it is spelled as one and lies within the bounds. -/
theorem readWhole_iff {low high : Int} {expected : String} {j : Json} {n : Int} :
    readWhole low high expected j = .ok n ↔
      (∃ m passed, j = .scalar ⟨.ok (.number m), passed⟩ ∧ IsWhole m n) ∧ low ≤ n ∧ n ≤ high := by
  have hwithin : ∀ k : Int, (if low ≤ k ∧ k ≤ high then (.ok k : Outcome Int)
      else miss (.invalidValue (.integer k) expected)) = .ok n ↔ k = n ∧ low ≤ n ∧ n ≤ high := by
    intro k
    split
    · next hk =>
      rw [Except.ok.injEq]
      exact ⟨fun heq => ⟨heq, heq ▸ hk⟩, fun h => h.1⟩
    · next hk =>
      rw [miss]
      exact ⟨nofun, fun h => absurd (h.1 ▸ h.2) hk⟩
  rw [readWhole, bind_eq_ok_iff]
  constructor
  · rintro ⟨m, hm, h⟩
    obtain ⟨passed, rfl⟩ := readNumber_iff.mp hm
    cases m with
    | natural k =>
      obtain ⟨rfl, hbounds⟩ := (hwithin _).mp h
      exact ⟨⟨_, passed, rfl, .natural k⟩, hbounds⟩
    | negative k =>
      obtain ⟨rfl, hbounds⟩ := (hwithin _).mp h
      exact ⟨⟨_, passed, rfl, .negative k⟩, hbounds⟩
    | real x => cases h
  · rintro ⟨⟨m, passed, rfl, hm⟩, hbounds⟩
    refine ⟨m, readNumber_iff.mpr ⟨passed, rfl⟩, ?_⟩
    cases hm with
    | natural k => exact (hwithin _).mpr ⟨rfl, hbounds⟩
    | negative k => exact (hwithin _).mpr ⟨rfl, hbounds⟩

/-- A whole number is read as a word of the machine, given what the words of this kind are worth. -/
theorem readWord_iff {α : Type} {low high : Int} {word : Int → α} {worth : α → Int}
    (hbounds : ∀ a, low ≤ worth a ∧ worth a ≤ high) (hword : ∀ a, word (worth a) = a)
    (hworth : ∀ n, low ≤ n → n ≤ high → worth (word n) = n) {expected : String} {j : Json} {a : α} :
    (readWhole low high expected j >>= fun n => (.ok (word n) : Outcome α)) = .ok a ↔
      ∃ m passed, j = .scalar ⟨.ok (.number m), passed⟩ ∧ IsWhole m (worth a) := by
  rw [bind_eq_ok_iff]
  constructor
  · rintro ⟨n, hn, h⟩
    obtain ⟨⟨m, passed, rfl, hm⟩, hlow, hhigh⟩ := readWhole_iff.mp hn
    cases h
    exact ⟨m, passed, rfl, (hworth n hlow hhigh).symm ▸ hm⟩
  · rintro ⟨m, passed, rfl, hm⟩
    exact ⟨worth a, readWhole_iff.mpr ⟨⟨m, passed, rfl, hm⟩, hbounds a⟩, by rw [hword]⟩

theorem readReal_iff {expected : String} {j : Json} {x : Float} :
    readReal expected j = .ok x ↔
      ∃ n passed, j = .scalar ⟨.ok (.number n), passed⟩ ∧ n.toFloat.isFinite = true ∧
        n.toFloat = x := by
  rw [readReal, bind_eq_ok_iff]
  constructor
  · rintro ⟨n, hn, h⟩
    obtain ⟨passed, rfl⟩ := readNumber_iff.mp hn
    rw [ofText_eq_ok_iff, inRange] at h
    split at h
    · next hfinite =>
      cases h
      exact ⟨n, passed, rfl, hfinite, rfl⟩
    · cases h
  · rintro ⟨n, passed, rfl, hfinite, rfl⟩
    refine ⟨n, readNumber_iff.mpr ⟨passed, rfl⟩, ?_⟩
    rw [ofText_eq_ok_iff, inRange, if_pos hfinite]

end ScopeTable.Grammar
