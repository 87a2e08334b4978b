/-
# ScopeTable.Proofs.Json.Text -- how strings are scanned, and that written ones are read back

The scanner takes a string unit by unit up to the closing quote, and joins the units to a text. Both steps
agree with the grammar: the units are spelled by what is passed (`scanUnits_sound`, `scanUnits_complete`), and
they are joined to the text which they make up, if there is one (`joinUnits_sound`, `joinUnits_complete`).

A string is written character by character, and each of them is spelled as one unit: as itself, or, where it
is a control character without a short escape, by its number.
-/
import ScopeTable.Json.Printer
import ScopeTable.Proofs.Json.Spelling

namespace ScopeTable.Json

variable {c : Char} {cs rest : List Char} {u : TextUnit} {units : List TextUnit}

/-! ## §A Units -/

/-- **scanUnit_sound**: the text that is passed spells the unit that is scanned. -/
theorem scanUnit_sound (hquote : c ≠ '"') (h : scanUnit c cs = .ok (u, rest)) :
    ∃ front, u.SpelledBy front ∧ c :: cs = front ++ rest := by
  rw [scanUnit.eq_def] at h
  split at h
  · next hbackslash =>
    subst hbackslash
    split at h
    · cases h
    · next tail =>
      rw [scanHex.eq_def] at h
      split at h
      · split at h
        · next hnumber =>
          cases h
          exact ⟨_, .code hnumber, rfl⟩
        · cases h
      · cases h
    · split at h
      · next hescaped =>
        cases h
        exact ⟨_, .escape hescaped, rfl⟩
      · cases h
  · next hbackslash =>
    split at h
    · cases h
    · next hcontrol =>
      cases h
      exact ⟨[c], .plain hquote hbackslash hcontrol, rfl⟩

/-- **scanUnit_complete**: a text that spells a unit begins with no quote and is scanned as that unit. -/
theorem scanUnit_complete {front : List Char} (h : u.SpelledBy front) (rest : List Char) :
    ∃ c tail, front = c :: tail ∧ c ≠ '"' ∧ scanUnit c (tail ++ rest) = .ok (u, rest) := by
  cases h with
  | @plain c hquote hbackslash hcontrol =>
    refine ⟨c, [], rfl, hquote, ?_⟩
    rw [List.nil_append, scanUnit.eq_def, if_neg hbackslash, if_neg hcontrol]
  | @escape e c h =>
    refine ⟨'\\', [e], rfl, by decide, ?_⟩
    show scanUnit '\\' (e :: rest) = _
    -- The letter that announces a number stands for no character.
    have hu : e ≠ 'u' := by
      rintro rfl
      cases h
    rw [scanUnit.eq_def, if_pos rfl]
    split
    · next heq => cases heq
    · next heq =>
      cases heq
      exact absurd rfl hu
    · next heq =>
      cases heq
      rw [h]
  | code h =>
    refine ⟨'\\', _, rfl, by decide, ?_⟩
    show scanHex (_ :: _ :: _ :: _ :: rest) = _
    rw [scanHex, h]

theorem scanUnits_sound (h : scanUnits cs = (units, .ok rest)) :
    ∃ front, UnitsSpelledBy units front ∧ cs = front ++ '"' :: rest := by
  fun_induction scanUnits cs generalizing units with
  | case1 => cases h
  | case2 cs =>
    cases h
    exact ⟨[], .nil, rfl⟩
  | case3 => cases h
  | case4 c cs hquote unit rest' hunit units' ending hunits ih =>
    cases h
    obtain ⟨front, hfront, hcs⟩ := scanUnit_sound hquote hunit
    obtain ⟨fronts, hfronts, rfl⟩ := ih hunits
    refine ⟨front ++ fronts, .cons hfront hfronts, ?_⟩
    rw [hcs, List.append_assoc]

theorem scanUnits_complete {front : List Char} (h : UnitsSpelledBy units front) (rest : List Char) :
    scanUnits (front ++ '"' :: rest) = (units, .ok rest) := by
  induction h with
  | nil =>
    show scanUnits ('"' :: rest) = _
    rw [scanUnits, if_pos rfl]
  | @cons u units front tail hfirst _ ih =>
    obtain ⟨c, cs, rfl, hquote, hscan⟩ := scanUnit_complete hfirst (tail ++ '"' :: rest)
    rw [List.append_assoc, List.cons_append, scanUnits, if_neg hquote]
    split
    · next heq =>
      rw [hscan] at heq
      cases heq
    · next heq =>
      rw [hscan] at heq
      cases heq
      rw [ih]

/-! ## §B What units make up -/

theorem map_cons_eq_ok_iff {r : Except Fault (List Char)} :
    r.map (c :: ·) = .ok cs ↔ ∃ tail, r = .ok tail ∧ cs = c :: tail := by
  cases r with
  | error fault => simp [Except.map]
  | ok tail => simp [Except.map, eq_comm]

theorem map_cons_eq_error {r : Except Fault (List Char)} {fault : Fault}
    (h : r.map (c :: ·) = .error fault) : r = .error fault := by
  cases r with
  | error f => exact h
  | ok tail => cases h

/-- **joinUnits_sound**: units are joined to a text only behind a closing quote, and they make it up. -/
theorem joinUnits_sound {ending : Except Fault Unit} (h : joinUnits ending units = .ok cs) :
    ending = .ok () ∧ MakeUp units cs := by
  fun_induction joinUnits ending units generalizing cs with
  | case1 =>
    cases ending with
    | error fault => cases h
    | ok _ =>
      cases h
      exact ⟨rfl, .nil⟩
  | case2 c units ih =>
    obtain ⟨tail, htail, rfl⟩ := map_cons_eq_ok_iff.mp h
    obtain ⟨hending, hunits⟩ := ih htail
    exact ⟨hending, .char hunits⟩
  | case3 => cases h
  | case4 n hlow hhigh m units hm ih =>
    obtain ⟨tail, htail, rfl⟩ := map_cons_eq_ok_iff.mp h
    obtain ⟨hending, hunits⟩ := ih htail
    exact ⟨hending, .pair hhigh hm hunits⟩
  | case5 => cases h
  | case6 => cases h
  | case7 => cases h
  | case8 => cases h
  | case9 n units hlow hhigh ih =>
    obtain ⟨tail, htail, rfl⟩ := map_cons_eq_ok_iff.mp h
    obtain ⟨hending, hunits⟩ := ih htail
    exact ⟨hending, .code (by omega) hunits⟩

theorem joinUnits_complete (h : MakeUp units cs) : joinUnits (.ok ()) units = .ok cs := by
  induction h with
  | nil => rfl
  | char _ ih =>
    rw [joinUnits, ih]
    rfl
  | code hn _ ih =>
    rw [joinUnits.eq_def]
    dsimp only
    rw [if_neg (by omega), if_neg (by omega), ih]
    rfl
  | pair hhigh hlow _ ih =>
    rw [joinUnits.eq_def]
    dsimp only
    rw [if_neg (by omega), if_pos hhigh, if_pos hlow, ih]
    rfl

/-- Units that make up no text are malformed, if the string is closed. -/
theorem joinUnits_malformed {ending : Except Fault Unit} {fault : Fault} (hending : ending = .ok ())
    (h : joinUnits ending units = .error fault) : fault = .malformed := by
  fun_induction joinUnits ending units with
  | case1 =>
    subst hending
    cases h
  | case2 _ _ ih => exact ih (map_cons_eq_error h)
  | case3 =>
    cases h
    rfl
  | case4 _ _ _ _ _ _ ih => exact ih (map_cons_eq_error h)
  | case5 =>
    cases h
    rfl
  | case6 =>
    cases h
    rfl
  | case7 _ _ _ _ hcut =>
    subst hending
    cases hcut
  | case8 =>
    cases h
    rfl
  | case9 _ _ _ _ ih => exact ih (map_cons_eq_error h)

/-! ## §C Written strings -/

theorem hexValue?_digitChar : ∀ n < 16, hexValue? (Nat.digitChar n) = some n := by decide

/-- A control character is spelled by the hexadecimal digits of its number. -/
theorem hexNumber?_control {n : Nat} (h : n < 32) :
    hexNumber? ['0', '0', Nat.digitChar (n / 16), Nat.digitChar (n % 16)] = some n := by
  have hhigh := hexValue?_digitChar (n / 16) (by omega)
  have hlow := hexValue?_digitChar (n % 16) (by omega)
  have hsum : n / 16 * 16 + n % 16 = n := Nat.div_add_mod' n 16
  rw [hexNumber?]
  simp only [List.foldl_cons, List.foldl_nil, hhigh, hlow]
  show some ((0 + n / 16) * 16 + n % 16) = some n
  rw [Nat.zero_add, hsum]

theorem toNat_lt_of_control {c : Char} (h : c < ' ') : c.toNat < 32 := h

/-- **writtenChar_spelled**: a written character is one unit, which makes it up. -/
theorem writtenChar_spelled (c : Char) :
    ∃ u : TextUnit, u.SpelledBy (writtenChar c) ∧
      ∀ {units cs}, MakeUp units cs → MakeUp (u :: units) (c :: cs) := by
  rw [writtenChar.eq_def]
  -- The seven short escapes, and then all other characters.
  split
  · exact ⟨_, .escape rfl, .char⟩
  · exact ⟨_, .escape rfl, .char⟩
  · exact ⟨_, .escape rfl, .char⟩
  · exact ⟨_, .escape rfl, .char⟩
  · exact ⟨_, .escape rfl, .char⟩
  · exact ⟨_, .escape rfl, .char⟩
  · exact ⟨_, .escape rfl, .char⟩
  · next hquote hbackslash _ _ _ _ _ =>
    split
    · next hcontrol =>
      have hlt : c.toNat < 32 := toNat_lt_of_control hcontrol
      refine ⟨_, .code (hexNumber?_control hlt), ?_⟩
      intro units cs h
      have hcode : MakeUp (.code c.toNat :: units) (Char.ofNat c.toNat :: cs) := .code (by omega) h
      rw [Char.ofNat_toNat] at hcode
      exact hcode
    · next hcontrol => exact ⟨_, .plain hquote hbackslash hcontrol, .char⟩

/-- **writtenString_spelled**: what is written between the quotes of a string are units that make it up. -/
theorem writtenString_spelled (cs : List Char) :
    ∃ units, UnitsSpelledBy units (cs.flatMap writtenChar) ∧ MakeUp units cs := by
  induction cs with
  | nil => exact ⟨[], .nil, .nil⟩
  | cons c cs ih =>
    obtain ⟨units, hunits, hmake⟩ := ih
    obtain ⟨u, hu, hstep⟩ := writtenChar_spelled c
    exact ⟨u :: units, .cons hu hunits, hstep hmake⟩

end ScopeTable.Json
