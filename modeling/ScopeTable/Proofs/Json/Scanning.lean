/-
# ScopeTable.Proofs.Json.Scanning -- lexical elements are scanned as the grammar has them

The scanner goes on past a literal without value and ends at the first element that no reader gets past. So a
text consists of the lexical elements that are scanned if a reader gets past all of them (`lexes_scan`). In the
other direction a text may be cut into elements in more than one way: the digits of a number are also two
numbers. Where no number stands next to another there is only one way, and it is the one that is scanned
(`scan_of_lexes`).
-/
import ScopeTable.Proofs.Json.Numeral
import ScopeTable.Proofs.Json.Text

namespace ScopeTable.Json

namespace Token

variable {c : Char} {cs rest : List Char} {token : Token}

/-! ## §A One lexical element -/

/-- A reader gets past the lexical element. -/
def Met : Token → Prop
  | .nothing lexeme => lexeme.Met
  | .scalar lexeme => lexeme.Met
  | .text lexeme => lexeme.Met
  | .stray => False
  | _ => True

/-- The lexical element is a truth value or a number. -/
def IsScalar : Token → Prop
  | .scalar _ => True
  | _ => False

theorem not_met_broken {α : Type} (read passing : Fault) : ¬(Lexeme.broken read passing : Lexeme α).Met := by
  rintro (⟨a, h⟩ | h)
  · cases h
  · cases h

theorem scanWord_eq_ok_iff {letters : List Char} :
    scanWord letters cs = .ok rest ↔ cs = letters ++ rest := by
  induction letters generalizing cs with
  | nil => simp [scanWord, eq_comm]
  | cons letter letters ih =>
    cases cs with
    | nil => simp [scanWord]
    | cons c cs =>
      rw [scanWord]
      split
      · next heq => simp [heq, ih]
      · next hne => simp [hne]

theorem ofWord_sound {α : Type} (element : Lexeme α → Token) (hmet : ∀ l, (element l).Met → l.Met)
    {letters : List Char} {value : α} (h : ofWord element letters value cs = (token, rest))
    (htoken : token.Met) : token = element (.sound value) ∧ cs = letters ++ rest := by
  rw [ofWord] at h
  split at h
  · next hword =>
    cases h
    exact ⟨rfl, scanWord_eq_ok_iff.mp hword⟩
  · cases h
    exact absurd (hmet _ htoken) (not_met_broken _ _)

theorem ofQuote_sound (h : ofQuote cs = (token, rest)) (htoken : token.Met) :
    ∃ front, token.SpelledBy front ∧ '"' :: cs = front ++ rest := by
  rw [ofQuote] at h
  split at h
  · next units tail hunits =>
    cases h
    obtain ⟨front, hfront, rfl⟩ := scanUnits_sound hunits
    refine ⟨'"' :: (front ++ ['"']), ?_, ?_⟩
    · cases hjoin : joinUnits (.ok ()) units with
      | ok text =>
        refine .text hfront ?_
        rw [String.toList_ofList]
        exact (joinUnits_sound hjoin).2
      | error fault =>
        rw [joinUnits_malformed rfl hjoin]
        refine .unpaired hfront ?_
        intro text htext
        rw [joinUnits_complete htext] at hjoin
        cases hjoin
    · rw [List.cons_append, List.append_assoc]
      rfl
  · next units fault hunits =>
    cases h
    -- The string is cut off, so it has no value and is not passed over either.
    rcases htoken with ⟨text, htext⟩ | hpassed
    · cases hjoin : joinUnits (.error fault) units with
      | ok text => cases (joinUnits_sound hjoin).1
      | error fault =>
        rw [hjoin] at htext
        cases htext
    · cases hpassed

theorem ofQuote_text {units : List TextUnit} {front : List Char} {s : String}
    (h : UnitsSpelledBy units front) (hs : MakeUp units s.toList) (rest : List Char) :
    ofQuote (front ++ '"' :: rest) = (.text (.sound s), rest) := by
  rw [ofQuote, scanUnits_complete h]
  dsimp only
  rw [joinUnits_complete hs]
  show (Token.text ⟨.ok (String.ofList s.toList), .ok ()⟩, rest) = _
  rw [String.ofList_toList]
  rfl

theorem ofQuote_unpaired {units : List TextUnit} {front : List Char} (h : UnitsSpelledBy units front)
    (hnone : ∀ text, ¬MakeUp units text) (rest : List Char) :
    ofQuote (front ++ '"' :: rest) = (.text ⟨.error .malformed, .ok ()⟩, rest) := by
  rw [ofQuote, scanUnits_complete h]
  dsimp only
  cases hjoin : joinUnits (.ok ()) units with
  | ok text => exact absurd (joinUnits_sound hjoin).2 (hnone text)
  | error fault =>
    rw [joinUnits_malformed rfl hjoin]
    rfl

/-- **spelledBy_numeral**: the text of a numeral is the lexical element of its value. -/
theorem spelledBy_numeral {m : Numeral} {front : List Char} (h : m.SpelledBy front) :
    (Token.scalar ⟨m.value.map .number, .ok ()⟩).SpelledBy front := by
  by_cases hwhole : ∃ n, m.IsWhole n
  · obtain ⟨n, hn⟩ := hwhole
    rw [hn.value]
    exact .whole h hn
  · have hother : ∀ n, ¬m.IsWhole n := fun n hn => hwhole ⟨n, hn⟩
    obtain ⟨x, hx⟩ := Numeral.value_of_not_isWhole hother
    rw [hx]
    have hreal : (Token.scalar ⟨x.map fun x => .number (.real x), .ok ()⟩).SpelledBy front :=
      .real h hother hx
    cases x with
    | error fault => exact hreal
    | ok x => exact hreal

theorem ofNumber_sound (h : ofNumber cs = (token, rest)) (htoken : token.Met) :
    ∃ front, token.SpelledBy front ∧ cs = front ++ rest := by
  rw [ofNumber] at h
  split at h
  · next m tail hscan =>
    cases h
    obtain ⟨front, hfront, hcs⟩ := Numeral.scan_sound hscan
    exact ⟨front, spelledBy_numeral hfront, hcs⟩
  · cases h
    exact absurd htoken (not_met_broken _ _)

/-- A character with which a number can begin. -/
theorem next_number (h : c = '-' ∨ c.isDigit = true) (rest : List Char) :
    isBlank c = false ∧ next c rest = ofNumber (c :: rest) := by
  have hne : ∀ d : Char, d ≠ '-' → d.isDigit = false → c ≠ d := by
    rintro d hminus hdigit rfl
    rcases h with hc | hc
    · exact hminus hc
    · exact Bool.false_ne_true (hdigit.symm.trans hc)
  have hstart : (decide (c = '-') || c.isDigit) = true := by
    rw [Bool.or_eq_true, decide_eq_true_iff]
    exact h
  constructor
  · simp [isBlank, hne]
  · rw [next.eq_def]
    -- No other lexical element begins with a minus or a digit.
    split <;> first
      | exact absurd rfl (hne _ (by decide) (by decide))
      | rw [if_pos hstart]

theorem next_numeral {m : Numeral} {front : List Char} (h : m.SpelledBy front) (hrest : EndsNumeral rest) :
    ∃ c tail, front = c :: tail ∧ isBlank c = false ∧
      next c (tail ++ rest) = (.scalar ⟨m.value.map .number, .ok ()⟩, rest) := by
  have hscan := Numeral.scan_complete h hrest
  obtain ⟨c, tail, rfl, hc⟩ := h.head
  obtain ⟨hblank, hnext⟩ := next_number hc (tail ++ rest)
  refine ⟨c, tail, rfl, hblank, ?_⟩
  rw [List.cons_append] at hscan
  rw [hnext, ofNumber, hscan]

/-- **next_sound**: what is taken for a lexical element spells it, if a reader gets past it. -/
theorem next_sound {tail : List Char} (h : next c rest = (token, tail)) (htoken : token.Met) :
    ∃ front, token.SpelledBy front ∧ c :: rest = front ++ tail := by
  rw [next.eq_def] at h
  split at h
  · cases h
    exact ⟨_, .openBrace, rfl⟩
  · cases h
    exact ⟨_, .closeBrace, rfl⟩
  · cases h
    exact ⟨_, .openBracket, rfl⟩
  · cases h
    exact ⟨_, .closeBracket, rfl⟩
  · cases h
    exact ⟨_, .colon, rfl⟩
  · cases h
    exact ⟨_, .comma, rfl⟩
  · exact ofQuote_sound h htoken
  · obtain ⟨rfl, rfl⟩ := ofWord_sound nothing (fun _ hl => hl) h htoken
    exact ⟨_, .null, rfl⟩
  · obtain ⟨rfl, rfl⟩ := ofWord_sound scalar (fun _ hl => hl) h htoken
    exact ⟨_, .true, rfl⟩
  · obtain ⟨rfl, rfl⟩ := ofWord_sound scalar (fun _ hl => hl) h htoken
    exact ⟨_, .false, rfl⟩
  · split at h
    · exact ofNumber_sound h htoken
    · cases h
      cases htoken

/-- **next_complete**: the text of a lexical element is taken for it as a whole, and nothing behind it, as long
as that does not continue a number. -/
theorem next_complete {front : List Char} (h : token.SpelledBy front)
    (hrest : token.IsScalar → EndsNumeral rest) :
    ∃ c tail, front = c :: tail ∧ isBlank c = false ∧ next c (tail ++ rest) = (token, rest) := by
  cases h with
  | openBrace => exact ⟨_, _, rfl, rfl, rfl⟩
  | closeBrace => exact ⟨_, _, rfl, rfl, rfl⟩
  | openBracket => exact ⟨_, _, rfl, rfl, rfl⟩
  | closeBracket => exact ⟨_, _, rfl, rfl, rfl⟩
  | colon => exact ⟨_, _, rfl, rfl, rfl⟩
  | comma => exact ⟨_, _, rfl, rfl, rfl⟩
  | null => exact ⟨_, _, rfl, rfl, rfl⟩
  | true => exact ⟨_, _, rfl, rfl, rfl⟩
  | false => exact ⟨_, _, rfl, rfl, rfl⟩
  | whole h hn =>
    have hnext := next_numeral h (hrest trivial)
    rw [hn.value] at hnext
    exact hnext
  | @real m x _ h _ hx =>
    have hnext := next_numeral h (hrest trivial)
    rw [hx] at hnext
    cases x with
    | error fault => exact hnext
    | ok x => exact hnext
  | text h hs =>
    refine ⟨_, _, rfl, rfl, ?_⟩
    rw [List.append_assoc]
    exact ofQuote_text h hs rest
  | unpaired h hnone =>
    refine ⟨_, _, rfl, rfl, ?_⟩
    rw [List.append_assoc]
    exact ofQuote_unpaired h hnone rest

/-! ## §B What may follow a number -/

theorem endsNumeral_blank (hc : isBlank c = true) (rest : List Char) : EndsNumeral (c :: rest) := by
  simp only [isBlank, Bool.or_eq_true, decide_eq_true_eq] at hc
  rcases hc with ((rfl | rfl) | rfl) | rfl
  · exact endsNumeral_cons rest (by decide)
  · exact endsNumeral_cons rest (by decide)
  · exact endsNumeral_cons rest (by decide)
  · exact endsNumeral_cons rest (by decide)

/-- Only a number can continue a number. -/
theorem SpelledBy.endsNumeral {front : List Char} (h : token.SpelledBy front) (hscalar : ¬token.IsScalar)
    (rest : List Char) : EndsNumeral (front ++ rest) := by
  cases h with
  | openBrace => exact endsNumeral_cons _ (by decide)
  | closeBrace => exact endsNumeral_cons _ (by decide)
  | openBracket => exact endsNumeral_cons _ (by decide)
  | closeBracket => exact endsNumeral_cons _ (by decide)
  | colon => exact endsNumeral_cons _ (by decide)
  | comma => exact endsNumeral_cons _ (by decide)
  | null => exact endsNumeral_cons _ (by decide)
  | text => exact endsNumeral_cons _ (by decide)
  | unpaired => exact endsNumeral_cons _ (by decide)
  | true => exact absurd trivial hscalar
  | false => exact absurd trivial hscalar
  | whole => exact absurd trivial hscalar
  | real => exact absurd trivial hscalar

/-- No truth value or number stands next to another. -/
def Parted : List Token → Prop
  | [] => True
  | token :: tokens => (token.IsScalar → ∀ next ∈ tokens.head?, ¬next.IsScalar) ∧ Parted tokens

theorem parted_singleton (token : Token) : Parted [token] := by
  refine ⟨?_, trivial⟩
  intro _ next hnext
  cases hnext

theorem parted_mark {mark : Token} (hmark : ¬mark.IsScalar) {others : List Token} (h : Parted others) :
    Parted (mark :: others) := ⟨fun hscalar => absurd hscalar hmark, h⟩

/-- Elements are parted by a mark between them. -/
theorem parted_append {mark : Token} (hmark : ¬mark.IsScalar) {tokens others : List Token}
    (h : Parted tokens) (hothers : Parted others) : Parted (tokens ++ mark :: others) := by
  induction tokens with
  | nil => exact parted_mark hmark hothers
  | cons token tokens ih =>
    refine ⟨?_, ih h.2⟩
    intro hscalar next hnext
    cases tokens with
    | nil =>
      cases hnext
      exact hmark
    | cons other tokens => exact h.1 hscalar next hnext

end Token

/-! ## §C Texts -/

section

open Token

variable {cs : List Char} {tokens : List Token}

theorem Lexes.blank {c : Char} (hc : isBlank c = true) (h : Lexes tokens cs) : Lexes tokens (c :: cs) := by
  cases h with
  | nil hblanks => exact .nil (List.forall_mem_cons.mpr ⟨hc, hblanks⟩)
  | cons hblanks hfirst hrest => exact .cons (List.forall_mem_cons.mpr ⟨hc, hblanks⟩) hfirst hrest

theorem Lexes.blanks {blanks : List Char} (hblanks : ∀ c ∈ blanks, isBlank c = true) (h : Lexes tokens cs) :
    Lexes tokens (blanks ++ cs) := by
  induction blanks with
  | nil => exact h
  | cons c blanks ih =>
    rw [List.forall_mem_cons] at hblanks
    exact (ih hblanks.2).blank hblanks.1

/-- A lexical element stands in front of a text without a blank between. -/
theorem Lexes.next {token : Token} {front : List Char} (hfirst : token.SpelledBy front)
    (h : Lexes tokens cs) : Lexes (token :: tokens) (front ++ cs) :=
  .cons (List.forall_mem_nil _) hfirst h

/-- **Lexes.append**: lexical elements stand one after the other as their texts do. -/
theorem Lexes.append {others : List Token} {ds : List Char} (h : Lexes tokens cs) (hothers : Lexes others ds) :
    Lexes (tokens ++ others) (cs ++ ds) := by
  induction h with
  | nil hblanks => exact hothers.blanks hblanks
  | cons hblanks hfirst _ ih =>
    rw [List.append_assoc, List.append_assoc]
    exact .cons hblanks hfirst ih

theorem Lexes.endsNumeral (h : Lexes tokens cs) (hscalar : ∀ next ∈ tokens.head?, ¬next.IsScalar) :
    EndsNumeral cs := by
  cases h with
  | nil hblanks =>
    cases cs with
    | nil => exact endsNumeral_nil
    | cons c cs => exact endsNumeral_blank (hblanks c List.mem_cons_self) cs
  | @cons token tokens blanks front rest hblanks hfirst hrest =>
    cases blanks with
    | nil => exact hfirst.endsNumeral (hscalar token rfl) rest
    | cons c blanks => exact endsNumeral_blank (hblanks c List.mem_cons_self) _

theorem scan_blanks {blanks : List Char} (h : ∀ c ∈ blanks, isBlank c = true) (rest : List Char) :
    scan (blanks ++ rest) = scan rest := by
  induction blanks with
  | nil => rfl
  | cons c blanks ih =>
    rw [List.forall_mem_cons] at h
    rw [List.cons_append, scan, if_pos h.1, ih h.2]

/-- **lexes_scan**: if a reader gets past all lexical elements that are scanned, the text consists of them. -/
theorem lexes_scan (cs : List Char) (h : ∀ token ∈ scan cs, token.Met) : Lexes (scan cs) cs := by
  fun_induction scan cs with
  | case1 => exact .nil (List.forall_mem_nil _)
  | case2 c rest hblank ih => exact (ih h).blank hblank
  | case3 c rest hblank found ih =>
    rw [List.forall_mem_cons] at h
    obtain ⟨front, hfront, hcs⟩ := next_sound rfl h.1
    rw [hcs]
    exact (ih h.2).next hfront

/-- **scan_of_lexes**: a text in which no number stands next to another is scanned into the lexical elements of
which it consists. -/
theorem scan_of_lexes (h : Lexes tokens cs) (hparted : Parted tokens) : scan cs = tokens := by
  induction h with
  | @nil blanks hblanks =>
    have hscan := scan_blanks hblanks []
    rw [List.append_nil] at hscan
    rw [hscan, scan]
  | cons hblanks hfirst hrest ih =>
    obtain ⟨c, tail, rfl, hblank, hnext⟩ :=
      next_complete hfirst fun hscalar => hrest.endsNumeral (hparted.1 hscalar)
    rw [scan_blanks hblanks, List.cons_append, scan, if_neg (by rw [hblank]; exact Bool.false_ne_true),
      hnext]
    exact congrArg _ (ih hparted.2)

end

end ScopeTable.Json
