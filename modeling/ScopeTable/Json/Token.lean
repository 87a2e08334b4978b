/-
# ScopeTable.Json.Token -- the lexical elements of a JSON text

A text is cut into punctuation, scalars and strings. Scanning goes on past a literal whose value cannot
be had but which can be passed over; it ends at the first character that begins no element and at the
first literal that no reader gets past, because nothing behind them can be asked for.
-/
import ScopeTable.Json.Numeral

namespace ScopeTable.Json

/-! ## §A Strings -/

/-- One element of a string: a character, or a 16-bit unit written by its number. -/
inductive TextUnit where
  | char (c : Char)
  | code (n : Nat)
  deriving DecidableEq, Repr

/-- The value of a hexadecimal digit. -/
def hexValue? (c : Char) : Option Nat :=
  if c.isDigit then some (c.toNat - '0'.toNat)
  else if 'a' ≤ c ∧ c ≤ 'f' then some (c.toNat - 'a'.toNat + 10)
  else if 'A' ≤ c ∧ c ≤ 'F' then some (c.toNat - 'A'.toNat + 10)
  else none

/-- The number spelled by four hexadecimal digits. -/
def hexNumber? (cs : List Char) : Option Nat :=
  cs.foldl (fun n c => do some ((← n) * 16 + (← hexValue? c))) (some 0)

/-- How many bytes a text takes in UTF-8. -/
def byteCount : List Char → Nat
  | [] => 0
  | c :: cs => c.utf8Size + byteCount cs

/-- The unit behind `\u`. Fewer than four bytes up to the end of the text are a text that ends too early,
whatever they are. -/
def scanHex : List Char → Except Fault (TextUnit × List Char)
  | a :: b :: c :: d :: rest =>
    match hexNumber? [a, b, c, d] with
    | some n => .ok (.code n, rest)
    | none => .error .malformed
  | cs => .error (if byteCount cs < 4 then .truncated else .malformed)

/-- The character that a letter behind a backslash stands for. -/
def escaped? : Char → Option Char
  | '"' => some '"'
  | '\\' => some '\\'
  | '/' => some '/'
  | 'b' => some '\x08'
  | 'f' => some '\x0c'
  | 'n' => some '\n'
  | 'r' => some '\r'
  | 't' => some '\t'
  | _ => none

/-- The unit at the beginning of a text which is neither empty nor a quote, and the rest. -/
def scanUnit (c : Char) (rest : List Char) : Except Fault (TextUnit × List Char) :=
  if c = '\\' then
    match rest with
    | [] => .error .truncated
    | 'u' :: rest => scanHex rest
    | e :: rest =>
      match escaped? e with
      | some c => .ok (.char c, rest)
      | none => .error .malformed
  else if c < ' ' then .error .malformed
  else .ok (.char c, rest)

theorem scanHex_length {cs rest : List Char} {u : TextUnit} (h : scanHex cs = .ok (u, rest)) :
    rest.length ≤ cs.length := by
  unfold scanHex at h
  split at h
  · split at h
    · cases h
      simp only [List.length_cons]
      omega
    · cases h
  · cases h

theorem scanUnit_length {c : Char} {cs rest : List Char} {u : TextUnit}
    (h : scanUnit c cs = .ok (u, rest)) : rest.length ≤ cs.length := by
  unfold scanUnit at h
  split at h
  · split at h
    · cases h
    · have := scanHex_length h
      simp only [List.length_cons]
      omega
    · split at h
      · cases h
        simp only [List.length_cons]
        omega
      · cases h
  · split at h
    · cases h
    · cases h
      exact Nat.le_refl _

/-- The units up to the closing quote, and either what follows it or the fault that keeps it away. -/
def scanUnits (cs : List Char) : List TextUnit × Except Fault (List Char) :=
  match cs with
  | [] => ([], .error .truncated)
  | c :: cs =>
    if c = '"' then ([], .ok cs)
    else
      match _h : scanUnit c cs with
      | .error fault => ([], .error fault)
      | .ok (unit, rest) =>
        let (units, ending) := scanUnits rest
        (unit :: units, ending)
termination_by cs.length
decreasing_by
  have := scanUnit_length _h
  simp only [List.length_cons]
  omega

/-- The text that units spell when they are followed by `ending`: a pair of surrogates is one character,
and a surrogate alone is none. A leading one cut off by a fault meets that fault. -/
def joinUnits (ending : Except Fault Unit) : List TextUnit → Except Fault (List Char)
  | [] => ending.map fun _ => []
  | .char c :: units => (joinUnits ending units).map (c :: ·)
  | .code n :: units =>
    if 0xDC00 ≤ n ∧ n ≤ 0xDFFF then .error .malformed
    else if 0xD800 ≤ n ∧ n ≤ 0xDBFF then
      match units with
      | .code m :: units =>
        if 0xDC00 ≤ m ∧ m ≤ 0xDFFF then
          (joinUnits ending units).map
            (Char.ofNat (0x10000 + (n - 0xD800) * 0x400 + (m - 0xDC00)) :: ·)
        else .error .malformed
      | .char _ :: _ => .error .malformed
      | [] =>
        match ending with
        | .error fault => .error fault
        | .ok () => .error .malformed
    else (joinUnits ending units).map (Char.ofNat n :: ·)

/-! ## §B Words -/

/-- The values without structure, `null` apart. -/
inductive Scalar where
  | boolean (b : Bool)
  | number (n : Number)

/-- What follows a word of which the given letters are still to come. -/
def scanWord : List Char → List Char → Except Fault (List Char)
  | [], rest => .ok rest
  | _ :: _, [] => .error .truncated
  | w :: ws, c :: cs => if c = w then scanWord ws cs else .error .malformed

/-! ## §C Tokens -/

/-- The lexical elements. `nothing` is the word `null`. A stray character begins none. -/
inductive Token where
  | openBrace
  | closeBrace
  | openBracket
  | closeBracket
  | colon
  | comma
  | nothing (lexeme : Lexeme Unit)
  | scalar (lexeme : Lexeme Scalar)
  | text (lexeme : Lexeme String)
  | stray

namespace Token

/-- The blanks that separate lexical elements. -/
def isBlank (c : Char) : Bool := c = ' ' || c = '\t' || c = '\n' || c = '\r'

/-- A word as an element, given its letters after the first and its value. -/
def ofWord {α : Type} (element : Lexeme α → Token) (letters : List Char) (value : α)
    (rest : List Char) : Token × List Char :=
  match scanWord letters rest with
  | .ok rest => (element (.sound value), rest)
  | .error fault => (element (.broken fault fault), [])

/-- A number, whose first character is part of the given text. A reader that passes over it takes every
number that breaks off for malformed. -/
def ofNumber (cs : List Char) : Token × List Char :=
  match Numeral.scan cs with
  | .ok (numeral, rest) => (.scalar ⟨numeral.value.map .number, .ok ()⟩, rest)
  | .error fault => (.scalar (.broken fault .malformed), [])

/-- A string, whose opening quote stands before the given text. -/
def ofQuote (cs : List Char) : Token × List Char :=
  match scanUnits cs with
  | (units, .ok rest) => (.text ⟨(joinUnits (.ok ()) units).map String.ofList, .ok ()⟩, rest)
  | (units, .error fault) =>
    (.text ⟨(joinUnits (.error fault) units).map String.ofList, .error fault⟩, [])

/-- The lexical element that begins with a character which is no blank, and what follows it. -/
def next (c : Char) (rest : List Char) : Token × List Char :=
  match c with
  | '\x7b' => (openBrace, rest)
  | '\x7d' => (closeBrace, rest)
  | '[' => (openBracket, rest)
  | ']' => (closeBracket, rest)
  | ':' => (colon, rest)
  | ',' => (comma, rest)
  | '"' => ofQuote rest
  | 'n' => ofWord nothing ['u', 'l', 'l'] () rest
  | 't' => ofWord scalar ['r', 'u', 'e'] (.boolean true) rest
  | 'f' => ofWord scalar ['a', 'l', 's', 'e'] (.boolean false) rest
  | c => if c = '-' || c.isDigit then ofNumber (c :: rest) else (stray, [])

/-! ## §D Scanning makes progress -/

theorem scanWord_length {ws cs rest : List Char} (h : scanWord ws cs = .ok rest) :
    rest.length ≤ cs.length := by
  induction ws generalizing cs with
  | nil => cases h; exact Nat.le_refl _
  | cons w ws ih =>
    cases cs with
    | nil => cases h
    | cons c cs =>
      simp only [scanWord] at h
      split at h
      · exact Nat.le_succ_of_le (ih h)
      · cases h

theorem ofWord_length {α : Type} (element : Lexeme α → Token) (letters : List Char) (value : α)
    (rest : List Char) : (ofWord element letters value rest).2.length ≤ rest.length := by
  unfold ofWord
  split
  · next h => exact scanWord_length h
  · exact Nat.zero_le _

theorem ofNumber_length (c : Char) (cs : List Char) :
    (ofNumber (c :: cs)).2.length ≤ cs.length := by
  unfold ofNumber
  split
  · next h =>
    have := Numeral.scan_length h
    simp only [List.length_cons] at this
    exact Nat.le_of_lt_succ this
  · exact Nat.zero_le _

theorem scanUnits_length {cs rest : List Char} {units : List TextUnit}
    (h : scanUnits cs = (units, .ok rest)) : rest.length ≤ cs.length := by
  fun_induction scanUnits cs generalizing units with
  | case1 => cases h
  | case2 cs => cases h; exact Nat.le_succ _
  | case3 => cases h
  | case4 c cs _ unit rest' hu units' ending hs ih =>
    cases h
    have := ih hs
    have := scanUnit_length hu
    simp only [List.length_cons]
    omega

theorem ofQuote_length (cs : List Char) : (ofQuote cs).2.length ≤ cs.length := by
  unfold ofQuote
  split
  · next h => exact scanUnits_length h
  · exact Nat.zero_le _

/-- **next_length**: a lexical element takes at least its first character. -/
theorem next_length (c : Char) (rest : List Char) : (next c rest).2.length ≤ rest.length := by
  unfold next
  split <;> first
    | exact Nat.le_refl _
    | exact ofQuote_length rest
    | exact ofWord_length _ _ _ rest
    | skip
  split
  · exact ofNumber_length _ rest
  · exact Nat.zero_le _

/-- The lexical elements of a text, up to the first that no reader gets past. -/
def scan (cs : List Char) : List Token :=
  match cs with
  | [] => []
  | c :: rest =>
    if isBlank c then scan rest
    else
      let found := next c rest
      found.1 :: scan found.2
termination_by cs.length
decreasing_by
  · simp
  · have := next_length c rest
    simp only [List.length_cons]
    omega

end Token

end ScopeTable.Json
