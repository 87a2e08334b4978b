/-
# ScopeTable.Proofs.Json.Spelling -- the grammar of JSON texts

Which texts spell which trees, without a scanner and without a machine: numbers and strings by their parts,
lexical elements by what they are made of, and a tree by its lexical elements in order, with blanks wherever
one likes. A tree that is spelled is `Complete`: every array and object is closed and every key is a string.

Two kinds of literals are JSON and yet have no value: a number beyond the range, and a string with half of a
surrogate pair. The grammar has them too, as literals that can only be passed over.
-/
import ScopeTable.Json.Document

namespace ScopeTable.Json

/-! ## §A Numbers -/

/-- Decimal digits, at least one. -/
def Digits (ds : List Char) : Prop := ds ≠ [] ∧ ∀ d ∈ ds, d.isDigit = true

/-- The digits before the point: a zero stands alone. -/
def WholeDigits (ds : List Char) : Prop := Digits ds ∧ ¬(ds.head? = some '0' ∧ ds.length ≠ 1)

/-- The sign of an exponent, and whether it is a minus. -/
inductive SignSpelling : Bool → List Char → Prop where
  | none : SignSpelling false []
  | plus : SignSpelling false ['+']
  | minus : SignSpelling true ['-']

/-- A fraction, or none. -/
inductive FractionSpelling : Option (List Char) → List Char → Prop where
  | none : FractionSpelling none []
  | some {ds : List Char} (h : Digits ds) : FractionSpelling (some ds) ('.' :: ds)

/-- An exponent, or none. -/
inductive ExponentSpelling : Option Exponent → List Char → Prop where
  | none : ExponentSpelling none []
  | some {letter : Char} {negative : Bool} {sign ds : List Char} (hletter : letter = 'e' ∨ letter = 'E')
    (hsign : SignSpelling negative sign) (h : Digits ds) :
    ExponentSpelling (some ⟨negative, ds⟩) (letter :: (sign ++ ds))

/-- The minus of a number, if it has one. -/
def minusOf (negative : Bool) : List Char := if negative then ['-'] else []

/-- The text spells the numeral. -/
inductive Numeral.SpelledBy : Numeral → List Char → Prop where
  | mk {negative : Bool} {whole fractionText exponentText : List Char} {fraction : Option (List Char)}
    {exponent : Option Exponent} (hwhole : WholeDigits whole)
    (hfraction : FractionSpelling fraction fractionText)
    (hexponent : ExponentSpelling exponent exponentText) :
    SpelledBy ⟨negative, whole, fraction, exponent⟩
      (minusOf negative ++ (whole ++ (fractionText ++ exponentText)))

/-- The numeral is a whole number: it has neither fraction nor exponent, and the number its digits make fits
into 64 bits, with sign if there is a minus. A zero with a minus is none. -/
inductive Numeral.IsWhole : Numeral → Number → Prop where
  | natural {whole : List Char} {n : UInt64} (h : Nat.ofDigitChars 10 whole 0 = n.toNat) :
    IsWhole ⟨false, whole, none, none⟩ (.natural n)
  | negative {whole : List Char} {n : Int64} (hneg : n < 0)
    (h : -(Nat.ofDigitChars 10 whole 0 : Int) = n.toInt) :
    IsWhole ⟨true, whole, none, none⟩ (.negative n)

/-! ## §B Strings -/

/-- The text spells the unit: a character stands for itself, if it is neither a quote nor a backslash nor a
control character, or is escaped; a 16-bit unit is spelled by its number. -/
inductive TextUnit.SpelledBy : TextUnit → List Char → Prop where
  | plain {c : Char} (hquote : c ≠ '"') (hbackslash : c ≠ '\\') (hcontrol : ¬c < ' ') :
    SpelledBy (.char c) [c]
  | escape {e c : Char} (h : escaped? e = some c) : SpelledBy (.char c) ['\\', e]
  | code {a b c d : Char} {n : Nat} (h : hexNumber? [a, b, c, d] = some n) :
    SpelledBy (.code n) ['\\', 'u', a, b, c, d]

/-- The units make up the text: a unit by its number is a character of that number, and two that are the
halves of a surrogate pair are one character. -/
inductive MakeUp : List TextUnit → List Char → Prop where
  | nil : MakeUp [] []
  | char {c : Char} {units : List TextUnit} {cs : List Char} (h : MakeUp units cs) :
    MakeUp (.char c :: units) (c :: cs)
  | code {n : Nat} {units : List TextUnit} {cs : List Char} (hn : n < 0xD800 ∨ 0xDFFF < n)
    (h : MakeUp units cs) : MakeUp (.code n :: units) (Char.ofNat n :: cs)
  | pair {high low : Nat} {units : List TextUnit} {cs : List Char}
    (hhigh : 0xD800 ≤ high ∧ high ≤ 0xDBFF) (hlow : 0xDC00 ≤ low ∧ low ≤ 0xDFFF)
    (h : MakeUp units cs) :
    MakeUp (.code high :: .code low :: units)
      (Char.ofNat (0x10000 + (high - 0xD800) * 0x400 + (low - 0xDC00)) :: cs)

/-- The text spells the units, one after the other. -/
inductive UnitsSpelledBy : List TextUnit → List Char → Prop where
  | nil : UnitsSpelledBy [] []
  | cons {u : TextUnit} {units : List TextUnit} {front rest : List Char} (hfirst : u.SpelledBy front)
    (hrest : UnitsSpelledBy units rest) : UnitsSpelledBy (u :: units) (front ++ rest)

/-! ## §C Lexical elements -/

/-- The text spells the lexical element. A number that is not whole is what the library makes of it, if that is
in the range of the reals. -/
inductive Token.SpelledBy : Token → List Char → Prop where
  | openBrace : SpelledBy .openBrace ['\x7b']
  | closeBrace : SpelledBy .closeBrace ['\x7d']
  | openBracket : SpelledBy .openBracket ['[']
  | closeBracket : SpelledBy .closeBracket [']']
  | colon : SpelledBy .colon [':']
  | comma : SpelledBy .comma [',']
  | null : SpelledBy (.nothing (.sound ())) ['n', 'u', 'l', 'l']
  | true : SpelledBy (.scalar (.sound (.boolean true))) ['t', 'r', 'u', 'e']
  | false : SpelledBy (.scalar (.sound (.boolean false))) ['f', 'a', 'l', 's', 'e']
  | whole {m : Numeral} {n : Number} {cs : List Char} (h : m.SpelledBy cs) (hn : m.IsWhole n) :
    SpelledBy (.scalar (.sound (.number n))) cs
  | real {m : Numeral} {x : Except Fault Float} {cs : List Char} (h : m.SpelledBy cs)
    (hother : ∀ n, ¬m.IsWhole n) (hx : m.value = x.map .real) :
    SpelledBy (.scalar ⟨x.map fun x => .number (.real x), .ok ()⟩) cs
  | text {units : List TextUnit} {s : String} {cs : List Char} (h : UnitsSpelledBy units cs)
    (hs : MakeUp units s.toList) : SpelledBy (.text (.sound s)) ('"' :: (cs ++ ['"']))
  | unpaired {units : List TextUnit} {cs : List Char} (h : UnitsSpelledBy units cs)
    (hnone : ∀ text, ¬MakeUp units text) :
    SpelledBy (.text ⟨.error .malformed, .ok ()⟩) ('"' :: (cs ++ ['"']))

/-- The text is a sequence of the lexical elements, with blanks before, between and behind them. -/
inductive Lexes : List Token → List Char → Prop where
  | nil {blanks : List Char} (h : ∀ c ∈ blanks, Token.isBlank c = true) : Lexes [] blanks
  | cons {token : Token} {tokens : List Token} {blanks front rest : List Char}
    (hblanks : ∀ c ∈ blanks, Token.isBlank c = true) (hfirst : token.SpelledBy front)
    (hrest : Lexes tokens rest) : Lexes (token :: tokens) (blanks ++ (front ++ rest))

/-! ## §D Trees -/

/-- A reader gets past the literal: one that wants its value, or one that does not. -/
def Lexeme.Met {α : Type} (lexeme : Lexeme α) : Prop :=
  (∃ a, lexeme.value = .ok a) ∨ lexeme.passed = .ok ()

/-- A tree without fault: a reader gets past every literal, arrays and objects end with their bracket, and all
keys are strings. -/
inductive Complete : Json → Prop where
  | nothing {lexeme : Lexeme Unit} (h : lexeme.Met) : Complete (.nothing lexeme)
  | scalar {lexeme : Lexeme Scalar} (h : lexeme.Met) : Complete (.scalar lexeme)
  | text {lexeme : Lexeme String} (h : lexeme.Met) : Complete (.text lexeme)
  | array {items : List Json} (h : ∀ item ∈ items, Complete item) : Complete (.array items (.ok ()))
  | object {members : List Member}
    (hkeys : ∀ m ∈ members, ∃ lexeme : Lexeme String, m.key = .text lexeme ∧ lexeme.Met)
    (hvalues : ∀ m ∈ members, Complete m.value) : Complete (.object members (.ok ()))

mutual
/-- The lexical elements of a tree. -/
def tokens : Json → List Token
  | .absent _ => []
  | .nothing lexeme => [.nothing lexeme]
  | .scalar lexeme => [.scalar lexeme]
  | .text lexeme => [.text lexeme]
  | .array items _ => .openBracket :: itemTokens items
  | .object members _ => .openBrace :: memberTokens members
/-- The lexical elements of the items of an array and of its closing bracket. -/
def itemTokens : List Json → List Token
  | [] => [.closeBracket]
  | [item] => tokens item ++ [.closeBracket]
  | item :: items => tokens item ++ .comma :: itemTokens items
/-- The lexical elements of the members of an object and of its closing brace. -/
def memberTokens : List Member → List Token
  | [] => [.closeBrace]
  | [.mk key value] => tokens key ++ .colon :: (tokens value ++ [.closeBrace])
  | .mk key value :: members =>
    tokens key ++ .colon :: (tokens value ++ .comma :: memberTokens members)
end

/-- The text spells the tree. -/
structure SpelledBy (j : Json) (cs : List Char) : Prop where
  complete : j.Complete
  lexes : Lexes j.tokens cs

end ScopeTable.Json
