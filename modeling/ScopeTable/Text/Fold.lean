/-
# ScopeTable.Text.Fold -- the spelling under which names are compared

Two names are the same name when their folds are equal, and the fold of a name is its lower-case form
by the full rules of the Unicode standard: every character by the table, the dotted capital I as two
characters, and the capital sigma by its place in the word (a final sigma at the end of a word, a
plain one elsewhere).
-/
import ScopeTable.Text.CaseTable

namespace ScopeTable.Text

/-! ## §A Single characters -/

/-- Whether a character has case. -/
def isCased (c : Char) : Bool := casedLetters.contains c

/-- Whether a character does not interrupt a word for the rule of the final sigma. -/
def isCaseIgnorable (c : Char) : Bool := caseIgnorable.contains c

/-- The small letter of a character, if that is one character; the character itself if it has none. -/
def smallLetterOf (c : Char) : Char := Char.ofNat (smallLetter capitalRuns c.toNat)

/-- The lower-case form of a character away from any word. Only the dotted capital I becomes two. -/
def lowerChar (c : Char) : List Char :=
  if c = 'İ' then ['i', '\u0307'] else [smallLetterOf c]

/-! ## §B The capital sigma -/

/-- Whether a letter comes next, once the characters that do not interrupt a word are skipped. -/
def meetsLetter (cs : List Char) : Bool :=
  match cs.dropWhile isCaseIgnorable with
  | [] => false
  | c :: _ => isCased c

/-- The small form of a capital sigma, given what stands before it, nearest first, and after it. -/
def lowerSigma (before after : List Char) : Char :=
  if meetsLetter before && !meetsLetter after then 'ς' else 'σ'

/-! ## §C Whole texts -/

/-- The lower-case form of the characters after `before`, which is listed nearest first. -/
def foldAfter (before : List Char) : List Char → List Char
  | [] => []
  | c :: cs =>
    (if c = 'Σ' then [lowerSigma before cs] else lowerChar c) ++ foldAfter (c :: before) cs

/-- The spelling under which a name is compared: its lower-case form. -/
def fold (name : String) : String := String.ofList (foldAfter [] name.toList)

end ScopeTable.Text
