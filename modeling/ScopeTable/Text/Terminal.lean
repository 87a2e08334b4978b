/-
# ScopeTable.Text.Terminal -- a text without what only a terminal understands

An escape character begins a sequence that a terminal obeys and does not show: it moves the cursor, colours
what follows, names the window. How such a sequence ends depends on how it begins, and one that does not end
reaches to the end of the text. A text that is not meant for a terminal is written without its sequences, and
without all other controls except those that lay out a page.

The reader of sequences is a machine over characters. It keeps whether it is showing characters apart from
where it is in a sequence, because a layout control inside a sequence is shown, and so are the characters
right behind it; the sequence goes on after them.
-/

namespace ScopeTable.Text

/-! ## §A Characters -/

/-- Whether a character lies between two code points, both included. -/
def isWithin (low high : Nat) (c : Char) : Bool := low ≤ c.toNat && c.toNat ≤ high

/-- The controls that lay out a page: the tabulator, and the ends of lines and pages. -/
def isLayout (c : Char) : Bool := c = '\t' || c = '\n' || c = '\x0c' || c = '\r'

/-- Whether a character stands for itself outside of every sequence. All beyond ASCII do. -/
def isShown (c : Char) : Bool := isLayout c || isWithin 0x20 0x7E c || 0x80 ≤ c.toNat

/-- Whether one of the bytes of a character is the terminator of strings. -/
def bearsTerminator (c : Char) : Bool := (String.utf8EncodeChar c).contains 0x9C

/-! ## §B Sequences -/

/-- Where a reader is in a sequence. -/
inductive TerminalMode where
  /-- Outside of every sequence. -/
  | ground
  /-- Behind the escape character. -/
  | escape
  /-- Behind a selector of a short sequence. -/
  | selected
  /-- Among the parameters of a control sequence. -/
  | parameters
  /-- At the beginning of a device string. -/
  | device
  /-- Among the parameters of a device string. -/
  | deviceParameters
  /-- Behind a selector of a device string. -/
  | deviceSelected
  /-- In the body of a string. -/
  | body
  /-- In a string for the system, such as the name of the window. -/
  | title
  deriving DecidableEq, Repr

namespace TerminalMode

/-- The mode behind a character, by what the character means in the mode. -/
def next : TerminalMode → Char → TerminalMode
  | ground, _ => ground
  | escape, c =>
    if c = '[' then parameters
    else if c = ']' then title
    else if c = 'P' then device
    else if c = 'X' || c = '^' || c = '_' then body
    else if isWithin 0x20 0x2F c then selected
    else if isWithin 0x30 0x7E c then ground
    else escape
  | selected, c => if isWithin 0x30 0x7E c then ground else selected
  | parameters, c => if isWithin 0x40 0x7E c then ground else parameters
  | device, c =>
    if isWithin 0x20 0x2F c then deviceSelected
    else if isWithin 0x30 0x3F c then deviceParameters
    else if isWithin 0x40 0x7E c then body
    else device
  | deviceParameters, c =>
    if isWithin 0x20 0x2F c then deviceSelected
    else if isWithin 0x3C 0x7E c then body
    else deviceParameters
  | deviceSelected, c => if isWithin 0x30 0x7E c then body else deviceSelected
  | body, c => if bearsTerminator c then ground else body
  | title, c => if c = '\x07' then ground else title

/-- The mode behind a character. An escape begins a new sequence wherever it stands, and the controls that
cancel and substitute end every one. -/
def after (mode : TerminalMode) (c : Char) : TerminalMode :=
  if c = '\x1b' then escape
  else if c = '\x18' || c = '\x1a' then ground
  else mode.next c

/-- Whether a character is shown in a mode. -/
def shows : TerminalMode → Char → Bool
  | ground, c => isShown c
  | escape, c => isLayout c
  | selected, c => isLayout c
  | parameters, c => isLayout c
  | device, _ => false
  | deviceParameters, _ => false
  | deviceSelected, _ => false
  | body, _ => false
  | title, _ => false

/-- What is shown of a text, given the mode in front of it and whether the last character was shown.
A character behind a shown one is judged as outside of the sequence that is interrupted; one beyond ASCII
breaks the sequence off. -/
def shownOf : TerminalMode → Bool → List Char → List Char
  | _, _, [] => []
  | mode, showing, c :: cs =>
    if showing && isShown c then
      c :: shownOf (if c.toNat < 0x80 then mode else ground) true cs
    else if mode.shows c then c :: shownOf (mode.after c) true cs
    else shownOf (mode.after c) false cs

end TerminalMode

/-- A text without its sequences and without the controls that lay out nothing. -/
def withoutSequences (s : String) : String :=
  .ofList (TerminalMode.ground.shownOf false s.toList)

end ScopeTable.Text
