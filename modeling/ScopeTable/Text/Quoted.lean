/-
# ScopeTable.Text.Quoted -- texts between quotation marks in a message

A message shows a text it speaks of between double quotes, so that its ends and its invisible
characters can be seen: the quote, the backslash and the usual controls by a backslash and a letter,
every other character without an image of its own by its code point in hexadecimal.
-/
import ScopeTable.Text.HiddenTable

namespace ScopeTable.Text

/-- The lower-case hexadecimal digits of a number, without leading zeros. -/
def hexDigits (n : Nat) : List Char := Nat.toDigits 16 n

/-- A character as it stands between double quotes. -/
def quotedChar (c : Char) : List Char :=
  match c with
  | '\x00' => ['\\', '0']
  | '\t' => ['\\', 't']
  | '\n' => ['\\', 'n']
  | '\r' => ['\\', 'r']
  | '"' => ['\\', '"']
  | '\\' => ['\\', '\\']
  | c => if hiddenChars.contains c then ['\\', 'u', '\x7b'] ++ hexDigits c.toNat ++ ['\x7d'] else [c]

/-- A text between double quotes. -/
def quoted (s : String) : String := String.ofList ('"' :: s.toList.flatMap quotedChar ++ ['"'])

end ScopeTable.Text
