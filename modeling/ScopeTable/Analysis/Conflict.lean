/-
# ScopeTable.Analysis.Conflict -- two declarations of one name

A conflict records the declaration that is rejected: where it stands, and against which one. A class that
is declared again is left out as a whole, so the table stays sound without it; every other conflict makes
the table useless.
-/
import ScopeTable.Decimal.Integer
import ScopeTable.Language.Ident

namespace ScopeTable

/-- What is declared twice. -/
inductive Redeclared where
  | ofClass
  | ofMethod
  | ofVariable
  deriving DecidableEq, Repr

/-- A rejected declaration. -/
structure Conflict where
  what : Redeclared
  name : String
  firstLine : UInt64
  line : UInt64
  label : Option Label
  deriving DecidableEq, Repr

namespace Conflict

/-- The word for what is declared twice. -/
def word (conflict : Conflict) : String :=
  match conflict.what with
  | .ofClass => "class"
  | .ofMethod => "function"
  | .ofVariable => "variable"

/-- The code of a conflict. -/
def code (conflict : Conflict) : String :=
  match conflict.what with
  | .ofClass => "D-001"
  | .ofMethod => "D-002"
  | .ofVariable => "D-003"

/-- The text of a conflict. -/
def message (conflict : Conflict) : String :=
  conflict.word ++ " \"" ++ conflict.name ++ "\" already declared at line " ++
    Decimal.integerText conflict.firstLine.toNat

/-- Whether a conflict makes the table useless. -/
def fails (conflict : Conflict) : Bool :=
  match conflict.what with
  | .ofClass => false
  | .ofMethod => true
  | .ofVariable => true

/-- The text beside the label of a conflict. -/
def labelText : String := "redeclared here"

/-- The conflict about an identifier: it stands where the rejected identifier stands. -/
def ofRejected (what : Redeclared) (name : String) (firstLine : UInt64) (rejected : Ident) : Conflict :=
  { what
    name
    firstLine
    line := rejected.line
    label := rejected.span.map Span.label }

end Conflict

end ScopeTable
