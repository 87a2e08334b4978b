/-
# ScopeTable.Language.Statement -- statements of the language

A statement assigns, branches, prints, loops or groups other statements. Equality is that of
expressions, carried through the structure.
-/
import ScopeTable.Language.Expression

namespace ScopeTable

/-! ## §A Nodes -/

/-- The assignment of a value to a variable. -/
structure Assignment where
  target : VariableAccess
  value : Expression

/-- The output of a value. -/
structure Print where
  value : Expression

mutual
/-- A statement. -/
inductive Statement where
  | assignment (step : Assignment)
  | conditional (choice : If)
  | print (output : Print)
  | loop (repeated : While)
  | compound (body : List Statement)
/-- A branch on a condition. -/
structure If where
  cond : Expression
  thenBranch : Statement
  elseBranch : Option Statement
/-- A loop that runs as long as its condition holds. -/
structure While where
  cond : Expression
  body : Statement
end

/-! ## §B Equality up to places -/

/-- Equality of assignments. -/
def Assignment.same (a b : Assignment) : Bool := a.target == b.target && a.value == b.value

instance : BEq Assignment := ⟨Assignment.same⟩

/-- Equality of print statements. -/
def Print.same (a b : Print) : Bool := a.value == b.value

instance : BEq Print := ⟨Print.same⟩

mutual
/-- Equality of statements. -/
def Statement.same : Statement → Statement → Bool
  | .assignment a, .assignment b => a == b
  | .conditional a, .conditional b => If.same a b
  | .print a, .print b => a == b
  | .loop a, .loop b => While.same a b
  | .compound as, .compound bs => Statement.sameList as bs
  | _, _ => false
/-- Equality of branches. -/
def If.same : If → If → Bool
  | ⟨cond₁, then₁, else₁⟩, ⟨cond₂, then₂, else₂⟩ =>
    cond₁ == cond₂ && Statement.same then₁ then₂ && Statement.sameOption else₁ else₂
/-- Equality of loops. -/
def While.same : While → While → Bool
  | ⟨cond₁, body₁⟩, ⟨cond₂, body₂⟩ => cond₁ == cond₂ && Statement.same body₁ body₂
/-- Equality of lists of statements. -/
def Statement.sameList : List Statement → List Statement → Bool
  | [], [] => true
  | a :: as, b :: bs => Statement.same a b && Statement.sameList as bs
  | _, _ => false
/-- Equality of statements that may be missing. -/
def Statement.sameOption : Option Statement → Option Statement → Bool
  | none, none => true
  | some a, some b => Statement.same a b
  | _, _ => false
end

instance : BEq Statement := ⟨Statement.same⟩
instance : BEq If := ⟨If.same⟩
instance : BEq While := ⟨While.same⟩

end ScopeTable
