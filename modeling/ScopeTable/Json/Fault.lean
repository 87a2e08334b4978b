/-
# ScopeTable.Json.Fault -- how a text fails to be JSON

There are two ways only: a character stands where the grammar has no use for it, or the text ends too
early. A literal is met by two kinds of reader. One wants its value; the other passes over it, asks
for less, and may get past a literal whose value cannot be had (a number beyond the range, half of a
surrogate pair).
-/

namespace ScopeTable.Json

/-- Why a text is no JSON: it goes wrong at some character, or it ends too early. -/
inductive Fault where
  | malformed
  | truncated
  deriving DecidableEq, Repr

/-- A literal as its readers meet it: `value` for one that wants the value, `passed` for one that only
passes over it. -/
structure Lexeme (α : Type) where
  value : Except Fault α
  passed : Except Fault Unit

namespace Lexeme

/-- A literal without fault. -/
def sound {α : Type} (a : α) : Lexeme α := ⟨.ok a, .ok ()⟩

/-- A literal that no reader gets past. -/
def broken {α : Type} (read passing : Fault) : Lexeme α := ⟨.error read, .error passing⟩

/-- The same literal with its value changed. -/
def map {α β : Type} (f : α → β) (lexeme : Lexeme α) : Lexeme β :=
  ⟨lexeme.value.map f, lexeme.passed⟩

end Lexeme

/-- **bind_eq_ok_iff**: a computation in two steps succeeds when both of its steps do. -/
theorem bind_eq_ok_iff {ε α β : Type} {first : Except ε α} {next : α → Except ε β} {b : β} :
    first >>= next = .ok b ↔ ∃ a, first = .ok a ∧ next a = .ok b := by
  cases first with
  | error e => simp [bind, Except.bind]
  | ok a => simp [bind, Except.bind]

end ScopeTable.Json
