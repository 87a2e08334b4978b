/-
# ScopeTable.Language.Ident -- names and where they stand

An identifier carries its spelling, the line it stands on and, if known, its span in the source text.
Only the spelling takes part in equality and hashing: two occurrences of a name are the same identifier
wherever they stand.
-/

namespace ScopeTable

/-- A stretch of source text in bytes, from `start` up to but without `stop`. -/
structure Span where
  start : UInt32
  stop : UInt32
  deriving DecidableEq, Repr

/-- A span runs forwards. Every span read from a tree does. -/
def Span.Ordered (span : Span) : Prop := span.start ≤ span.stop

instance (span : Span) : Decidable span.Ordered := inferInstanceAs (Decidable (_ ≤ _))

/-- An occurrence of a name. -/
structure Ident where
  spelling : String
  line : UInt64
  span : Option Span
  deriving DecidableEq, Repr

namespace Ident

/-- An identifier of which the span is not known. -/
def new (spelling : String) (line : UInt64) : Ident := ⟨spelling, line, none⟩

/-- The same occurrence with its span. -/
def withSpan (name : Ident) (span : Span) : Ident := { name with span := some span }

/-- Identifiers are equal when they are spelled alike. -/
def same (a b : Ident) : Bool := a.spelling == b.spelling

instance : BEq Ident := ⟨Ident.same⟩

instance : Hashable Ident := ⟨fun name => hash name.spelling⟩

end Ident

/-! ## Spans as labels -/

/-- A marked place in a source text, as a report shows it. -/
structure Label where
  offset : Nat
  length : Nat
  deriving DecidableEq, Repr

/-- The label of a span. Its length is counted in a 64-bit word without sign. -/
def Span.label (span : Span) : Label :=
  { offset := span.start.toNat
    length := (span.stop.toUInt64 - span.start.toUInt64).toNat }

end ScopeTable
