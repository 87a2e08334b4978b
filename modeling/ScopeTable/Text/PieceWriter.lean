/-
# ScopeTable.Text.PieceWriter -- texts that are written piece by piece

A formatted text comes to a writer in pieces: the words of the format, and what is filled in between them. A
piece can fail. Then the pieces behind it are not written, and those before it are not taken back.

Nothing is assumed of a writer. `PieceWriter.write` says how it changes with a piece and whether the piece
fails; one that fails may have left any part of itself behind. A text in memory is a writer on which nothing
fails.
-/

namespace ScopeTable.Text

/-- Something that pieces of text are written to: how it changes with a piece, and the error if the piece
fails. -/
structure PieceWriter (ω ε : Type) where
  write : ω → String → ω × Option ε

namespace PieceWriter

variable {ω ε : Type}

/-- Writes pieces one after the other, up to the first that fails. -/
def writeAll (out : PieceWriter ω ε) : ω → List String → ω × Option ε
  | held, [] => (held, none)
  | held, piece :: pieces =>
    match out.write held piece with
    | (held, none) => out.writeAll held pieces
    | (held, some e) => (held, some e)

/-- A text in memory. Every piece is added to it, so there are no errors. -/
def string : PieceWriter String Empty := ⟨fun text piece => (text ++ piece, none)⟩

/-- **writeAll_string**: a text in memory takes all the pieces. -/
theorem writeAll_string (text : String) (pieces : List String) :
    string.writeAll text pieces = (text ++ String.join pieces, none) := by
  induction pieces generalizing text with
  | nil => simp [writeAll]
  | cons piece pieces ih =>
    rw [String.join_cons, ← String.append_assoc]
    exact ih (text ++ piece)

end PieceWriter

end ScopeTable.Text
