/-
# ScopeTable.Reporting.Reporter -- where diagnostics go

A diagnostic is a line number and a message. A reporter takes diagnostics one at a time; it never fails and
never answers, so nothing that reports can depend on what becomes of a report. What a reporter has to say
about itself goes to the log.

A diagnostic is written in pieces, and a writer may fail at any of them. The reporter then gives this one
up, with a warning that has the error of the writer, and goes on with the next. What was written of it
remains.
-/
import ScopeTable.Decimal.Integer
import ScopeTable.Reporting.Log
import ScopeTable.Text.PieceWriter

namespace ScopeTable

open Text

/-- The text of a diagnostic. -/
def diagnosticText (line : UInt64) (message : String) : String :=
  Decimal.integerText line.toNat ++ ": " ++ message

/-- The pieces in which a diagnostic is written, on a line of its own. -/
def diagnosticPieces (line : UInt64) (message : String) : List String :=
  [Decimal.integerText line.toNat, ": ", message, "\n"]

theorem join_diagnosticPieces (line : UInt64) (message : String) :
    String.join (diagnosticPieces line message) = diagnosticText line message ++ "\n" := by
  simp [diagnosticPieces, diagnosticText, String.append_assoc]

/-! ## §A Reporters -/

/-- A sink for diagnostics: how it changes with a diagnostic, and what it adds to the log. -/
structure Reporter (σ : Type) where
  report : σ → UInt64 → String → σ × List LogRecord

/-- The source of records about reporting. -/
def reporterSource : String := "opal_lang_symbols::report"

namespace Reporter

/-- Keeps the texts of all diagnostics. -/
def collecting : Reporter (List String) :=
  ⟨fun texts line message => (texts ++ [diagnosticText line message], [])⟩

/-- The record about a diagnostic that could not be written. -/
def lostRecord (line : UInt64) (error : String) : LogRecord :=
  ⟨.warn, reporterSource,
    "Failed to write diagnostic for line " ++ Decimal.integerText line.toNat ++ ": " ++ error⟩

/-- Writes every diagnostic to a writer, on a line of its own. -/
def streaming {ω : Type} (out : PieceWriter ω String) : Reporter ω :=
  ⟨fun held line message =>
    match out.writeAll held (diagnosticPieces line message) with
    | (held, none) => (held, [])
    | (held, some error) => (held, [lostRecord line error])⟩

/-- Reports several diagnostics one after the other. -/
def reportAll {σ : Type} (reporter : Reporter σ) :
    σ → List (UInt64 × String) → σ × List LogRecord
  | state, [] => (state, [])
  | state, (line, message) :: rest =>
    let first := reporter.report state line message
    let others := reporter.reportAll first.1 rest
    (others.1, first.2 ++ others.2)

end Reporter

/-! ## §B Streams -/

/-- What comes of a write that fails: how many characters were taken first, and the error. -/
structure Refusal where
  taken : Nat
  error : String
  deriving DecidableEq, Repr

/-- A text that is written to, and what becomes of the coming writes: each is taken or refused. All writes
beyond those listed are taken. -/
structure Stream where
  text : String
  answers : List (Option Refusal)
  deriving DecidableEq, Repr

/-- The first characters of a text. -/
def firstOf (count : Nat) (text : String) : String := .ofList (text.toList.take count)

/-- Writes to a stream. For a piece without characters no write is made. -/
def Stream.writer : PieceWriter Stream String :=
  ⟨fun stream piece =>
    if piece = "" then (stream, none)
    else match stream.answers with
      | [] => (⟨stream.text ++ piece, []⟩, none)
      | none :: answers => (⟨stream.text ++ piece, answers⟩, none)
      | some refusal :: answers => (⟨stream.text ++ firstOf refusal.taken piece, answers⟩, some refusal.error)⟩

end ScopeTable
