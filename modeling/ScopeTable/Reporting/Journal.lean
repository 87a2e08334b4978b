/-
# ScopeTable.Reporting.Journal -- what an analysis tells while it runs

Every event of an analysis is one record of the log, and every conflict is also one diagnostic, reported
right behind its record. What is written while the program runs are these records and diagnostics, in the
order of the events.
-/
import ScopeTable.Analysis.Walk
import ScopeTable.Reporting.Reporter

namespace ScopeTable

/-- The source of records about an analysis. -/
def analysisSource : String := "opal_lang_symbols::symbol_table::build"

/-! ## §A Events as records and diagnostics -/

namespace Event

/-- The record of an event. -/
def record : Event → LogRecord
  | started program =>
    ⟨.debug, analysisSource, "Building symbol table for program " ++ program.spelling⟩
  | classRegistered name => ⟨.debug, analysisSource, "Registered class " ++ name.spelling⟩
  | methodRegistered name => ⟨.debug, analysisSource, "Registered method " ++ name.spelling⟩
  | conflict found => ⟨.debug, analysisSource, "Declaration conflict: " ++ found.message⟩
  | fieldDeclared field =>
    ⟨.trace, analysisSource,
      "Declared field " ++ field.name.spelling ++ ": " ++ field.group.type.text⟩
  | fieldRepeated field =>
    ⟨.trace, analysisSource,
      "Field " ++ field.name.spelling ++ " on line " ++
        Decimal.integerText field.name.line.toNat ++ " is already declared"⟩
  | variableDeclared v =>
    ⟨.trace, analysisSource,
      "Declared " ++ v.kind.word ++ " " ++ v.name.spelling ++ ": " ++ v.type.text⟩

/-- The diagnostics of an event: one for a conflict. -/
def diagnostics (event : Event) : List (UInt64 × String) :=
  match event.conflict? with
  | some found => [(found.line, found.message)]
  | none => []

end Event

/-! ## §B What is written -/

/-- What is written while the program runs: a record of the log or a diagnostic. -/
inductive Notice where
  | logged (record : LogRecord)
  | reported (text : String)
  deriving DecidableEq, Repr

/-- What a notice leaves in a stream at a verbosity. A record is written only if it is admitted, and a
diagnostic always and as it is. -/
def Notice.written (verbosity : Verbosity) : Notice → String
  | .logged record => if verbosity.admits record.level then record.written else ""
  | .reported text => text ++ "\n"

/-- What is written about an event: its record and then its diagnostics. -/
def Event.notices (event : Event) : List Notice :=
  .logged event.record ::
    event.diagnostics.map fun report => .reported (diagnosticText report.1 report.2)

namespace Analysis

/-- The log of an analysis. -/
def log (analysis : Analysis) : List LogRecord := analysis.events.map Event.record

/-- The diagnostics of an analysis. -/
def diagnostics (analysis : Analysis) : List (UInt64 × String) :=
  analysis.events.flatMap Event.diagnostics

/-- The log and the diagnostics of an analysis in the order in which they come. -/
def notices (analysis : Analysis) : List Notice := analysis.events.flatMap Event.notices

end Analysis

end ScopeTable
