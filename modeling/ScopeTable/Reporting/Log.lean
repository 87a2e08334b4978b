/-
# ScopeTable.Reporting.Log -- records of what the program does

A record has a level, the part of the program it comes from and a message. How much is shown is a
verbosity: nothing, or everything up to a level. A record is written without the sequences that only a
terminal understands.
-/
import ScopeTable.Text.Terminal

namespace ScopeTable

/-- The levels of records, the gravest first. -/
inductive Level where
  | error
  | warn
  | info
  | debug
  | trace
  deriving DecidableEq, Repr

namespace Level

/-- The place of a level, counted from the gravest. -/
def rank : Level → Nat
  | error => 1
  | warn => 2
  | info => 3
  | debug => 4
  | trace => 5

/-- The name of a level. -/
def word : Level → String
  | error => "ERROR"
  | warn => "WARN"
  | info => "INFO"
  | debug => "DEBUG"
  | trace => "TRACE"

/-- All levels. -/
def all : List Level := [error, warn, info, debug, trace]

end Level

/-- How much of the log is shown. -/
inductive Verbosity where
  | off
  | upTo (level : Level)
  deriving DecidableEq, Repr

namespace Verbosity

/-- Whether records of a level are shown. -/
def admits : Verbosity → Level → Bool
  | off, _ => false
  | upTo most, level => level.rank ≤ most.rank

/-- The name of a verbosity. -/
def word : Verbosity → String
  | off => "OFF"
  | upTo level => level.word

/-- All verbosities. -/
def all : List Verbosity := off :: Level.all.map upTo

/-- The verbosity of the given name, in capitals. -/
def ofWord? (name : String) : Option Verbosity := all.find? fun v => v.word == name

end Verbosity

/-- A record of the log. -/
structure LogRecord where
  level : Level
  source : String
  message : String
  deriving DecidableEq, Repr

namespace LogRecord

/-- The text of a record: its level in five columns, its source, its message. The lines of a message
after the first are indented. -/
def text (record : LogRecord) : String :=
  "[" ++ record.level.word ++
    String.ofList (List.replicate (5 - record.level.word.length) ' ') ++ " " ++
    record.source ++ "] " ++
    String.ofList (record.message.toList.flatMap fun c =>
      if c = '\n' then ['\n', ' ', ' ', ' ', ' '] else [c])

/-- The record as it is written. The break at its end is part of it, so a sequence that does not end takes
the break along. -/
def written (record : LogRecord) : String := Text.withoutSequences (record.text ++ "\n")

end LogRecord

end ScopeTable
