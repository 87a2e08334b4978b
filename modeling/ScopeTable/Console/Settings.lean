/-
# ScopeTable.Console.Settings -- what the environment decides

Two settings are read from the environment: whether reports are coloured, and how much of the log is
shown. A value that is not understood counts as none.
-/
import ScopeTable.Reporting.Log

namespace ScopeTable.Console

/-! ## §A Colours -/

/-- Whether reports are coloured. -/
inductive ColorChoice where
  | always
  | alwaysAnsi
  | auto
  | never
  deriving DecidableEq, Repr

namespace ColorChoice

/-- The choice of the given name, whatever the case of its basic Latin letters. -/
def ofWord? (name : String) : Option ColorChoice :=
  match String.ofList (name.toList.map Char.toLower) with
  | "always" => some always
  | "always-ansi" => some alwaysAnsi
  | "auto" => some auto
  | "never" => some never
  | _ => none

/-- The name of a choice in the program's own words. -/
def word : ColorChoice → String
  | always => "Always"
  | alwaysAnsi => "AlwaysAnsi"
  | auto => "Auto"
  | never => "Never"

/-- The choice when colours are not wanted in general: only the automatic choice gives way. -/
def withoutColor : ColorChoice → ColorChoice
  | auto => never
  | choice => choice

/-- Whether reports are coloured where there is no terminal. -/
def coloursAnywhere : ColorChoice → Bool
  | always => true
  | alwaysAnsi => true
  | auto => false
  | never => false

end ColorChoice

/-! ## §B Verbosity -/

/-- The capital form of a character, as far as it consists of basic Latin letters: besides the small
letters themselves those whose capitals are such letters, the ligatures among them. -/
def capitalLatin (c : Char) : List Char :=
  match c with
  | 'ı' => ['I']
  | 'ſ' => ['S']
  | 'ß' => ['S', 'S']
  | 'ﬀ' => ['F', 'F']
  | 'ﬁ' => ['F', 'I']
  | 'ﬂ' => ['F', 'L']
  | 'ﬃ' => ['F', 'F', 'I']
  | 'ﬄ' => ['F', 'F', 'L']
  | 'ﬅ' => ['S', 'T']
  | 'ﬆ' => ['S', 'T']
  | c => [c.toUpper]

/-- The verbosity of the given name, in capitals or not. -/
def verbosityOf? (name : String) : Option Verbosity :=
  Verbosity.ofWord? (String.ofList (name.toList.flatMap capitalLatin))

/-! ## §C Settings -/

/-- The settings of a run. -/
structure Settings where
  color : ColorChoice
  verbosity : Verbosity
  deriving DecidableEq, Repr

/-- The value of a name in the environment, if it has one. -/
abbrev Environment := String → Option String

/-- The settings that an environment asks for. -/
def Settings.ofEnvironment (environment : Environment) : Settings :=
  let color := ((environment "OPAL_COLORIZE").bind ColorChoice.ofWord?).getD .auto
  { color := if (environment "NO_COLOR").isSome then color.withoutColor else color
    verbosity := ((environment "OPAL_LOG_LEVEL").bind verbosityOf?).getD (.upTo .warn) }

end ScopeTable.Console
