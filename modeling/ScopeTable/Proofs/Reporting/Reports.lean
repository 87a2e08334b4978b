/-
# ScopeTable.Proofs.Reporting.Reports -- what becomes of reports, and that nothing depends on it

A walk reports a conflict at the moment it is found, and goes on. `ReportingWalk` is the walk of `Stepwise` with
everything it then carries: the listener as the walk so far has left it, the conflicts it has collected and whether one
of them is fatal. Whoever listens, such a walk is at every moment the walk without a listener whose events have been
noted (`ReportingWalk.heard`, `ReportingWalk.step_heard`), so it ends with the same outcome.

A reporter is a listener beside a log. What it has been told in the end are the diagnostics of the analysis in their
order (`foldl_hear_reporter`), and the log is made up of the records about the analysis and its own
(`foldl_hear_log`). So what is known of streams and reports in general holds of the reports of a build.
-/
import ScopeTable.Proofs.Analysis.Repair
import ScopeTable.Proofs.Analysis.Stepwise
import ScopeTable.Proofs.Reporting.Streams
import ScopeTable.Proofs.Reporting.Telling

namespace ScopeTable

variable {σ : Type}

/-! ## §A A walk that reports -/

/-- Where a walk that is listened to stands: the table as it is, what is still to be visited, and what it carries
besides. -/
structure ReportingWalk (σ : Type) where
  table : SymbolTable
  pending : List Visit
  progress : Progress σ

namespace ReportingWalk

/-- One visit, of which every event is noted when it happens. -/
def step (listener : Listener σ) (walk : ReportingWalk σ) : ReportingWalk σ :=
  match walk.pending with
  | [] => walk
  | visit :: pending =>
    let effect := visit.visit walk.table
    ⟨effect.table, effect.next ++ pending, effect.events.foldl (Progress.note listener) walk.progress⟩

/-- The table, unless a conflict makes it useless. -/
def outcome (walk : ReportingWalk σ) : Except BuildFailure SymbolTable := walk.progress.finish walk.table

/-- A walk of which all events have been noted. -/
def heard (listener : Listener σ) (state : σ) (walk : WalkState) : ReportingWalk σ :=
  ⟨walk.table, walk.pending, walk.events.foldl (Progress.note listener) (.start state)⟩

/-- **step_heard**: a visit leads from a walk that has been noted to the next such walk. -/
theorem step_heard (listener : Listener σ) (state : σ) (walk : WalkState) :
    step listener (heard listener state walk) = heard listener state walk.step := by
  obtain ⟨table, pending, events⟩ := walk
  cases pending with
  | nil => rfl
  | cons visit pending =>
    have hevents : (events ++ (visit.visit table).events).foldl (Progress.note listener) (.start state) =
        (visit.visit table).events.foldl (Progress.note listener)
          (events.foldl (Progress.note listener) (.start state)) := List.foldl_append
    exact congrArg (ReportingWalk.mk _ _) hevents.symm

end ReportingWalk

namespace Program

variable (program : Program) (listener : Listener σ) (state : σ)

/-- Where the walk over a program stands after so many visits, if it is listened to. -/
def reportingAfter (n : Nat) : ReportingWalk σ :=
  (ReportingWalk.step listener)^[n]
    ⟨⟨.empty⟩, program.classes.map .ofClass, (Progress.start state).note listener (.started program.name)⟩

/-- **reportingAfter_eq**: whoever listens, after so many visits the walk stands where it stands without a listener. -/
theorem reportingAfter_eq (n : Nat) :
    program.reportingAfter listener state n = .heard listener state (program.after n) := by
  have hcommute : Function.Semiconj (ReportingWalk.heard listener state) WalkState.step (ReportingWalk.step listener) :=
    fun walk => (ReportingWalk.step_heard listener state walk).symm
  exact (hcommute.iterate_right n program.start).symm

/-- The outcome of a walk that has come to its end does not depend on the listener. -/
theorem reportingAfter_outcome {n : Nat} (h : program.start.weight ≤ n) :
    (program.reportingAfter listener state n).pending = [] ∧
      (program.reportingAfter listener state n).outcome = program.build ∧
      (program.reportingAfter listener state n).progress.state = program.analyse.events.foldl listener.hear state := by
  have hnoted := Progress.foldl_note listener (.start state) program.analyse.events
  rw [reportingAfter_eq, program.walk_ends h]
  refine ⟨rfl, ?_, ?_⟩
  · rw [ReportingWalk.outcome, ReportingWalk.heard, hnoted]
    rfl
  · rw [ReportingWalk.heard, hnoted]
    rfl

end Program

/-! ## §B Events told to a reporter -/

namespace Reporter

variable (reporter : Reporter σ)

theorem reportAll_append (state : σ) (reports more : List (UInt64 × String)) :
    reporter.reportAll state (reports ++ more) =
      let first := reporter.reportAll state reports
      let others := reporter.reportAll first.1 more
      (others.1, first.2 ++ others.2) := by
  induction reports generalizing state with
  | nil => rfl
  | cons report reports ih =>
    rw [List.cons_append, reportAll, ih, reportAll]
    simp only [List.append_assoc]

/-- An event is logged, and what the reporter says to its diagnostics is logged behind it. -/
theorem hear_eq (state : σ) (log : List LogRecord) (event : Event) :
    reporter.listener.hear (state, log) event =
      ((reporter.reportAll state event.diagnostics).1,
        log ++ event.record :: (reporter.reportAll state event.diagnostics).2) := by
  rw [Listener.hear, Event.diagnostics]
  cases event.conflict? with
  | none => rfl
  | some found => simp [listener, reportAll]

/-- **foldl_hear_reporter**: what a reporter is told are the diagnostics of the events. -/
theorem foldl_hear_reporter (state : σ) (log : List LogRecord) (events : List Event) :
    (events.foldl reporter.listener.hear (state, log)).1 =
      (reporter.reportAll state (events.flatMap Event.diagnostics)).1 := by
  induction events generalizing state log with
  | nil => rfl
  | cons event events ih => rw [List.foldl_cons, hear_eq, ih, List.flatMap_cons, reportAll_append]

/-- **foldl_hear_log**: where the records of the reporter can be told from those of events, the log is made up of both,
each in its order. -/
theorem foldl_hear_log {ofReporter : LogRecord → Bool}
    (hreporter : ∀ state reports, ∀ record ∈ (reporter.reportAll state reports).2, ofReporter record = true)
    (hevent : ∀ event : Event, ofReporter event.record = false) (state : σ) (log : List LogRecord)
    (events : List Event) :
    let told := (events.foldl reporter.listener.hear (state, log)).2
    told.filter ofReporter =
        log.filter ofReporter ++ (reporter.reportAll state (events.flatMap Event.diagnostics)).2 ∧
      told.filter (fun record => !ofReporter record) =
        log.filter (fun record => !ofReporter record) ++ events.map Event.record := by
  induction events generalizing state log with
  | nil => simp [reportAll]
  | cons event events ih =>
    have hown := hreporter state event.diagnostics
    have hnot : ((reporter.reportAll state event.diagnostics).2.filter fun record => !ofReporter record) = [] :=
      List.filter_eq_nil_iff.mpr fun record hrecord => by simp [hown record hrecord]
    obtain ⟨hof, hothers⟩ := ih (reporter.reportAll state event.diagnostics).1
      (log ++ event.record :: (reporter.reportAll state event.diagnostics).2)
    rw [List.foldl_cons, hear_eq, List.flatMap_cons, reportAll_append]
    dsimp only at hof hothers ⊢
    rw [hof, hothers]
    constructor
    · rw [List.filter_append, List.filter_cons_of_neg (by simp [hevent]), List.filter_eq_self.mpr hown,
        List.append_assoc]
    · rw [List.filter_append, List.filter_cons_of_pos (by simp [hevent]), hnot, List.map_cons, List.append_assoc]
      rfl

theorem reportAll_collecting (lines : List String) (reports : List (UInt64 × String)) :
    collecting.reportAll lines reports = (lines ++ reports.map line, []) := by
  induction reports generalizing lines with
  | nil => rw [List.map_nil, List.append_nil]; rfl
  | cons report reports ih =>
    rw [reportAll, ih]
    simp [collecting, line, diagnosticText]

/-- All that is said about writing are warnings. -/
theorem streaming_warns {ω : Type} (out : Text.PieceWriter ω String) (held : ω) (reports : List (UInt64 × String)) :
    ∀ record ∈ ((streaming out).reportAll held reports).2, (record.level == .warn) = true := by
  induction reports generalizing held with
  | nil =>
    intro record hrecord
    cases hrecord
  | cons report reports ih =>
    have hfirst : ∀ record ∈ ((streaming out).report held report.1 report.2).2, (record.level == .warn) = true := by
      rw [streaming]
      dsimp only
      rcases out.writeAll held (diagnosticPieces report.1 report.2) with ⟨held, _ | error⟩
      · intro record hrecord
        cases hrecord
      · intro record hrecord
        obtain rfl := List.mem_singleton.mp hrecord
        rfl
    rw [reportAll]
    intro record hrecord
    rcases List.mem_append.mp hrecord with h | h
    · exact hfirst record h
    · exact ih _ record h

end Reporter

/-! ## §C What an analysis reports -/

namespace Program

open Reporter

variable (program : Program)

/-- The lines that are collected about a program. -/
theorem buildWith_collecting :
    program.buildWith collecting [] = (program.build, program.analyse.diagnostics.map line, program.analyse.log) := by
  have hlines := foldl_hear_reporter collecting [] [] program.analyse.events
  -- Nothing in the log is the collector's own, so all of it is about the analysis.
  obtain ⟨-, hlog⟩ := @foldl_hear_log _ collecting (fun _ => false)
    (fun lines reports record hrecord => by
      rw [reportAll_collecting] at hrecord
      cases hrecord)
    (fun _ => rfl) [] [] program.analyse.events
  rw [reportAll_collecting, List.nil_append] at hlines
  simp only [Bool.not_false, List.filter_true, List.nil_append] at hlog
  rw [buildWith, buildTelling_eq]
  exact Prod.ext rfl (Prod.ext hlines hlog)

/-- A record about a diagnostic that is lost is a warning, and no record about an analysis is one. -/
theorem record_ne_warn (event : Event) : (event.record.level == .warn) = false := by
  cases event <;> rfl

/-- **buildWith_streaming**: a build reports its diagnostics to a writer, and their loss shows in warnings alone. -/
theorem buildWith_streaming {ω : Type} (out : Text.PieceWriter ω String) (held : ω) :
    let built := program.buildWith (streaming out) held
    let told := (streaming out).reportAll held program.analyse.diagnostics
    built.1 = program.build ∧ built.2.1 = told.1 ∧
      built.2.2.filter (fun record => record.level == .warn) = told.2 ∧
      built.2.2.filter (fun record => !(record.level == .warn)) = program.analyse.log := by
  obtain ⟨hwarnings, hlog⟩ := foldl_hear_log (streaming out) (streaming_warns out) record_ne_warn held []
    program.analyse.events
  dsimp only
  rw [buildWith, buildTelling_eq]
  exact ⟨rfl, foldl_hear_reporter .., hwarnings, hlog⟩

end Program

/-- **reporting_without_influence**: whoever listens, after every visit the table, what is still to be visited and the
conflicts are what they are when nobody does, and the outcome is that of the program.

Of reports that are made in any order, a collector has all lines. A stream that refuses some of them, each with an error
of its own, holds the lines of the others, each followed by a line break, and the log has one warning for each that is
refused, with its line and the error. A stream may also refuse a report when a part of it is written; then this part is
left as well, and everything else is as before.

So it is with the reports of a build, and nothing else in the log depends on what becomes of them. -/
theorem reporting_without_influence :
    (∀ (program : Program) (σ : Type) (listener : Listener σ) (state : σ) (n : Nat),
      let walk := program.reportingAfter listener state n
      let ended := program.reportingAfter listener state (program.start.weight + n)
      walk.table = (program.after n).table ∧ walk.pending = (program.after n).pending ∧
        walk.progress.conflicts = (program.after n).events.filterMap Event.conflict? ∧
        ended.pending = [] ∧ ended.outcome = program.build ∧
        program.buildTelling listener state = (program.build, ended.progress.state)) ∧
    (∀ (program : Program) (σ : Type) (reporter : Reporter σ) (state : σ),
      (program.buildWith reporter state).1 = program.build ∧
        (program.buildWith reporter state).2.1 = (reporter.reportAll state program.analyse.diagnostics).1) ∧
    (∀ (text : String) (outage : Nat → Option String) (reports : List (UInt64 × String)),
      let lines := (Reporter.collecting.reportAll [] reports).1
      let told := (Reporter.streaming Stream.writer).reportAll ⟨text, Reporter.planned outage reports⟩ reports
      lines = (reports.map fun report => Decimal.integerText report.1.toNat ++ ": " ++ report.2) ∧
        told.1.text = text ++
          String.join ((picked (fun i => (outage i).isNone) lines).map fun line => line ++ "\n") ∧
        told.2 = reports.zipIdx.filterMap fun (report, i) => (outage i).map (Reporter.warning report)) ∧
    (∀ (stream : Stream) (reports : List (UInt64 × String)),
      let losses := Reporter.losses reports stream.answers
      let told := (Reporter.streaming Stream.writer).reportAll stream reports
      losses.length = reports.length ∧
        told.1.text = stream.text ++ String.join (List.zipWith Reporter.left reports losses) ∧
        told.2 = (reports.zip losses).filterMap fun (report, loss) =>
          loss.map fun loss => Reporter.warning report loss.refusal.error) ∧
    (∀ (program : Program) (ω : Type) (out : Text.PieceWriter ω String) (held : ω),
      let collected := program.buildWith .collecting []
      let built := program.buildWith (.streaming out) held
      let told := (Reporter.streaming out).reportAll held program.analyse.diagnostics
      built.1 = collected.1 ∧ built.2.1 = told.1 ∧
        built.2.2.filter (fun record => record.level == .warn) = told.2 ∧
        built.2.2.filter (fun record => !(record.level == .warn)) = collected.2.2) ∧
    ∀ (program : Program) (text : String) (outage : Nat → Option String),
      let reports := program.analyse.conflicts.map fun conflict => (conflict.line, conflict.message)
      let collected := program.buildWith .collecting []
      let built := program.buildWith (.streaming Stream.writer) ⟨text, Reporter.planned outage reports⟩
      collected.2.1 = (reports.map fun report => Decimal.integerText report.1.toNat ++ ": " ++ report.2) ∧
        built.2.1.text = text ++
          String.join ((picked (fun i => (outage i).isNone) collected.2.1).map fun line => line ++ "\n") ∧
        built.2.2.filter (fun record => record.level == .warn) =
          reports.zipIdx.filterMap fun (report, i) => (outage i).map (Reporter.warning report) := by
  refine ⟨?_, ?_, ?_, ?_, ?_, ?_⟩
  · intro program σ listener state n
    obtain ⟨hpending, houtcome, hstate⟩ :=
      program.reportingAfter_outcome listener state (Nat.le_add_right program.start.weight n)
    have hnoted := Progress.foldl_note listener (.start state) (program.after n).events
    dsimp only
    rw [hstate, program.buildTelling_eq, program.reportingAfter_eq listener state n, ReportingWalk.heard, hnoted]
    exact ⟨rfl, rfl, List.nil_append _, hpending, houtcome, rfl⟩
  · intro program σ reporter state
    rw [Program.buildWith, program.buildTelling_eq]
    exact ⟨rfl, reporter.foldl_hear_reporter ..⟩
  · intro text outage reports
    dsimp only
    rw [Reporter.reportAll_collecting, List.nil_append]
    exact ⟨rfl, Reporter.reportAll_planned text outage reports⟩
  · intro stream reports
    exact ⟨Reporter.losses_length .., Reporter.reportAll_stream stream reports⟩
  · intro program ω out held
    dsimp only
    rw [program.buildWith_collecting]
    exact program.buildWith_streaming out held
  · intro program text outage
    obtain ⟨-, hstream, hwarnings, -⟩ := program.buildWith_streaming Stream.writer
      ⟨text, Reporter.planned outage program.analyse.diagnostics⟩
    obtain ⟨htext, hlost⟩ := Reporter.reportAll_planned text outage program.analyse.diagnostics
    dsimp only
    rw [program.buildWith_collecting, ← Analysis.diagnostics_eq, hstream, hwarnings]
    exact ⟨rfl, htext, hlost⟩

end ScopeTable
