/-
# ScopeTable.Proofs.Reporting.Account -- the log of a walk tells what is visited

`Program.visited` lists the declarations that a walk comes to, each with the first one of its name if it repeats one:
every class, and behind a class that is kept the names of its fields and then its methods, and behind a method that is
kept its parameters and then its locals. Every event of a walk is that of one of these visits (`Program.events_eq`), so
the log has one record for each of them, in this order, behind one that opens it (`Program.log_eq`).

Records are told apart by the words they open with. So they can be set against the three other things that come of an
analysis: those about conflicts against the lines that are reported, those about declarations that are entered against
the entries of the table, and those about fields that are passed over against these fields. What is shown of a log at a
verbosity is what is left of it when the records of other levels are taken out (`writtenOf_eq_restricted`).
-/
import ScopeTable.Console.Run
import ScopeTable.Proofs.Analysis.Arrangement
import ScopeTable.Proofs.Reporting.Reports

namespace ScopeTable

open Text

/-! ## §A What is visited -/

/-- A declaration that is visited, with the first one of its name if there is one before it. -/
inductive Visited where
  | ofClass (first : Option ClassDecl) (cls : ClassDecl)
  | ofField (first : Option FieldName) (field : FieldName)
  | ofMethod (first : Option FunctionDecl) (method : FunctionDecl)
  | ofVariable (first : Option Variable) (v : Variable)

/-- What is visited inside a method that is kept: its parameters and then its locals. -/
def FunctionDecl.visited (method : FunctionDecl) : List Visited :=
  let result : Variable := ⟨.result, method.name, method.returnType, method.name.line⟩
  (visits Variable.spelling [result] method.namedVariables).map fun visit => .ofVariable visit.1 visit.2

/-- What is visited inside a class that is kept: the names of its fields, then its methods, each with what is visited
inside it if it is kept. -/
def ClassDecl.visited (cls : ClassDecl) : List Visited :=
  ((visits FieldName.spelling [] cls.fieldNames).map fun visit => .ofField visit.1 visit.2) ++
    (visits FunctionDecl.spelling [] cls.block.methods).flatMap fun
      | (some first, method) => [.ofMethod first method]
      | (none, method) => .ofMethod none method :: method.visited

/-- What is visited in a program: its classes, each with what is visited inside it if it is kept. -/
def Program.visited (program : Program) : List Visited :=
  (visits ClassDecl.spelling [] program.classes).flatMap fun
    | (some first, cls) => [.ofClass first cls]
    | (none, cls) => .ofClass none cls :: cls.visited

/-! ## §B Records -/

/-- What is said about a declaration that is rejected. -/
def rejectionText (what name : String) (firstLine : UInt64) : String :=
  what ++ " \"" ++ name ++ "\" already declared at line " ++ Decimal.integerText firstLine.toNat

/-- The record about a declaration that is rejected. -/
def rejectionRecord (message : String) : LogRecord := ⟨.debug, analysisSource, "Declaration conflict: " ++ message⟩

/-- The record about a name of a field that is passed over. -/
def FieldName.skippedRecord (field : FieldName) : LogRecord :=
  ⟨.trace, analysisSource, "Field " ++ field.spelling ++ " on line " ++ Decimal.integerText field.name.line.toNat ++
    " is already declared"⟩

/-- The record about an entry for a class. -/
def classRecord (spelling : String) : LogRecord := ⟨.debug, analysisSource, "Registered class " ++ spelling⟩

/-- The record about an entry for a field. -/
def fieldRecord (spelling : String) (type : TypeDenoter) : LogRecord :=
  ⟨.trace, analysisSource, "Declared field " ++ spelling ++ ": " ++ type.text⟩

/-- The record about an entry for a method. -/
def methodRecord (spelling : String) : LogRecord := ⟨.debug, analysisSource, "Registered method " ++ spelling⟩

/-- The record about an entry for a parameter or local. -/
def variableRecord (v : Variable) : LogRecord :=
  ⟨.trace, analysisSource, "Declared " ++ v.kind.word ++ " " ++ v.spelling ++ ": " ++ v.type.text⟩

/-- The record that opens the log. -/
def Program.openingRecord (program : Program) : LogRecord :=
  ⟨.debug, analysisSource, "Building symbol table for program " ++ program.name.spelling⟩

namespace Visited

/-- The line of a declaration that is rejected, and what is said about it. -/
def rejection : Visited → Option (UInt64 × String)
  | ofClass (some first) cls => some (cls.name.line, rejectionText "class" first.spelling first.name.line)
  | ofMethod (some first) method => some (method.name.line, rejectionText "function" method.spelling first.name.line)
  | ofVariable (some first) v => some (v.name.line, rejectionText "variable" v.spelling first.line)
  | _ => none

/-- The record about a visit. -/
def record : Visited → LogRecord
  | ofClass none cls => classRecord cls.spelling
  | ofField none field => fieldRecord field.spelling field.group.type
  | ofMethod none method => methodRecord method.spelling
  | ofVariable none v => variableRecord v
  | ofClass (some first) _ => rejectionRecord (rejectionText "class" first.spelling first.name.line)
  | ofField (some _) field => field.skippedRecord
  | ofMethod (some first) method => rejectionRecord (rejectionText "function" method.spelling first.name.line)
  | ofVariable (some first) v => rejectionRecord (rejectionText "variable" v.spelling first.line)

/-- The event that a visit is. -/
def event : Visited → Event
  | ofClass none cls => .classRegistered cls.name
  | ofField none field => .fieldDeclared field
  | ofMethod none method => .methodRegistered method.name
  | ofVariable none v => .variableDeclared v
  | ofClass (some first) cls => .conflict (.ofRejected .ofClass first.name.spelling first.name.line cls.name)
  | ofField (some _) field => .fieldRepeated field
  | ofMethod (some first) method =>
    .conflict (.ofRejected .ofMethod method.name.spelling first.name.line method.name)
  | ofVariable (some first) v => .conflict (.ofRejected .ofVariable v.name.spelling first.line v.name)

theorem event_record (visited : Visited) : visited.event.record = visited.record := by
  rcases visited with ⟨_ | first, cls⟩ | ⟨_ | first, field⟩ | ⟨_ | first, method⟩ | ⟨_ | first, v⟩ <;> rfl

/-- A visit is a conflict where the declaration is rejected, and the conflict has its line. -/
theorem event_conflict (visited : Visited) :
    visited.event.conflict?.map (fun found => (found.line, found.message)) = visited.rejection := by
  rcases visited with ⟨_ | first, cls⟩ | ⟨_ | first, field⟩ | ⟨_ | first, method⟩ | ⟨_ | first, v⟩ <;> rfl

end Visited

theorem FunctionDecl.walk_visited (method : FunctionDecl) :
    method.walk.2 = (Visited.ofMethod none method).event :: method.visited.map Visited.event := by
  rw [walk_events, declared_eq, visited, List.map_map, List.map_eq_flatMap]
  congr 2
  funext visit
  rcases visit with ⟨first | first, v⟩ <;> rfl

theorem ClassDecl.walk_visited (cls : ClassDecl) :
    cls.walk.2 = (Visited.ofClass none cls).event :: cls.visited.map Visited.event := by
  rw [walk_events, visited, List.map_append, List.map_map, List.map_eq_flatMap, List.map_flatMap]
  congr 3
  · funext visit
    rcases visit with ⟨first | first, field⟩ <;> rfl
  · funext visit
    rcases visit with ⟨first | first, method⟩
    · exact method.walk_visited
    · rfl

namespace Program

/-- **events_eq**: behind the one that opens it, a walk has one event for each declaration that is visited. -/
theorem events_eq (program : Program) :
    program.analyse.events = .started program.name :: program.visited.map Visited.event := by
  show _ :: (walkClasses program.classes).2 = _
  rw [walkClasses_events, visited, List.map_flatMap]
  congr 2
  funext visit
  rcases visit with ⟨first | first, cls⟩
  · exact cls.walk_visited
  · rfl

/-- **log_eq**: behind the record that opens it, the log has one record for each declaration that is visited. -/
theorem log_eq (program : Program) :
    program.analyse.log = program.openingRecord :: program.visited.map Visited.record := by
  rw [Analysis.log, events_eq, List.map_cons, List.map_map]
  congr 2
  exact funext Visited.event_record

/-- **conflicts_visited**: the conflicts are those of the declarations that are rejected, each on its own line. -/
theorem conflicts_visited (program : Program) :
    program.analyse.conflicts.map (fun found => (found.line, found.message)) =
      program.visited.filterMap Visited.rejection := by
  rw [Analysis.conflicts, events_eq, List.filterMap_cons_none rfl, List.filterMap_map, List.map_filterMap]
  congr 1
  exact funext Visited.event_conflict

end Program

/-! ## §C Records told apart -/

/-- Whether the message of a record begins with some words. -/
def LogRecord.opensWith (words : String) (record : LogRecord) : Bool :=
  words.toList.isPrefixOf record.message.toList

/-- The record is about a conflict. -/
def LogRecord.isRejection (record : LogRecord) : Bool := record.opensWith "Declaration conflict: "

/-- The record is about a name of a field that is passed over. -/
def LogRecord.isSkip (record : LogRecord) : Bool := record.opensWith "Field "

/-- The record is about an entry. -/
def LogRecord.isEntry (record : LogRecord) : Bool := record.opensWith "Registered " || record.opensWith "Declared "

namespace Visited

/-- The declaration repeats none, so it is entered. -/
def isNew : Visited → Bool
  | ofClass first _ => first.isNone
  | ofField first _ => first.isNone
  | ofMethod first _ => first.isNone
  | ofVariable first _ => first.isNone

/-- The declaration is a name of a field that is passed over. -/
def isSkipped : Visited → Bool
  | ofField first _ => first.isSome
  | _ => false

/-- **record_isEntry**: the records about entries are those of the declarations that are new. -/
theorem record_isEntry (visited : Visited) : visited.record.isEntry = visited.isNew := by
  rcases visited with ⟨_ | first, cls⟩ | ⟨_ | first, field⟩ | ⟨_ | first, method⟩ | ⟨_ | first, v⟩ <;>
    simp [record, isNew, classRecord, fieldRecord, methodRecord, variableRecord, rejectionRecord,
      FieldName.skippedRecord, LogRecord.isEntry, LogRecord.opensWith, List.isPrefixOf]

theorem record_isSkip (visited : Visited) : visited.record.isSkip = visited.isSkipped := by
  rcases visited with ⟨_ | first, cls⟩ | ⟨_ | first, field⟩ | ⟨_ | first, method⟩ | ⟨_ | first, v⟩ <;>
    simp [record, isSkipped, classRecord, fieldRecord, methodRecord, variableRecord, rejectionRecord,
      FieldName.skippedRecord, LogRecord.isSkip, LogRecord.opensWith, List.isPrefixOf]

end Visited

/-- **record_isRejection**: the records about conflicts are those of the conflicts. -/
theorem Event.record_isRejection (event : Event) : event.record.isRejection = event.conflict?.isSome := by
  cases event <;> simp [record, conflict?, LogRecord.isRejection, LogRecord.opensWith, List.isPrefixOf]

/-- **filter_log**: where the records to be kept are those of certain visits and not the one that opens the log, they
are the records of these visits. -/
theorem Program.filter_log (program : Program) {kept : LogRecord → Bool} {ofKept : Visited → Bool}
    (hopening : kept program.openingRecord = false)
    (hrecord : ∀ visited : Visited, kept visited.record = ofKept visited) :
    program.analyse.log.filter kept = (program.visited.filter ofKept).map Visited.record := by
  rw [log_eq, List.filter_cons_of_neg (by simp [hopening]), List.filter_map]
  congr 2
  exact funext hrecord

/-! ## §D Records about conflicts and the lines that are reported -/

/-- The records about conflicts are those of the conflicts of the analysis, in their order. -/
theorem Analysis.rejections_eq (analysis : Analysis) :
    analysis.log.filter LogRecord.isRejection =
      analysis.conflicts.map fun found => (Event.conflict found).record := by
  rw [log, conflicts]
  induction analysis.events with
  | nil => rfl
  | cons event events ih =>
    rw [List.map_cons, List.filter_cons, event.record_isRejection, ih]
    cases event <;> rfl

/-- **rejections_reported**: the records about conflicts and the lines that are collected are about the declarations
that are rejected, one by one, and both have the same message. -/
theorem Program.rejections_reported (program : Program) :
    program.analyse.log.filter LogRecord.isRejection =
        (program.visited.filterMap Visited.rejection).map (fun rejected => rejectionRecord rejected.2) ∧
      program.analyse.diagnostics.map Reporter.line =
        (program.visited.filterMap Visited.rejection).map Reporter.line := by
  rw [Analysis.rejections_eq, Analysis.diagnostics_eq, ← program.conflicts_visited, List.map_map]
  exact ⟨rfl, rfl⟩

/-! ## §E Records about entries and the table -/

/-- The records about the entries of a method: its own and those of its parameters and locals, but not of its result. -/
def MethodTable.entryRecords (spelling : String) (method : MethodTable) : List LogRecord :=
  methodRecord spelling :: (method.scope.values.filter fun v => v.kind ≠ .result).map variableRecord

/-- The records about the entries of a class: its own, those of its fields and those of its methods. -/
def ClassTable.entryRecords (spelling : String) (cls : ClassTable) : List LogRecord :=
  classRecord spelling :: (cls.fields.toList.map fun (name, group) => fieldRecord name group.type) ++
    cls.methods.toList.flatMap fun (name, method) => method.entryRecords name

/-- The records about all entries of a table but the results of methods. -/
def SymbolTable.entryRecords (table : SymbolTable) : List LogRecord :=
  table.classes.toList.flatMap fun (name, cls) => cls.entryRecords name

section Visits

variable {α β : Type} {spelling : α → String} {earlier items : List α}

/-- **filter_visits**: if nothing is kept of what a repeated item gives, only the fresh items count. -/
theorem filter_visits {results : Option α × α → List β} {kept : β → Bool} {ofFresh : α → List β}
    (hrepeated : ∀ first item, (results (some first, item)).filter kept = [])
    (hfresh : ∀ item, (results (none, item)).filter kept = ofFresh item) :
    ((visits spelling earlier items).flatMap results).filter kept =
      (fresh spelling earlier items).flatMap ofFresh := by
  rw [fresh]
  induction visits spelling earlier items with
  | nil => rfl
  | cons visit visits ih =>
    rw [List.flatMap_cons, List.filter_append, ih]
    rcases visit with ⟨first | first, item⟩
    · rw [hfresh]
      rfl
    · rw [hrepeated]
      rfl

end Visits

namespace FunctionDecl

/-- Of the variables in the scope of a method, those that are not its result are the parameters and locals whose name
is not taken. -/
theorem walk_members (method : FunctionDecl) :
    (method.walk.1.scope.values.filter fun v => v.kind ≠ .result) =
      fresh Variable.spelling [method.result] method.declared := by
  have hvalues : method.walk.1.scope.values =
      [method.result] ++ fresh Variable.spelling [method.result] method.declared := by
    rw [walk_values, ← firsts_append (distinct_singleton method.result)]
    rfl
  have hmembers : ∀ v ∈ fresh Variable.spelling [method.result] method.declared, v.kind ≠ .result := by
    intro v hv hkind
    have hrank := declared_rank (mem_of_mem_fresh hv)
    rw [hkind] at hrank
    exact Nat.lt_irrefl 0 hrank
  rw [hvalues, List.filter_append, List.filter_cons_of_neg (by simp [result]), List.filter_nil, List.nil_append,
    List.filter_eq_self]
  simpa using hmembers

theorem visited_isNew (method : FunctionDecl) :
    method.visited.filter Visited.isNew =
      (fresh Variable.spelling [method.result] method.declared).map (.ofVariable none) := by
  rw [visited, List.map_eq_flatMap, filter_visits (fun _ _ => rfl) (fun _ => rfl), List.map_eq_flatMap]
  rfl

/-- **FunctionDecl.entries_visited**: a method that is kept and what is new inside it are the entries of its table. -/
theorem entries_visited (method : FunctionDecl) :
    ((Visited.ofMethod none method :: method.visited).filter Visited.isNew).map Visited.record =
      method.walk.1.entryRecords method.spelling := by
  rw [List.filter_cons_of_pos rfl, visited_isNew, List.map_cons, List.map_map, MethodTable.entryRecords, walk_members]
  rfl

end FunctionDecl

namespace ClassDecl

theorem visited_isNew (cls : ClassDecl) :
    cls.visited.filter Visited.isNew =
      ((firsts FieldName.spelling cls.fieldNames).map (.ofField none)) ++
        (firsts FunctionDecl.spelling cls.block.methods).flatMap fun method =>
          (Visited.ofMethod none method :: method.visited).filter Visited.isNew := by
  rw [visited, List.map_eq_flatMap, List.filter_append, filter_visits (fun _ _ => rfl) (fun _ => rfl),
    filter_visits (fun _ _ => rfl) (fun _ => rfl), List.map_eq_flatMap]
  rfl

/-- **ClassDecl.entries_visited**: a class that is kept and what is new inside it are the entries of its table. -/
theorem entries_visited (cls : ClassDecl) :
    ((Visited.ofClass none cls :: cls.visited).filter Visited.isNew).map Visited.record =
      cls.walk.1.entryRecords cls.spelling := by
  rw [List.filter_cons_of_pos rfl, visited_isNew, List.map_cons, List.map_append, List.map_flatMap, List.map_map,
    ClassTable.entryRecords, walk_toList, cls.walk_methods_lists.toList_eq, List.map_map, List.flatMap_map]
  simp only [FunctionDecl.entries_visited]
  rfl

end ClassDecl

/-- **Program.entries_visited**: the records about entries are those of the entries of the table. -/
theorem Program.entries_visited (program : Program) :
    program.analyse.log.filter LogRecord.isEntry = program.analyse.table.entryRecords := by
  have htable : program.analyse.table.classes.toList = _ := (walkClasses_lists program.classes).toList_eq
  rw [program.filter_log (by simp [openingRecord, LogRecord.isEntry, LogRecord.opensWith, List.isPrefixOf])
    Visited.record_isEntry, visited, filter_visits (fun _ _ => rfl) (fun _ => rfl), List.map_flatMap,
    SymbolTable.entryRecords, htable, List.flatMap_map]
  simp only [ClassDecl.entries_visited]
  rfl

/-! ## §F Records about fields that are passed over -/

/-- The names of fields that are passed over in a class: those whose name one before them has. -/
def ClassDecl.skippedFields (cls : ClassDecl) : List FieldName :=
  ((visits FieldName.spelling [] cls.fieldNames).filter fun visit => visit.1.isSome).map Prod.snd

/-- The names of fields that are passed over in the classes that are kept. -/
def Program.skippedFields (program : Program) : List FieldName :=
  (firsts ClassDecl.spelling program.classes).flatMap ClassDecl.skippedFields

namespace ClassDecl

/-- **skippedFields_perm**: what is entered and what is passed over are together the names of the fields. -/
theorem skippedFields_perm (cls : ClassDecl) :
    (firsts FieldName.spelling cls.fieldNames ++ cls.skippedFields).Perm cls.fieldNames := by
  have hnew : firsts FieldName.spelling cls.fieldNames =
      ((visits FieldName.spelling [] cls.fieldNames).filter fun visit => !visit.1.isSome).map Prod.snd := by
    rw [firsts, ← List.filterMap_eq_map, List.filterMap_filter]
    congr 1
    funext visit
    cases visit.1 <;> rfl
  have hall : cls.fieldNames = (visits FieldName.spelling [] cls.fieldNames).map Prod.snd := visits_map_snd.symm
  rw [hnew, skippedFields, ← List.map_append]
  conv_rhs => rw [hall]
  exact (List.perm_append_comm.trans (List.filter_append_perm _ _)).map Prod.snd

/-- **visited_isSkipped**: inside a class only its own fields are passed over. -/
theorem visited_isSkipped (cls : ClassDecl) :
    (cls.visited.filter Visited.isSkipped).map Visited.record = cls.skippedFields.map FieldName.skippedRecord := by
  have hmethods : ∀ method : FunctionDecl, method.visited.filter Visited.isSkipped = [] := by
    intro method
    rw [FunctionDecl.visited, List.filter_eq_nil_iff]
    intro visited hvisited
    obtain ⟨visit, -, rfl⟩ := List.mem_map.mp hvisited
    exact Bool.false_ne_true
  rw [visited, List.filter_append, filter_visits (fun _ _ => rfl) hmethods, List.filter_map, List.map_append,
    List.map_map, skippedFields, List.map_map]
  have hnone : (fresh FunctionDecl.spelling [] cls.block.methods).flatMap (fun _ => ([] : List Visited)) = [] :=
    List.flatMap_eq_nil_iff.mpr fun _ _ => rfl
  rw [hnone, List.map_nil, List.append_nil]
  refine List.map_congr_left ?_
  rintro ⟨first | first, field⟩ hvisit
  · cases (List.mem_filter.mp hvisit).2
  · rfl

end ClassDecl

/-- **Program.skips_visited**: the records about fields that are passed over are those of these fields. -/
theorem Program.skips_visited (program : Program) :
    program.analyse.log.filter LogRecord.isSkip = program.skippedFields.map FieldName.skippedRecord := by
  rw [program.filter_log (by simp [openingRecord, LogRecord.isSkip, LogRecord.opensWith, List.isPrefixOf])
    Visited.record_isSkip, visited, filter_visits (fun _ _ => rfl) (fun _ => rfl), List.map_flatMap, skippedFields,
    List.map_flatMap]
  congr 1
  funext cls
  exact cls.visited_isSkipped

/-! ## §G What is shown of a log -/

namespace Console

/-- Whether a notice is shown at a verbosity. A diagnostic always is. -/
def isShown (verbosity : Verbosity) : Notice → Bool
  | .logged record => verbosity.admits record.level
  | .reported _ => true

theorem writtenOf_cons (verbosity : Verbosity) (notice : Notice) (notices : List Notice) :
    writtenOf verbosity (notice :: notices) = notice.written verbosity ++ writtenOf verbosity notices := by
  rw [writtenOf, List.map_cons, String.join_cons, ← writtenOf]

/-- **writtenOf_eq_restricted**: what is written at a verbosity is all that is written of the notices that are shown. -/
theorem writtenOf_eq_restricted (verbosity : Verbosity) (notices : List Notice) :
    writtenOf verbosity notices = writtenOf (.upTo .trace) (notices.filter (isShown verbosity)) := by
  have hall : ∀ level : Level, (Verbosity.upTo .trace).admits level = true := by rintro (_ | _) <;> rfl
  induction notices with
  | nil => rfl
  | cons notice notices ih =>
    rw [writtenOf_cons, ih, List.filter_cons]
    cases notice with
    | reported text =>
      rw [if_pos (by rfl), writtenOf_cons]
      rfl
    | logged record =>
      rw [Notice.written, isShown]
      split
      · rw [writtenOf_cons, Notice.written, if_pos (hall record.level)]
      · exact String.empty_append

theorem recordsOf_restricted (verbosity : Verbosity) (notices : List Notice) :
    recordsOf (notices.filter (isShown verbosity)) =
      (recordsOf notices).filter fun record => verbosity.admits record.level := by
  rw [recordsOf, recordsOf, List.filterMap_filter, List.filter_filterMap]
  congr 1
  funext notice
  cases notice with
  | reported text => rfl
  | logged record =>
    dsimp only
    rw [Option.filter_some]
    rfl

end Console

/-- The records among the notices of an analysis are its log. -/
theorem Analysis.recordsOf_notices (analysis : Analysis) : Console.recordsOf analysis.notices = analysis.log := by
  rw [Console.recordsOf, notices, log, List.filterMap_flatMap, List.map_eq_flatMap]
  congr 1
  funext event
  cases event <;> rfl

/-! ## §H The log against all that it tells of -/

/-- **log_faithful**: behind the record that opens it, the log of a build has one record for each declaration that is
visited, in their order. Those about conflicts are about the declarations that are rejected, and so are the lines that
are collected, one by one, each with the line of the declaration and the same message. Those about fields that are
passed over are about just these fields; and if there is a table, those about entries are about all its entries but the
results of methods, and in each of its classes the fields that are entered and those that are passed over are together
all that the class names. At every verbosity, what is shown is what is left of the whole log when the records of other
levels are taken out. -/
theorem Program.log_faithful (program : Program) :
    let built := program.buildWith .collecting []
    let log := built.2.2
    let rejections := program.visited.filterMap Visited.rejection
    log = program.openingRecord :: program.visited.map Visited.record ∧
      log.filter LogRecord.isRejection = rejections.map (fun rejected => rejectionRecord rejected.2) ∧
      built.2.1 = rejections.map (fun rejected => Decimal.integerText rejected.1.toNat ++ ": " ++ rejected.2) ∧
      log.filter LogRecord.isSkip = program.skippedFields.map FieldName.skippedRecord ∧
      (∀ table, program.build = .ok table →
        log.filter LogRecord.isEntry = table.entryRecords ∧
          ∀ cls ∈ table.classList,
            (cls.fields.toList.map Prod.fst ++ cls.decl.skippedFields.map FieldName.spelling).Perm
              (cls.decl.fieldNames.map FieldName.spelling)) ∧
      ∀ verbosity : Verbosity,
        let shown := program.analyse.notices.filter (Console.isShown verbosity)
        Console.writtenOf verbosity program.analyse.notices = Console.writtenOf (.upTo .trace) shown ∧
          Console.recordsOf shown = log.filter fun record => verbosity.admits record.level := by
  dsimp only
  rw [program.buildWith_collecting]
  obtain ⟨hrecords, hlines⟩ := program.rejections_reported
  refine ⟨program.log_eq, hrecords, hlines, program.skips_visited, ?_, ?_⟩
  · intro table htable
    obtain ⟨rfl, -⟩ := build_eq_ok_iff.mp htable
    refine ⟨program.entries_visited, ?_⟩
    intro found hfound
    rw [SymbolTable.classList, walk_values] at hfound
    obtain ⟨cls, -, rfl⟩ := List.mem_map.mp hfound
    rw [cls.walk_toList, List.map_map]
    have hnames := cls.skippedFields_perm.map FieldName.spelling
    rwa [List.map_append] at hnames
  · intro verbosity
    refine ⟨Console.writtenOf_eq_restricted verbosity _, ?_⟩
    rw [Console.recordsOf_restricted, Analysis.recordsOf_notices]

/-- In the log of `bank`, two fields are passed over, and every other record but that about the second class is about an
entry of the table. -/
theorem bank_log :
    bank.build = .ok bank.analyse.table ∧
      let log := (bank.buildWith .collecting []).2.2
      (log.filter LogRecord.isSkip).map LogRecord.message =
          ["Field OWNER on line 2 is already declared", "Field Owner on line 3 is already declared"] ∧
        log.filter LogRecord.isEntry = bank.analyse.table.entryRecords := by
  obtain ⟨-, -, -, hskips, hentries, -⟩ := bank.log_faithful
  refine ⟨bank_built, ?_, (hentries _ bank_built).1⟩
  rw [hskips]
  decide +kernel

end ScopeTable
