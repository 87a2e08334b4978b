/-
# ScopeTable.Proofs.Console.Answers -- a look-up prints what a listing shows

A row of a listing belongs to one entry, and an entry has an address: the names of the scopes around it and its own.
`SymbolTable.addressed` is the listing with the address beside every row. A query asks for an address too, in any
case, and a look-up prints the row of the entry there without its indentation (`lookups_match_listing`). Only for a
field it prints more: a row of a field has no place, and the look-up finds one by searching the group for the name once
more. A listing and a look-up have forms of their own for what they print; both are shown to come to the text of a row
(`Row.written_eq`, `classText_eq` and those like it).

Both sides are compared with the declarations of the program. `Program.Declares` says which rows there are and at which
addresses; a listing has just these rows (`mem_addressed_iff`), and look-ups find them and nothing else
(`Declares.answered`, `declares_of_answer`).
-/
import ScopeTable.Proofs.Analysis.Arrangement
import ScopeTable.Proofs.Analysis.Enumeration
import ScopeTable.Proofs.Console.Runs

namespace ScopeTable

open Text Console

variable {α V : Type}

/-! ## §A Addresses -/

/-- Where an entry stands: the names of the scopes around it and its own. -/
inductive Address where
  | ofClass (className : String)
  | ofField (className field : String)
  | ofMethod (className method : String)
  | ofVariable (className method name : String)
  deriving DecidableEq, Repr

/-- The address with its names folded. -/
def Address.folded : Address → Address
  | ofClass className => ofClass (fold className)
  | ofField className field => ofField (fold className) (fold field)
  | ofMethod className method => ofMethod (fold className) (fold method)
  | ofVariable className method name => ofVariable (fold className) (fold method) (fold name)

/-- The address that a query asks for. What is asked for beside a field, or beside a class without a method, plays
no part. -/
def Console.Query.address : Query → Address
  | ⟨className, some field, _, _⟩ => .ofField className field
  | ⟨className, none, none, _⟩ => .ofClass className
  | ⟨className, none, some method, none⟩ => .ofMethod className method
  | ⟨className, none, some method, some name⟩ => .ofVariable className method name

/-- The rows of a method, each with its address. -/
def MethodTable.addressed (className : String) (method : MethodTable) : List (Address × Row) :=
  (.ofMethod className method.name.spelling, method.row) ::
    (method.scope.values.mergeSort variableOrder).map fun v =>
      (.ofVariable className method.name.spelling v.name.spelling, v.row)

/-- The rows of a class, each with its address. -/
def ClassTable.addressed (cls : ClassTable) : List (Address × Row) :=
  (.ofClass cls.name.spelling, cls.row) ::
    (cls.fields.toList.mergeSort fun a b => nameOrder a.1 b.1).map
      (fun f => (.ofField cls.name.spelling f.1, .ofField f.1 f.2.type)) ++
    (cls.methods.values.mergeSort fun a b => nameOrder a.name.spelling b.name.spelling).flatMap
      (MethodTable.addressed cls.name.spelling)

/-- The rows of a table, each with its address. -/
def SymbolTable.addressed (table : SymbolTable) : List (Address × Row) :=
  (table.classes.values.mergeSort fun a b => nameOrder a.name.spelling b.name.spelling).flatMap
    ClassTable.addressed

theorem MethodTable.addressed_rows (className : String) (method : MethodTable) :
    (method.addressed className).map Prod.snd = method.rows := by
  rw [addressed, List.map_cons, List.map_map, rows]
  rfl

theorem ClassTable.addressed_rows (cls : ClassTable) : cls.addressed.map Prod.snd = cls.rows := by
  rw [addressed, List.cons_append, List.map_cons, List.map_append, List.map_map, List.map_flatMap, rows,
    List.cons_append]
  simp only [MethodTable.addressed_rows]
  rfl

/-- **addressed_rows**: the rows with their addresses are the rows of the listing. -/
theorem SymbolTable.addressed_rows (table : SymbolTable) : table.addressed.map Prod.snd = table.rows := by
  rw [addressed, List.map_flatMap, rows]
  simp only [ClassTable.addressed_rows]

/-! ## §B The rows that a program declares -/

/-- The rows of a program and their addresses, told from its declarations: the first class of every name, and of it
the first field and the first method of every name, and of that the first variable of every name. -/
inductive Program.Declares (program : Program) : Address → Row → Prop where
  | ofClass {cls : ClassDecl} (hcls : cls ∈ firsts ClassDecl.spelling program.classes) :
    Declares program (.ofClass cls.spelling) (.ofClass cls.name cls.parent)
  | ofField {cls : ClassDecl} {field : FieldName} (hcls : cls ∈ firsts ClassDecl.spelling program.classes)
    (hfield : field ∈ firsts FieldName.spelling cls.fieldNames) :
    Declares program (.ofField cls.spelling field.spelling) (.ofField field.spelling field.group.type)
  | ofMethod {cls : ClassDecl} {method : FunctionDecl} (hcls : cls ∈ firsts ClassDecl.spelling program.classes)
    (hmethod : method ∈ firsts FunctionDecl.spelling cls.block.methods) :
    Declares program (.ofMethod cls.spelling method.spelling) (.ofMethod method.name method.returnType)
  | ofVariable {cls : ClassDecl} {method : FunctionDecl} {v : Variable}
    (hcls : cls ∈ firsts ClassDecl.spelling program.classes)
    (hmethod : method ∈ firsts FunctionDecl.spelling cls.block.methods)
    (hv : v ∈ firsts Variable.spelling method.allVariables) :
    Declares program (.ofVariable cls.spelling method.spelling v.spelling) (.ofVariable v)

theorem FunctionDecl.mem_addressed_iff {method : FunctionDecl} {className : String} {entry : Address × Row} :
    entry ∈ method.walk.1.addressed className ↔
      entry = (.ofMethod className method.spelling, .ofMethod method.name method.returnType) ∨
        ∃ v ∈ firsts Variable.spelling method.allVariables,
          (.ofVariable className method.spelling v.spelling, .ofVariable v) = entry := by
  rw [MethodTable.addressed, List.mem_cons, List.mem_map]
  simp only [List.mem_mergeSort, walk_values]
  rfl

theorem ClassDecl.mem_addressed_iff {cls : ClassDecl} {entry : Address × Row} :
    entry ∈ cls.walk.1.addressed ↔
      entry = (.ofClass cls.spelling, .ofClass cls.name cls.parent) ∨
        (∃ field ∈ firsts FieldName.spelling cls.fieldNames,
          (.ofField cls.spelling field.spelling, .ofField field.spelling field.group.type) = entry) ∨
        ∃ method ∈ firsts FunctionDecl.spelling cls.block.methods,
          entry ∈ method.walk.1.addressed cls.spelling := by
  rw [ClassTable.addressed, List.cons_append, List.mem_cons, List.mem_append, List.mem_map, List.mem_flatMap]
  simp only [List.mem_mergeSort, walk_values, walk_toList, List.mem_map, exists_exists_and_eq_and]
  rfl

/-- **mem_addressed_iff**: a listing has just the rows that the program declares, at their addresses. -/
theorem Program.mem_addressed_iff {program : Program} {entry : Address × Row} :
    entry ∈ program.analyse.table.addressed ↔ program.Declares entry.1 entry.2 := by
  rw [SymbolTable.addressed, List.mem_flatMap]
  simp only [List.mem_mergeSort, walk_values, List.mem_map, exists_exists_and_eq_and,
    ClassDecl.mem_addressed_iff, FunctionDecl.mem_addressed_iff]
  constructor
  · rintro ⟨cls, hcls, rfl | ⟨field, hfield, rfl⟩ | ⟨method, hmethod, rfl | ⟨v, hv, rfl⟩⟩⟩
    · exact .ofClass hcls
    · exact .ofField hcls hfield
    · exact .ofMethod hcls hmethod
    · exact .ofVariable hcls hmethod hv
  · obtain ⟨address, row⟩ := entry
    intro h
    cases h with
    | ofClass hcls => exact ⟨_, hcls, .inl rfl⟩
    | ofField hcls hfield => exact ⟨_, hcls, .inr (.inl ⟨_, hfield, rfl⟩)⟩
    | ofMethod hcls hmethod => exact ⟨_, hcls, .inr (.inr ⟨_, hmethod, .inl rfl⟩)⟩
    | ofVariable hcls hmethod hv => exact ⟨_, hcls, .inr (.inr ⟨_, hmethod, .inr ⟨_, hv, rfl⟩⟩)⟩

/-! ## §C Names found in one scope -/

/-- **Lists.attempt_bind_iff**: a run that begins with a look-up and succeeds goes on with the first item of the
name. -/
theorem NameMap.Lists.attempt_bind_iff {β : Type} {spelling : α → String} {value : α → V} {items : List α}
    {map : NameMap V} {failure : NotFound → LookupError} {run : Run β} (h : map.Lists spelling value items)
    (hrun : run.exitCode = 0) {name : String} {next : V → Run β} :
    Run.attempt .ofLookupError ((map.get name).mapError failure) >>= next = run ↔
      ∃ item ∈ firsts spelling items, fold (spelling item) = fold name ∧ next (value item) = run := by
  have hfirst : ∀ item, item ∈ firsts spelling items ∧ fold (spelling item) = fold name ↔
      firstNamed spelling items name = some item := fun item => firstNamed_eq_some_iff.symm
  simp only [← and_assoc, hfirst]
  rw [h.lookup_eq]
  cases firstNamed spelling items name with
  | some item =>
    dsimp only
    rw [Run.attempt_ok_bind]
    simp
  | none =>
    -- A run that fails at the look-up is not the one that succeeds.
    have hne : (⟨[], "", .error (Report.ofLookupError (failure ⟨name⟩))⟩ : Run β) ≠ run := by
      rintro rfl
      exact absurd hrun (Run.exitCode_of_error rfl)
    dsimp only
    rw [Run.attempt_error_bind]
    simpa using hne

/-! ## §D The identifier of a field -/

/-- The first identifier of a name in the groups of a class is that of the first field of the name. -/
theorem firstNamed_names (cls : ClassDecl) (name : String) :
    firstNamed Ident.spelling (cls.block.fields.flatMap VarDecl.names) name =
      (firstNamed FieldName.spelling cls.fieldNames name).map FieldName.name := by
  have hnames : cls.block.fields.flatMap VarDecl.names = cls.fieldNames.map FieldName.name := by
    simp only [ClassDecl.fieldNames, List.map_flatMap, List.map_map, Function.comp_def, List.map_id']
  rw [hnames]
  exact List.find?_map

variable {cls : ClassDecl} {field : FieldName} {name : String}

theorem designated_group (hfield : field ∈ firsts FieldName.spelling cls.fieldNames)
    (hname : fold field.spelling = fold name) : designated field.group name = field.name := by
  rw [designated, find?_group_names hfield hname, Option.getD_some]

theorem fieldText_group (hfield : field ∈ firsts FieldName.spelling cls.fieldNames)
    (hname : fold field.spelling = fold name) :
    fieldText field.group name =
      (Row.ofField field.spelling field.group.type).text ++ Row.place field.name.line := by
  rw [fieldText_eq, designated_group hfield hname]
  rfl

/-! ## §E Answers -/

/-- What a look-up prints behind the row of a listing, if there is an entry: for a field the place of the first
identifier of its name in the groups of its class, and nothing for the others. -/
def Program.addition (program : Program) : Address → Option String
  | .ofField className field =>
    (firstNamed ClassDecl.spelling program.classes className).bind fun cls =>
      (firstNamed Ident.spelling (cls.block.fields.flatMap VarDecl.names) field).map fun name =>
        Row.place name.line
  | _ => some ""

theorem Program.addition_ofField {program : Program} {className : String}
    (hcls : cls ∈ firsts ClassDecl.spelling program.classes) (hclassName : fold cls.spelling = fold className)
    (hfield : field ∈ firsts FieldName.spelling cls.fieldNames) (hname : fold field.spelling = fold name) :
    program.addition (.ofField className name) = some (Row.place field.name.line) := by
  rw [addition, firstNamed_eq_some_iff.mpr ⟨hcls, hclassName⟩, Option.bind_some, firstNamed_names,
    firstNamed_eq_some_iff.mpr ⟨hfield, hname⟩]
  rfl

namespace Program

variable {program : Program}

section Answers

variable {run : Run Unit} (hrun : run.exitCode = 0)

include hrun

theorem answer_ofClass_iff {className : String} {var? : Option String} :
    (⟨className, none, none, var?⟩ : Query).answer program.analyse.table = run ↔
      ∃ cls ∈ firsts ClassDecl.spelling program.classes, fold cls.spelling = fold className ∧
        Run.printLine (Row.ofClass cls.name cls.parent).text = run := by
  refine ((walkClasses_lists program.classes).attempt_bind_iff hrun).trans ?_
  simp only [classText_eq]
  rfl

theorem answer_ofField_iff {className name : String} {method? var? : Option String} :
    (⟨className, some name, method?, var?⟩ : Query).answer program.analyse.table = run ↔
      ∃ cls ∈ firsts ClassDecl.spelling program.classes, fold cls.spelling = fold className ∧
        ∃ field ∈ firsts FieldName.spelling cls.fieldNames, fold field.spelling = fold name ∧
          Run.printLine ((Row.ofField field.spelling field.group.type).text ++ Row.place field.name.line) = run := by
  refine ((walkClasses_lists program.classes).attempt_bind_iff hrun).trans ?_
  refine exists_congr fun cls => and_congr_right fun _ => and_congr_right fun _ => ?_
  refine (cls.walk_fields_lists.attempt_bind_iff hrun).trans ?_
  refine exists_congr fun field => and_congr_right fun hfield => and_congr_right fun hname => ?_
  rw [fieldText_group hfield hname]

theorem answer_ofMethod_iff {className name : String} :
    (⟨className, none, some name, none⟩ : Query).answer program.analyse.table = run ↔
      ∃ cls ∈ firsts ClassDecl.spelling program.classes, fold cls.spelling = fold className ∧
        ∃ method ∈ firsts FunctionDecl.spelling cls.block.methods, fold method.spelling = fold name ∧
          Run.printLine (Row.ofMethod method.name method.returnType).text = run := by
  refine ((walkClasses_lists program.classes).attempt_bind_iff hrun).trans ?_
  refine exists_congr fun cls => and_congr_right fun _ => and_congr_right fun _ => ?_
  refine (cls.walk_methods_lists.attempt_bind_iff hrun).trans ?_
  simp only [methodText_eq]
  rfl

theorem answer_ofVariable_iff {className methodName name : String} :
    (⟨className, none, some methodName, some name⟩ : Query).answer program.analyse.table = run ↔
      ∃ cls ∈ firsts ClassDecl.spelling program.classes, fold cls.spelling = fold className ∧
        ∃ method ∈ firsts FunctionDecl.spelling cls.block.methods, fold method.spelling = fold methodName ∧
          ∃ v ∈ firsts Variable.spelling method.allVariables, fold v.spelling = fold name ∧
            Run.printLine (Row.ofVariable v).text = run := by
  refine ((walkClasses_lists program.classes).attempt_bind_iff hrun).trans ?_
  refine exists_congr fun cls => and_congr_right fun _ => and_congr_right fun _ => ?_
  refine (cls.walk_methods_lists.attempt_bind_iff hrun).trans ?_
  refine exists_congr fun method => and_congr_right fun _ => and_congr_right fun _ => ?_
  refine (method.walk_scope_lists.attempt_bind_iff hrun).trans ?_
  simp only [variableText_eq]
  rfl

end Answers

/-- **Declares.answered**: what is declared is found by every query for its address, in any case. -/
theorem Declares.answered {address : Address} {row : Row} (h : program.Declares address row) {query : Query}
    (hasked : query.address.folded = address.folded) :
    ∃ more, program.addition query.address = some more ∧
      query.answer program.analyse.table = Run.printLine (row.text ++ more) := by
  -- Folding keeps the kind of an address, so only one form of query is left in each case.
  cases h with
  | @ofClass cls hcls =>
    match query, hasked with
    | ⟨className, none, none, _⟩, hasked =>
      have hclassName := (Address.ofClass.inj hasked).symm
      refine ⟨"", rfl, (answer_ofClass_iff rfl).mpr ⟨cls, hcls, hclassName, ?_⟩⟩
      rw [String.append_empty]
  | @ofField cls field hcls hfield =>
    match query, hasked with
    | ⟨className, some name, _, _⟩, hasked =>
      obtain ⟨hclassName, hname⟩ := (Address.ofField.inj hasked).imp Eq.symm Eq.symm
      exact ⟨_, addition_ofField hcls hclassName hfield hname,
        (answer_ofField_iff rfl).mpr ⟨cls, hcls, hclassName, field, hfield, hname, rfl⟩⟩
  | @ofMethod cls method hcls hmethod =>
    match query, hasked with
    | ⟨className, none, some name, none⟩, hasked =>
      obtain ⟨hclassName, hname⟩ := (Address.ofMethod.inj hasked).imp Eq.symm Eq.symm
      refine ⟨"", rfl, (answer_ofMethod_iff rfl).mpr ⟨cls, hcls, hclassName, method, hmethod, hname, ?_⟩⟩
      rw [String.append_empty]
  | @ofVariable cls method v hcls hmethod hv =>
    match query, hasked with
    | ⟨className, none, some methodName, some name⟩, hasked =>
      obtain ⟨hclassName, hmethodName, hname⟩ := Address.ofVariable.inj hasked
      refine ⟨"", rfl, (answer_ofVariable_iff rfl).mpr
        ⟨cls, hcls, hclassName.symm, method, hmethod, hmethodName.symm, v, hv, hname.symm, ?_⟩⟩
      rw [String.append_empty]

/-- **declares_of_answer**: a query that is answered is answered with what is declared at its address. -/
theorem declares_of_answer {query : Query} (h : (query.answer program.analyse.table).exitCode = 0) :
    ∃ address row more, program.Declares address row ∧ address.folded = query.address.folded ∧
      program.addition query.address = some more ∧
      query.answer program.analyse.table = Run.printLine (row.text ++ more) := by
  generalize hanswer : query.answer program.analyse.table = run at h ⊢
  obtain ⟨className, field?, method?, var?⟩ := query
  cases field? with
  | some name =>
    obtain ⟨cls, hcls, hclassName, field, hfield, hname, rfl⟩ := (answer_ofField_iff h).mp hanswer
    refine ⟨_, _, _, .ofField hcls hfield, ?_, addition_ofField hcls hclassName hfield hname, rfl⟩
    rw [Address.folded, hclassName, hname]
    rfl
  | none =>
    cases method? with
    | none =>
      obtain ⟨cls, hcls, hclassName, rfl⟩ := (answer_ofClass_iff h).mp hanswer
      refine ⟨_, _, "", .ofClass hcls, ?_, rfl, by rw [String.append_empty]⟩
      rw [Address.folded, hclassName]
      rfl
    | some methodName =>
      cases var? with
      | none =>
        obtain ⟨cls, hcls, hclassName, method, hmethod, hmethodName, rfl⟩ := (answer_ofMethod_iff h).mp hanswer
        refine ⟨_, _, "", .ofMethod hcls hmethod, ?_, rfl, by rw [String.append_empty]⟩
        rw [Address.folded, hclassName, hmethodName]
        rfl
      | some name =>
        obtain ⟨cls, hcls, hclassName, method, hmethod, hmethodName, v, hv, hname, rfl⟩ :=
          (answer_ofVariable_iff h).mp hanswer
        refine ⟨_, _, "", .ofVariable hcls hmethod hv, ?_, rfl, by rw [String.append_empty]⟩
        rw [Address.folded, hclassName, hmethodName, hname]
        rfl

end Program

/-- **listing_addressed**: a listing consists of the rows at all addresses, each as blanks, its text and a line
break. -/
theorem SymbolTable.listing_addressed (table : SymbolTable) :
    table.listing = String.join (table.addressed.map fun entry =>
      String.ofList (List.replicate entry.2.depth ' ') ++ entry.2.text ++ "\n") := by
  rw [listing_eq, ← addressed_rows, List.map_map]
  congr 2
  exact funext fun entry => entry.2.written_eq

/-- What the two commands print about a file that holds a program that is built. -/
theorem Console.Holds.printed {contents : Except ReadError ByteArray} {program : Program} {table : SymbolTable}
    (hheld : Holds contents program) (hbuild : program.build = .ok table) (path : String) :
    ((Command.symbols path).run contents).printed = table.listing ∧
      ∀ query, ((Command.lookup path query).run contents).printed = (query.answer table).printed := by
  have hprinted : ∀ command : Command,
      (command.run contents).printed = (command.finish table).printed := by
    intro command
    have htable : (examine command.path contents).result = .ok table := by
      rw [hheld.examine_eq, hbuild]
      rfl
    rw [command.run_built htable]
  exact ⟨hprinted _, fun query => hprinted _⟩

/-- **lookups_match_listing**: a listing and the look-ups of a program that is built agree. A listing prints the rows
at all addresses, each on one line: blanks, the text of the row and a line break. Every query for the address of a row,
in any case, is answered with one line that has just that text, and for a field the place of the first identifier of
its name behind it; and every answer is such a line. So it is with what the two commands print about a file that holds
the program. The identifier that a field is answered with is always found in its group, and it is the one whose
spelling the table holds. -/
theorem Program.lookups_match_listing {program : Program} {table : SymbolTable}
    (h : program.build = .ok table) (path : String) :
    table.listing = String.join (table.addressed.map fun entry =>
        String.ofList (List.replicate entry.2.depth ' ') ++ entry.2.text ++ "\n") ∧
      (∀ entry ∈ table.addressed, ∀ query : Query, query.address.folded = entry.1.folded →
        ∃ more, program.addition query.address = some more ∧
          query.answer table = ⟨[], entry.2.text ++ more ++ "\n", .ok ()⟩) ∧
      (∀ query : Query, (query.answer table).exitCode = 0 →
        ∃ entry ∈ table.addressed, entry.1.folded = query.address.folded ∧
          ∃ more, program.addition query.address = some more ∧
            query.answer table = ⟨[], entry.2.text ++ more ++ "\n", .ok ()⟩) ∧
      (∀ contents, Holds contents program →
        ((Command.symbols path).run contents).printed = table.listing ∧
          ∀ query, ((Command.lookup path query).run contents).printed = (query.answer table).printed) ∧
      ∀ cls ∈ table.classList, ∀ name group, cls.lookupField name = .ok group →
        group.names ≠ [] ∧
          (group.names.find? fun declared => fold declared.spelling == fold name) = some (designated group name) ∧
          cls.fields.spelling? name = some (designated group name).spelling := by
  obtain ⟨rfl, -⟩ := build_eq_ok_iff.mp h
  refine ⟨SymbolTable.listing_addressed _, ?_, ?_, fun contents hheld => hheld.printed h path, ?_⟩
  · intro entry hentry query hasked
    exact (mem_addressed_iff.mp hentry).answered hasked
  · intro query hanswered
    obtain ⟨address, row, more, hdeclared, haddress, hmore, hanswer⟩ := declares_of_answer hanswered
    exact ⟨(address, row), mem_addressed_iff.mpr hdeclared, haddress, more, hmore, hanswer⟩
  · intro found hfound name group hgroup
    rw [SymbolTable.classList, walk_values] at hfound
    obtain ⟨cls, -, rfl⟩ := List.mem_map.mp hfound
    obtain ⟨field, hfield, hname, rfl⟩ := cls.walk_fields_lists.get_eq_ok_iff.mp hgroup
    have hfirst := find?_group_names hfield hname
    rw [designated_group hfield hname]
    refine ⟨List.ne_nil_of_mem (List.mem_of_find?_eq_some hfirst), hfirst, ?_⟩
    rw [cls.walk_fields_lists.spelling?_eq, firstNamed_eq_some_iff.mpr ⟨hfield, hname⟩]
    rfl

/-- `bank` declares the field `owner` three times, in three spellings and with two types. The first of them is listed,
and it is found by the spelling of the second. -/
theorem bank_owner_found :
    bank.build = .ok bank.analyse.table ∧
      (Address.ofField "Account" "owner", Row.ofField "owner" .integer) ∈ bank.analyse.table.addressed ∧
      (Query.answer ⟨"ACCOUNT", some "OWNER", none, none⟩ bank.analyse.table).printed =
        "field owner: integer (line 2)\n" := by
  have hcls : bank.classes.head nofun ∈ firsts ClassDecl.spelling bank.classes :=
    mem_firsts_iff.mpr ⟨[], _, rfl, nofun⟩
  have hfield : (bank.classes.head nofun).fieldNames.head nofun ∈
      firsts FieldName.spelling (bank.classes.head nofun).fieldNames :=
    mem_firsts_iff.mpr ⟨[], _, rfl, nofun⟩
  have hentry :
      (Address.ofField "Account" "owner", Row.ofField "owner" .integer) ∈ bank.analyse.table.addressed :=
    Program.mem_addressed_iff.mpr (.ofField hcls hfield)
  have hclassName : fold "Account" = fold "ACCOUNT" := by decide +kernel
  have hname : fold "owner" = fold "OWNER" := by decide +kernel
  obtain ⟨-, hfound, -⟩ := Program.lookups_match_listing bank_built "bank.json"
  obtain ⟨more, hmore, hanswer⟩ := hfound _ hentry ⟨"ACCOUNT", some "OWNER", none, none⟩ <| by
    show Address.ofField (fold "ACCOUNT") (fold "OWNER") = .ofField (fold "Account") (fold "owner")
    rw [hclassName, hname]
  have hplace := Option.some.inj (hmore.symm.trans (Program.addition_ofField hcls hclassName hfield hname))
  rw [hplace] at hanswer
  refine ⟨bank_built, hentry, (congrArg Run.printed hanswer).trans ?_⟩
  decide +kernel

end ScopeTable
