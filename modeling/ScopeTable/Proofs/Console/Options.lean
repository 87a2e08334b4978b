/-
# ScopeTable.Proofs.Console.Options -- what becomes of the options of a look-up

The usage of a look-up puts every name in a scope: a field and a method in the class, a variable in the method.
`Program.Resolves` says that each name of a query stands for something there. A look-up whose options fit the usage
succeeds just when they do, and prints the one entry that has all these names.

There is one combination that is let through although it does not fit: a variable beside a field. A variable needs a
method, but a field excludes one, and with it the need for it. The field alone is then looked up, and what the variable
stands for, if anything, plays no part (`options_honoured`, `bank_ghost_unnoticed`).
-/
import ScopeTable.Proofs.Console.Agreement
import ScopeTable.Proofs.Console.Given

namespace ScopeTable

open Text Console

variable {program : Program}

/-! ## §A Names in the scopes of the usage -/

/-- Every name that a query gives stands for something in its scope: a field and a method in the class, and a variable
in the method. -/
def Program.Resolves (program : Program) (query : Query) : Prop :=
  ∃ cls, firstNamed ClassDecl.spelling program.classes query.className = some cls ∧
    (∀ name ∈ query.field?, (firstNamed FieldName.spelling cls.fieldNames name).isSome) ∧
    (∀ name ∈ query.method?, (firstNamed FunctionDecl.spelling cls.block.methods name).isSome) ∧
    ∀ name ∈ query.var?, ∃ methodName ∈ query.method?, ∃ method,
      firstNamed FunctionDecl.spelling cls.block.methods methodName = some method ∧
        (firstNamed Variable.spelling method.allVariables name).isSome

/-- The query that gives just the names of an address. -/
def Address.query : Address → Query
  | .ofClass className => ⟨className, none, none, none⟩
  | .ofField className field => ⟨className, some field, none, none⟩
  | .ofMethod className method => ⟨className, none, some method, none⟩
  | .ofVariable className method name => ⟨className, none, some method, some name⟩

/-- The options of a query fit the usage: its address has all of its names. -/
theorem Console.Query.Admitted.address_query {query : Query} (h : query.Admitted)
    (hfits : query.field? = none ∨ query.var? = none) : query.address.query = query := by
  obtain ⟨className, field?, method?, var?⟩ := query
  obtain ⟨halone, hneeded⟩ := h
  dsimp only at halone hneeded hfits
  cases field? with
  | some field =>
    obtain rfl := halone.resolve_left nofun
    obtain rfl := hfits.resolve_left nofun
    rfl
  | none =>
    cases method? with
    | some method => cases var? <;> rfl
    | none =>
      obtain rfl : var? = none := by simpa using hneeded
      rfl

/-- **resolves_iff**: the names of an address resolve when none of them is missing. -/
theorem Program.resolves_iff (program : Program) (address : Address) :
    program.Resolves address.query ↔ program.missing? address = none := by
  have hinside : program.Resolves address.query ↔
      ∃ cls, firstNamed ClassDecl.spelling program.classes address.className = some cls ∧
        cls.missing? address = none := by
    cases address with
    | ofClass className => simp [Resolves, Address.query, Address.className, ClassDecl.missing?]
    | ofField className name =>
      simp only [Resolves, Address.query, Address.className, ClassDecl.missing?]
      refine exists_congr fun cls => and_congr_right fun _ => ?_
      cases hfield : firstNamed FieldName.spelling cls.fieldNames name <;> simp [hfield]
    | ofMethod className name =>
      simp only [Resolves, Address.query, Address.className, ClassDecl.missing?]
      refine exists_congr fun cls => and_congr_right fun _ => ?_
      cases hmethod : firstNamed FunctionDecl.spelling cls.block.methods name <;> simp [hmethod]
    | ofVariable className methodName name =>
      simp only [Resolves, Address.query, Address.className, ClassDecl.missing?]
      refine exists_congr fun cls => and_congr_right fun _ => ?_
      cases hmethod : firstNamed FunctionDecl.spelling cls.block.methods methodName with
      | none => simp [hmethod]
      | some method =>
        cases hvariable : firstNamed Variable.spelling method.allVariables name <;> simp [hmethod, hvariable]
  rw [hinside, missing?]
  cases firstNamed ClassDecl.spelling program.classes address.className <;> simp

/-! ## §B One entry at an address -/

/-- Of the first items of their names, one is told by the fold of its name. -/
theorem firsts_unique {α : Type} {spelling : α → String} {items : List α} {item other : α}
    (h : item ∈ firsts spelling items) (hother : other ∈ firsts spelling items)
    (hname : fold (spelling other) = fold (spelling item)) : other = item := by
  have hfound := firstNamed_eq_some_iff.mpr ⟨h, rfl⟩
  have hfound' := firstNamed_eq_some_iff.mpr ⟨hother, hname⟩
  exact Option.some.inj (hfound'.symm.trans hfound)

/-- **Declares.unique**: at an address there is one row, whatever the case of its names. -/
theorem Program.Declares.unique {address other : Address} {row otherRow : Row} (h : program.Declares address row)
    (hother : program.Declares other otherRow) (hsame : other.folded = address.folded) :
    (other, otherRow) = (address, row) := by
  -- Folding keeps the kind of an address, so both are of one kind.
  cases h with
  | ofClass hcls =>
    cases hother with
    | ofClass hcls' => rw [firsts_unique hcls hcls' (Address.ofClass.inj hsame)]
    | _ => cases hsame
  | ofField hcls hfield =>
    cases hother with
    | ofField hcls' hfield' =>
      obtain ⟨hclassName, hname⟩ := Address.ofField.inj hsame
      obtain rfl := firsts_unique hcls hcls' hclassName
      rw [firsts_unique hfield hfield' hname]
    | _ => cases hsame
  | ofMethod hcls hmethod =>
    cases hother with
    | ofMethod hcls' hmethod' =>
      obtain ⟨hclassName, hname⟩ := Address.ofMethod.inj hsame
      obtain rfl := firsts_unique hcls hcls' hclassName
      rw [firsts_unique hmethod hmethod' hname]
    | _ => cases hsame
  | ofVariable hcls hmethod hv =>
    cases hother with
    | ofVariable hcls' hmethod' hv' =>
      obtain ⟨hclassName, hmethodName, hname⟩ := Address.ofVariable.inj hsame
      obtain rfl := firsts_unique hcls hcls' hclassName
      obtain rfl := firsts_unique hmethod hmethod' hmethodName
      rw [firsts_unique hv hv' hname]
    | _ => cases hsame

/-! ## §C The entry that has all the names -/

/-- The query with its names folded. -/
def Console.Query.folded (query : Query) : Query :=
  ⟨fold query.className, query.field?.map fold, query.method?.map fold, query.var?.map fold⟩

theorem Address.folded_query (address : Address) : address.folded.query = address.query.folded := by
  cases address <;> rfl

theorem Address.query_injective : Function.Injective Address.query := by
  have hback : ∀ address : Address, address.query.address = address := by
    intro address
    cases address <;> rfl
  exact Function.LeftInverse.injective hback

/-- A text is what a look-up prints of the one entry of a program that has all the names of a query and no others, in
whatever case. -/
def Program.PrintsEntry (program : Program) (query : Query) (printed : String) : Prop :=
  ∃ entry ∈ program.analyse.table.addressed, entry.1.folded.query = query.folded ∧
    (∀ other ∈ program.analyse.table.addressed, other.1.folded.query = query.folded → other = entry) ∧
      ∃ more, program.addition query.address = some more ∧ printed = entry.2.text ++ more ++ "\n"

/-- **printsEntry**: what answers a query whose address has all its names is printed of the entry that has them. -/
theorem Program.printsEntry {query : Query} (hquery : query.address.query = query)
    (h : (query.answer program.analyse.table).exitCode = 0) :
    program.PrintsEntry query (query.answer program.analyse.table).printed := by
  have hsame : ∀ address : Address, address.folded.query = query.folded ↔ address.folded = query.address.folded := by
    intro address
    conv_lhs => rw [← hquery, ← Address.folded_query]
    exact Address.query_injective.eq_iff
  obtain ⟨address, row, more, hdeclared, haddress, hmore, hanswer⟩ := declares_of_answer h
  rw [hanswer]
  refine ⟨(address, row), mem_addressed_iff.mpr hdeclared, (hsame _).mpr haddress, ?_, more, hmore, rfl⟩
  rintro ⟨other, otherRow⟩ hother hfolded
  exact hdeclared.unique (mem_addressed_iff.mp hother) (((hsame _).mp hfolded).trans haddress.symm)

/-! ## §D Look-ups as processes -/

namespace Console

variable {files : String → Except ReadError ByteArray} {path : String} {query : Query} {table : SymbolTable}

/-- What a process leaves behind that is asked for a look-up. -/
theorem process_lookup {args : List String} (h : Command.ofArguments args = .ok (.lookup path query))
    (environment : Environment) (files : String → Except ReadError ByteArray) :
    process args environment files =
      let run := (Command.lookup path query).run (files path)
      ⟨run.exitCode, run.printed, writtenOf (Settings.ofEnvironment environment).verbosity run.notices,
        run.report?, run.report?.isSome && (Settings.ofEnvironment environment).color.coloursAnywhere⟩ := by
  unfold process
  rw [h]
  rfl

/-- The exit code of such a process, and what it prints. -/
theorem process_left {args : List String} (h : Command.ofArguments args = .ok (.lookup path query))
    (environment : Environment) (files : String → Except ReadError ByteArray) :
    (process args environment files).exitCode = ((Command.lookup path query).run (files path)).exitCode ∧
      (process args environment files).printed = ((Command.lookup path query).run (files path)).printed := by
  rw [process_lookup h]
  exact ⟨rfl, rfl⟩

/-- **run_lookup**: a look-up in a program that is built succeeds when the names of its address resolve, and what it
leaves is what answers the query. -/
theorem run_lookup (hheld : Holds (files path) program) (hbuild : program.build = .ok table) (query : Query) :
    let run := (Command.lookup path query).run (files path)
    (run.exitCode = 0 ↔ program.Resolves query.address.query) ∧
      run.exitCode = (query.answer program.analyse.table).exitCode ∧
      run.printed = (query.answer program.analyse.table).printed := by
  obtain ⟨rfl, -⟩ := Program.build_eq_ok_iff.mp hbuild
  have hresult : (examine path (files path)).result = .ok program.analyse.table := by
    rw [hheld.examine_eq, hbuild]
    rfl
  refine ⟨?_, ?_⟩
  · rw [Run.exitCode_eq_zero_iff, Command.lookup_report hheld hbuild, Option.map_eq_none_iff, program.resolves_iff]
  · rw [(Command.lookup path query).run_built hresult]
    exact ⟨rfl, rfl⟩

/-- A variable beside a field plays no part. -/
theorem run_beside_field {field : String} (hfield : query.field? = some field)
    (contents : Except ReadError ByteArray) :
    (Command.lookup path query).run contents = (Command.lookup path { query with var? := none }).run contents := by
  obtain ⟨className, field?, method?, var?⟩ := query
  obtain rfl : field? = some field := hfield
  rfl

/-- **options_honoured**: which options a look-up lets through, and what becomes of them when the program is built. A
field and a method exclude each other, and a variable needs one of the two; no option may be given twice, and the query
has all that are given. Unless there is a variable beside a field, the look-up succeeds exactly when every name resolves
in its scope, and prints the one entry that has all the names. With a variable beside a field, all is as it is without
the variable. -/
theorem options_honoured (hbuild : program.build = .ok table) (hpath : path ≠ "") (hheld : Holds (files path) program)
    (environment : Environment) :
    (∀ query, (∃ args, Command.ofArguments ("lookup" :: args) = .ok (.lookup path query)) ↔ query.Admitted) ∧
    ∀ args query, Command.ofArguments ("lookup" :: args) = .ok (.lookup path query) →
      let found := process ("lookup" :: args) environment files
      ((optionsGiven none args).map Prod.fst).Nodup ∧
        (∀ name, (optionsGiven none args).lookup name = query.value? name) ∧
        (query.field? = none ∨ query.var? = none →
          (found.exitCode = 0 ↔ program.Resolves query) ∧
            (found.exitCode = 0 → program.PrintsEntry query found.printed)) ∧
        ∀ field others, query.field? = some field →
          Command.ofArguments ("lookup" :: others) = .ok (.lookup path { query with var? := none }) →
            found = process ("lookup" :: others) environment files := by
  refine ⟨fun query => ⟨?_, fun h => ⟨query.arguments path, readLookup_arguments hpath h⟩⟩, ?_⟩
  · rintro ⟨args, hargs⟩
    exact (readLookup_sound hargs).1
  · intro args query hargs
    obtain ⟨hnodup, hvalues⟩ := readLookup_given hargs
    have hadmitted := (readLookup_sound hargs).1
    refine ⟨hnodup, hvalues, ?_, ?_⟩
    · intro hfits
      obtain ⟨hsuccess, hexit, hprinted⟩ := run_lookup hheld hbuild query
      have hquery := hadmitted.address_query hfits
      rw [hquery] at hsuccess
      rw [process_lookup hargs]
      refine ⟨hsuccess, fun h => ?_⟩
      show program.PrintsEntry query ((Command.lookup path query).run (files path)).printed
      rw [hprinted]
      exact Program.printsEntry hquery (hexit.symm.trans h)
    · intro field others hfield hothers
      rw [process_lookup hargs, process_lookup hothers, run_beside_field hfield]

/-- Files of which each holds `bank`. -/
def bankFiles : String → Except ReadError ByteArray := fun _ => .ok (Grammar.encode .program bank).toUTF8

theorem bank_held (path : String) : Holds (bankFiles path) bank := by
  have hwritable : Grammar.Shape.Writable (.node .program) bank := fun leaf hleaf => nomatch hleaf
  have hdocument : Json.Document.ofChars (Grammar.encode .program bank).toList =
      ⟨Grammar.toJson .program bank, .ok ()⟩ := by
    show Json.Document.ofChars (Grammar.toJson .program bank).render.toList = _
    rw [Json.render, String.toList_ofList]
    exact Json.Document.ofChars_written (Grammar.toJson_legible (.node .program) bank hwritable)
  refine ⟨_, readText_utf8 _, ?_⟩
  rw [Grammar.decode, hdocument]
  rfl

/-- In `bank` a variable is looked up in its method, with names in any case. -/
theorem bank_sum_found :
    let query : Query := ⟨"ACCOUNT", none, some "balance", some "Sum"⟩
    let found := process ("lookup" :: query.arguments "bank.json") (fun _ => none) bankFiles
    query.arguments "bank.json" = ["--class=ACCOUNT", "--method=balance", "--var=Sum", "--", "bank.json"] ∧
      found.exitCode = 0 ∧ found.printed = "local sum: real (line 5)\n" := by
  have hpath : "bank.json" ≠ "" := by decide
  obtain ⟨-, hall⟩ := options_honoured bank_built hpath (bank_held "bank.json") fun _ => none
  obtain ⟨-, -, hfits, -⟩ := hall _ ⟨"ACCOUNT", none, some "balance", some "Sum"⟩
    (readLookup_arguments hpath ⟨.inl rfl, .inr (.inl nofun)⟩)
  obtain ⟨hsuccess, hprinted⟩ := hfits (.inl rfl)
  have hexit := hsuccess.mpr ((bank.resolves_iff (.ofVariable "ACCOUNT" "balance" "Sum")).mpr (by decide +kernel))
  obtain ⟨entry, -, -, hunique, more, hmore, htext⟩ := hprinted hexit
  have hcls : bank.classes.head nofun ∈ firsts ClassDecl.spelling bank.classes :=
    mem_firsts_iff.mpr ⟨[], _, rfl, nofun⟩
  have hmethod : (bank.classes.head nofun).block.methods.head nofun ∈
      firsts FunctionDecl.spelling (bank.classes.head nofun).block.methods :=
    mem_firsts_iff.mpr ⟨[], _, rfl, nofun⟩
  have hsum : (⟨.localVar, .new "sum" 5, .real, 5⟩ : Variable) ∈
      firsts Variable.spelling ((bank.classes.head nofun).block.methods.head nofun).allVariables :=
    (firstNamed_eq_some_iff.mp (show firstNamed _ _ "sum" = _ from rfl)).1
  have hentry := hunique (.ofVariable "Account" "Balance" "sum", .ofVariable ⟨.localVar, .new "sum" 5, .real, 5⟩)
    (Program.mem_addressed_iff.mpr (.ofVariable hcls hmethod hsum)) (by decide +kernel)
  rw [← hentry, ← Option.some.inj hmore] at htext
  refine ⟨rfl, hexit, htext.trans ?_⟩
  decide +kernel

/-- In `bank` the field `owner` is printed, whatever stands beside it. -/
theorem bank_owner_beside_ghost :
    (Query.answer ⟨"Account", some "owner", none, some "ghost"⟩ bank.analyse.table).printed =
      "field owner: integer (line 2)\n" := by
  have hcls : bank.classes.head nofun ∈ firsts ClassDecl.spelling bank.classes :=
    mem_firsts_iff.mpr ⟨[], _, rfl, nofun⟩
  have hfield : (bank.classes.head nofun).fieldNames.head nofun ∈
      firsts FieldName.spelling (bank.classes.head nofun).fieldNames :=
    mem_firsts_iff.mpr ⟨[], _, rfl, nofun⟩
  have hanswer : Query.answer ⟨"Account", some "owner", none, some "ghost"⟩ bank.analyse.table =
      Run.printLine ((Row.ofField "owner" .integer).text ++ Row.place 2) :=
    (Program.answer_ofField_iff rfl).mpr ⟨_, hcls, rfl, _, hfield, rfl, rfl⟩
  rw [hanswer]
  show (Row.ofField "owner" .integer).text ++ Row.place 2 ++ "\n" = _
  decide +kernel

/-- In `bank` no variable has the name `ghost`. It is given for one, beside a field, and yet the look-up succeeds and
prints the field. -/
theorem bank_ghost_unnoticed :
    let query : Query := ⟨"Account", some "owner", none, some "ghost"⟩
    let args := query.arguments "bank.json"
    let found := process ("lookup" :: args) (fun _ => none) bankFiles
    args = ["--class=Account", "--field=owner", "--var=ghost", "--", "bank.json"] ∧
      bank.build = .ok bank.analyse.table ∧ Holds (bankFiles "bank.json") bank ∧
      Command.ofArguments ("lookup" :: args) = .ok (.lookup "bank.json" query) ∧
      (optionsGiven none args).lookup .var = some "ghost" ∧ ¬bank.Resolves query ∧
      (∀ cls ∈ bank.classes, ∀ method ∈ cls.block.methods,
        (firstNamed Variable.spelling method.allVariables "ghost").isNone) ∧
      found.exitCode = 0 ∧ found.printed = "field owner: integer (line 2)\n" := by
  have hargs : Command.ofArguments
      ("lookup" :: Query.arguments ⟨"Account", some "owner", none, some "ghost"⟩ "bank.json") = .ok (.lookup _ _) :=
    readLookup_arguments (by decide) ⟨.inr rfl, .inr (.inr nofun)⟩
  have hunresolved : ¬bank.Resolves ⟨"Account", some "owner", none, some "ghost"⟩ := by
    rintro ⟨cls, -, -, -, hvariable⟩
    obtain ⟨_, hmethod, -⟩ := hvariable "ghost" rfl
    cases hmethod
  obtain ⟨hsuccess, -, hprinted⟩ :=
    run_lookup (bank_held "bank.json") bank_built ⟨"Account", some "owner", none, some "ghost"⟩
  have hexit := hsuccess.mpr ((bank.resolves_iff (.ofField "Account" "owner")).mpr (by decide +kernel))
  obtain ⟨hcode, hlines⟩ := process_left hargs (fun _ => none) bankFiles
  refine ⟨rfl, bank_built, bank_held _, hargs, (readLookup_given hargs).2 .var, hunresolved, by decide +kernel,
    hcode.trans hexit, ?_⟩
  rw [hlines, hprinted]
  exact bank_owner_beside_ghost

end Console

end ScopeTable
