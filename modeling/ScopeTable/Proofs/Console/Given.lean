/-
# ScopeTable.Proofs.Console.Given -- the options that the arguments of a look-up give

`optionsGiven` reads off a list of arguments which options stand in it and with which values, without judging any of
it. The reading that judges takes in one target after the other and stops at the first mistake. If it comes to the end,
it has taken in just these options (`Draft.read_follows`), so the query of a look-up has the options that are given
and no others, each with its one value (`readLookup_given`).

Which options may stand together does not depend on how they are spelled. `Query.arguments` spells any query out, and
reading that tells the queries that a look-up can be asked (`readLookup_arguments`).
-/
import Mathlib.Data.List.Nodup
import ScopeTable.Console.Arguments
import ScopeTable.Proofs.Json.Scanning

namespace ScopeTable.Console

/-! ## §A Options that stand in arguments -/

/-- The options in front of a separator, each with the value joined to it or else the argument behind it. The option
that awaits a value takes the first argument. -/
def optionsGiven : Option OptionName → List String → List (OptionName × String)
  | _, [] => []
  | some name, value :: args => (name, value) :: optionsGiven none args
  | none, arg :: args =>
    match Word.of arg with
    | .separator => []
    | .long name value =>
      match OptionName.all.find? (fun option => option.word == name), value with
      | some option, some value => (option, value) :: optionsGiven none args
      | some option, none => optionsGiven (some option) args
      | none, _ => optionsGiven none args
    | _ => optionsGiven none args

/-- The value of an option in a query. -/
def Query.value? (query : Query) : OptionName → Option String
  | .ofClass => some query.className
  | .field => query.field?
  | .method => query.method?
  | .var => query.var?

namespace Draft

/-! ## §B What a draft holds -/

/-- What a target amounts to as an option, once its value has come. -/
def given : Target → Option String → List (OptionName × String)
  | .option name, some value => [(name, value)]
  | _, _ => []

/-- The options of a draft: those taken in, and the one met last if its value has come. -/
def options (draft : Draft) : List (OptionName × String) :=
  draft.values.flatMap (fun taken => given taken.1 (some taken.2)) ++
    match draft.pending with
    | some (target, value) => given target value
    | none => []

/-- The option met last, if it awaits its value. -/
def awaiting (draft : Draft) : Option OptionName :=
  match draft.pending with
  | some (.option name, none) => some name
  | _ => none

/-- A draft has come from another by further options, and no target has a second value. -/
structure Follows (draft : Draft) (more : List (OptionName × String)) (next : Draft) : Prop where
  options : next.options = draft.options ++ more
  nodup : (draft.values.map Prod.fst).Nodup → (next.values.map Prod.fst).Nodup

variable {draft next last : Draft} {more further : List (OptionName × String)}

theorem Follows.refl (draft : Draft) : draft.Follows [] draft := ⟨(List.append_nil _).symm, id⟩

theorem Follows.trans (h : draft.Follows more next) (hnext : next.Follows further last) :
    draft.Follows (more ++ further) last := by
  refine ⟨?_, hnext.nodup ∘ h.nodup⟩
  rw [hnext.options, h.options, List.append_assoc]

/-- A target without a value has not been taken in. -/
theorem not_mem_of_value?_eq_none {target : Target} (h : draft.value? target = none) :
    target ∉ draft.values.map Prod.fst := by
  intro hmem
  obtain ⟨taken, htaken, rfl⟩ := List.mem_map.mp hmem
  simpa using List.lookup_eq_none_iff.mp h taken htaken

/-! ## §C Single arguments -/

/-- **settle_follows**: to take in what is pending adds no option, and it fails for one that awaits its value. -/
theorem settle_follows (h : draft.settle = .ok next) :
    draft.Follows [] next ∧ next.pending = none ∧ draft.awaiting = none := by
  obtain ⟨values, pending⟩ := draft
  match pending with
  | none =>
    obtain rfl := Except.ok.inj h
    exact ⟨.refl _, rfl, rfl⟩
  | some (target, none) => cases h
  | some (target, some value) =>
    simp only [settle] at h
    split at h
    · cases h
    · rename_i hfree
      split at h
      · cases h
      · obtain rfl := Except.ok.inj h
        have hnew := not_mem_of_value?_eq_none (Option.not_isSome_iff_eq_none.mp hfree)
        refine ⟨⟨?_, ?_⟩, rfl, ?_⟩
        · simp [options]
        · intro hnodup
          rw [List.map_append]
          exact List.Nodup.append hnodup (List.nodup_singleton _) (List.disjoint_singleton.mpr hnew)
        · cases target <;> rfl

/-- **meet_follows**: to meet a target adds the option that it is, if its value is at hand. -/
theorem meet_follows {target : Target} {value : Option String} (h : draft.meet target value = .ok next) :
    draft.Follows (given target value) next ∧ next.pending = some (target, value) ∧ draft.awaiting = none := by
  obtain ⟨settled, hsettled, h⟩ := Json.bind_eq_ok_iff.mp h
  obtain rfl := Except.ok.inj h
  obtain ⟨hfollows, hpending, hawaiting⟩ := settle_follows hsettled
  refine ⟨⟨?_, hfollows.nodup⟩, rfl, hawaiting⟩
  have hoptions := hfollows.options
  rw [options, hpending, List.append_nil, List.append_nil] at hoptions
  rw [options, hoptions]

theorem meetPath_follows {arg : String} (h : draft.meetPath arg = .ok next) :
    draft.Follows [] next ∧ next.awaiting = none ∧ draft.awaiting = none := by
  rw [meetPath] at h
  split at h
  · cases h
  · obtain ⟨hfollows, hpending, hawaiting⟩ := meet_follows h
    refine ⟨hfollows, ?_, hawaiting⟩
    rw [awaiting, hpending]

theorem stopForHelp_ne_ok : draft.stopForHelp ≠ .ok next := by
  intro h
  obtain ⟨_, _, h⟩ := Json.bind_eq_ok_iff.mp h
  cases h

/-- **take_follows**: an argument in front of a separator adds the option that it gives, and what is read off the
arguments from it on is this option and what is read off the others. -/
theorem take_follows {arg : String} (h : draft.take OptionName.all arg = .ok next) (hword : Word.of arg ≠ .separator) :
    ∃ more, draft.Follows more next ∧
      ∀ args, optionsGiven draft.awaiting (arg :: args) = more ++ optionsGiven next.awaiting args := by
  unfold take at h
  cases hform : Word.of arg with
  | separator => exact absurd hform hword
  | long name value =>
    rw [hform] at h
    dsimp only at h
    split at h
    · -- No argument that asks for help leads on.
      split at h
      · cases h
      · exact absurd h stopForHelp_ne_ok
    · cases hfound : OptionName.all.find? (fun option => option.word == name) with
      | none =>
        rw [hfound] at h
        cases h
      | some option =>
        rw [hfound] at h
        cases value with
        | none =>
          obtain ⟨hfollows, hpending, hawaiting⟩ := meet_follows h
          refine ⟨[], hfollows, fun args => ?_⟩
          rw [hawaiting, optionsGiven, hform, awaiting, hpending]
          simp only [hfound, List.nil_append]
        | some value =>
          obtain ⟨met, hmet, hsettled⟩ := Json.bind_eq_ok_iff.mp h
          obtain ⟨hfollows, -, hawaiting⟩ := meet_follows hmet
          obtain ⟨hmore, hpending, -⟩ := settle_follows hsettled
          refine ⟨[(option, value)], hfollows.trans hmore, fun args => ?_⟩
          rw [hawaiting, optionsGiven, hform, awaiting, hpending]
          simp only [hfound, List.singleton_append]
  | short letter =>
    rw [hform] at h
    dsimp only at h
    split at h
    · exact absurd h stopForHelp_ne_ok
    · cases h
  | plain =>
    rw [hform] at h
    dsimp only at h
    split at h
    · -- The argument is the value that the option met last awaits.
      rename_i name hpending
      obtain rfl := Except.ok.inj h
      refine ⟨[(name, arg)], ⟨?_, id⟩, fun args => ?_⟩
      · rw [options, options, hpending]
        dsimp only [given]
        rw [List.append_nil]
      · rw [awaiting, hpending, optionsGiven]
        rfl
    · obtain ⟨hfollows, hnone, hawaiting⟩ := meetPath_follows h
      refine ⟨[], hfollows, fun args => ?_⟩
      rw [hawaiting, optionsGiven, hform, hnone, List.nil_append]

/-! ## §D Whole runs of arguments -/

/-- **read_separated**: behind a separator there are no options, and none awaits its value there. -/
theorem read_separated {args : List String} {options : List OptionName} (h : draft.read options true args = .ok last) :
    draft.Follows [] last ∧ last.pending = none ∧ draft.awaiting = none := by
  induction args generalizing draft with
  | nil => exact settle_follows h
  | cons arg args ih =>
    obtain ⟨next, hnext, hlast⟩ := Json.bind_eq_ok_iff.mp h
    obtain ⟨hfollows, -, hawaiting⟩ := meetPath_follows hnext
    obtain ⟨hmore, hpending, -⟩ := ih hlast
    exact ⟨hfollows.trans hmore, hpending, hawaiting⟩

/-- **read_follows**: what is read adds the options that stand in it. -/
theorem read_follows {args : List String} (h : draft.read OptionName.all false args = .ok last) :
    draft.Follows (optionsGiven draft.awaiting args) last ∧ last.pending = none := by
  induction args generalizing draft with
  | nil =>
    obtain ⟨hfollows, hpending, -⟩ := settle_follows h
    exact ⟨hfollows, hpending⟩
  | cons arg args ih =>
    rw [read, if_neg Bool.false_ne_true] at h
    split at h
    · rename_i hword
      obtain ⟨hfollows, hpending, hawaiting⟩ := read_separated h
      refine ⟨?_, hpending⟩
      rw [hawaiting, optionsGiven, hword]
      exact hfollows
    · rename_i hword
      obtain ⟨next, hnext, hlast⟩ := Json.bind_eq_ok_iff.mp h
      obtain ⟨more, hfollows, hgiven⟩ := take_follows hnext hword
      obtain ⟨hmore, hpending⟩ := ih hlast
      rw [hgiven]
      exact ⟨hfollows.trans hmore, hpending⟩

end Draft

/-! ## §E Queries -/

/-- The value of an option among those taken in is its value in the draft. -/
theorem Draft.lookup_options {draft : Draft} (h : draft.pending = none) (name : OptionName) :
    draft.options.lookup name = draft.value? (.option name) := by
  obtain ⟨values, pending⟩ := draft
  obtain rfl : pending = none := h
  rw [options, List.append_nil, value?]
  induction values with
  | nil => rfl
  | cons taken values ih =>
    obtain ⟨target, value⟩ := taken
    rw [List.flatMap_cons, List.lookup_append, ih]
    cases target with
    | path => rfl
    | option other =>
      by_cases hname : other = name
      · subst hname
        simp [given]
      · have htarget : (Target.option name == .option other) = false := by simpa using Ne.symm hname
        have hsame : (name == other) = false := by simpa using Ne.symm hname
        simp [given, List.lookup_cons, htarget, hsame]

/-- Names of options that are taken in are not repeated. -/
theorem Draft.options_nodup {draft : Draft} (h : draft.pending = none) (hnodup : (draft.values.map Prod.fst).Nodup) :
    (draft.options.map Prod.fst).Nodup := by
  have hsublist : ∀ values : List (Target × String),
      ((values.flatMap fun taken => given taken.1 (some taken.2)).map fun option => Target.option option.1).Sublist
        (values.map Prod.fst) := by
    intro values
    induction values with
    | nil => exact .slnil
    | cons taken values ih =>
      obtain ⟨target, value⟩ := taken
      cases target with
      | path => exact ih.cons _
      | option name => exact ih.cons_cons _
  obtain ⟨values, pending⟩ := draft
  obtain rfl : pending = none := h
  rw [options, List.append_nil]
  refine List.Nodup.of_map Target.option ?_
  rw [List.map_map]
  exact hnodup.sublist (hsublist values)

/-- The options of a query may stand together: a field and a method exclude each other, and a variable needs a method,
unless there is a field. -/
structure Query.Admitted (query : Query) : Prop where
  alone : query.field? = none ∨ query.method? = none
  needed : query.var? = none ∨ query.method? ≠ none ∨ query.field? ≠ none

/-- **readLookup_sound**: a look-up is asked for the values of a draft, and its options may stand together. -/
theorem readLookup_sound {args : List String} {path : String} {query : Query}
    (h : readLookup args = .ok (.lookup path query)) :
    query.Admitted ∧ ∃ draft, Draft.empty.read OptionName.all false args = .ok draft ∧
      ∀ name, draft.value? (.option name) = query.value? name := by
  obtain ⟨draft, hdraft, h⟩ := Json.bind_eq_ok_iff.mp h
  dsimp only at h
  split at h
  · cases h
  · rename_i halone
    split at h
    · rename_i _ className _ hclass
      split at h
      · cases h
      · rename_i hneeded
        injection h with h
        injection h with hpath hquery
        subst hquery
        refine ⟨⟨?_, ?_⟩, draft, hdraft, ?_⟩
        · simpa only [not_and_or, Option.not_isSome_iff_eq_none] using halone
        · simpa only [not_and_or, Option.not_isSome_iff_eq_none] using hneeded
        · intro name
          cases name with
          | ofClass => exact hclass
          | field => rfl
          | method => rfl
          | var => rfl
    · cases h

/-- **readLookup_given**: a look-up is asked for just the options that are given, and none is given twice. -/
theorem readLookup_given {args : List String} {path : String} {query : Query}
    (h : readLookup args = .ok (.lookup path query)) :
    ((optionsGiven none args).map Prod.fst).Nodup ∧
      ∀ name, (optionsGiven none args).lookup name = query.value? name := by
  obtain ⟨-, draft, hdraft, hvalues⟩ := readLookup_sound h
  obtain ⟨hfollows, hpending⟩ := Draft.read_follows hdraft
  have hoptions : draft.options = optionsGiven none args := hfollows.options
  refine ⟨?_, fun name => ?_⟩
  · rw [← hoptions]
    exact Draft.options_nodup hpending (hfollows.nodup List.nodup_nil)
  · rw [← hoptions, Draft.lookup_options hpending, hvalues]

/-! ## §F Queries spelled out -/

/-- An option with its value joined to it. -/
def OptionName.joined (name : OptionName) (value : String) : String := "--" ++ name.word ++ "=" ++ value

/-- The options of a query with their values. -/
def Query.options (query : Query) : List (OptionName × String) :=
  OptionName.all.filterMap fun name => (query.value? name).map fun value => (name, value)

/-- Arguments that ask for a query: its options, and behind a separator the path. -/
def Query.arguments (query : Query) (path : String) : List String :=
  query.options.map (fun option => option.1.joined option.2) ++ ["--", path]

theorem Word.of_joined (name : OptionName) (value : String) :
    Word.of (name.joined value) = .long name.word (some value) := by
  cases name <;> simp [OptionName.joined, OptionName.word, Word.of, splitLong]

theorem OptionName.find?_word (name : OptionName) :
    OptionName.all.find? (fun option => option.word == name.word) = some name := by
  cases name <;> decide

namespace Draft

variable {values : List (Target × String)}

/-- **settle_free**: a value is taken in for a target without one, and for the path if it is not empty. -/
theorem settle_free {target : Target} {value : String} (hfree : values.lookup target = none)
    (hpath : target = .path → value ≠ "") :
    settle ⟨values, some (target, some value)⟩ = .ok ⟨values ++ [(target, value)], none⟩ := by
  simp only [settle, value?, hfree, Option.isSome_none, Bool.false_eq_true, if_false]
  exact if_neg fun h => hpath h.1 h.2

theorem take_joined {name : OptionName} (hfree : values.lookup (.option name) = none) (value : String) :
    take OptionName.all ⟨values, none⟩ (name.joined value) = .ok ⟨values ++ [(.option name, value)], none⟩ := by
  have hhelp : name.word ≠ "help" := by cases name <;> decide
  unfold take
  rw [Word.of_joined]
  dsimp only
  rw [if_neg hhelp, name.find?_word]
  exact settle_free hfree nofun

/-- **read_joined**: options that are spelled out are taken in one by one. -/
theorem read_joined {options : List (OptionName × String)} (hnodup : (options.map Prod.fst).Nodup)
    (hfree : ∀ option ∈ options, values.lookup (.option option.1) = none) (rest : List String) :
    read OptionName.all false ⟨values, none⟩ (options.map (fun option => option.1.joined option.2) ++ rest) =
      read OptionName.all false ⟨values ++ options.map fun option => (.option option.1, option.2), none⟩ rest := by
  induction options generalizing values with
  | nil => simp
  | cons option options ih =>
    obtain ⟨name, value⟩ := option
    obtain ⟨hnew, hothers⟩ := List.nodup_cons.mp hnodup
    have hword : Word.of (name.joined value) ≠ .separator := by simp [Word.of_joined]
    have hstep := take_joined (hfree _ List.mem_cons_self) value
    have hstill : ∀ option ∈ options, (values ++ [(Target.option name, value)]).lookup (.option option.1) = none := by
      intro option hoption
      have hother : (Target.option option.1 == .option name) = false := by
        simpa using fun h : option.1 = name => hnew (List.mem_map.mpr ⟨option, hoption, h⟩)
      rw [List.lookup_append, hfree option (List.mem_cons_of_mem _ hoption), List.lookup_cons, hother]
      rfl
    have hrest := ih hothers hstill
    rw [List.append_assoc] at hrest
    rw [List.map_cons, List.cons_append, read, if_neg Bool.false_ne_true, if_neg hword, hstep]
    exact hrest

end Draft

theorem Query.options_nodup (query : Query) : (query.options.map Prod.fst).Nodup := by
  have hnames : ∀ names : List OptionName, ((names.filterMap fun name =>
      (query.value? name).map fun value => (name, value)).map Prod.fst).Sublist names := by
    intro names
    induction names with
    | nil => exact .slnil
    | cons name names ih =>
      rw [List.filterMap_cons]
      cases query.value? name with
      | none => exact ih.cons _
      | some value => exact ih.cons_cons _
  exact (show OptionName.all.Nodup by decide).sublist (hnames OptionName.all)

/-- **read_arguments**: the arguments that ask for a query are read to its options and the path. -/
theorem Draft.read_arguments {path : String} (hpath : path ≠ "") (query : Query) :
    Draft.empty.read OptionName.all false (query.arguments path) =
      .ok ⟨(query.options.map fun option => (.option option.1, option.2)) ++ [(.path, path)], none⟩ := by
  have hfree : (query.options.map fun option => (Target.option option.1, option.2)).lookup .path = none := by
    rw [List.lookup_eq_none_iff]
    intro taken htaken
    obtain ⟨option, -, rfl⟩ := List.mem_map.mp htaken
    rfl
  refine (read_joined query.options_nodup (fun _ _ => rfl) ["--", path]).trans ?_
  rw [List.nil_append, read, if_neg Bool.false_ne_true, if_pos (by decide), read, if_pos rfl, meetPath, hasPath, value?,
    hfree]
  exact settle_free hfree fun _ => hpath

/-- **readLookup_arguments**: every query whose options may stand together can be asked for. -/
theorem readLookup_arguments {path : String} (hpath : path ≠ "") {query : Query} (h : query.Admitted) :
    readLookup (query.arguments path) = .ok (.lookup path query) := by
  have hread := Draft.read_arguments hpath query
  generalize hdraft : Draft.mk _ _ = draft at hread
  have hvalues : ∀ name, draft.value? (.option name) = query.value? name := by
    subst hdraft
    obtain ⟨className, field?, method?, var?⟩ := query
    cases field? <;> cases method? <;> cases var? <;> rintro (_ | _) <;> rfl
  have hfile : draft.value? .path = some path := by
    subst hdraft
    obtain ⟨className, field?, method?, var?⟩ := query
    cases field? <;> cases method? <;> cases var? <;> rfl
  have halone : ¬(query.field?.isSome ∧ query.method?.isSome) := by
    simpa only [not_and_or, Option.not_isSome_iff_eq_none] using h.alone
  have hneeded : ¬(query.var?.isSome ∧ query.method? = none ∧ query.field? = none) := by
    simpa only [not_and_or, Option.not_isSome_iff_eq_none] using h.needed
  unfold readLookup
  rw [hread]
  show ite _ _ _ = _
  simp only [hvalues, hfile, Query.value?]
  rw [if_neg halone, if_neg hneeded]

end ScopeTable.Console
