/-
# ScopeTable.Proofs.Analysis.Composition -- programs that are put together from lists of classes

A walk goes through the classes in order and keeps what it has entered, so a walk over two lists is the walk over
the first and then one over the second that starts where the first has ended. Hence the conflicts of a program are
the first ones of every program that goes on behind it, and nothing that stands in its table is altered by what
comes later (`redeclarations_append`, `lookupClass_append`).

Only names tie the second walk to the first. Where no class of the second list has the name of a class of the first,
the second walk is a walk of its own (`visits_apart`), and conflicts, outcome and table fall into two parts
(`Program.analysis_composes`).
-/
import ScopeTable.Proofs.Analysis.Repair

namespace ScopeTable

open Text

variable {α V : Type} {spelling : α → String} {earlier items : List α}

/-! ## §A Lists without a common name -/

/-- No item of one list has the name of an item of the other. -/
def Apart (spelling : α → String) (xs ys : List α) : Prop :=
  ∀ x ∈ xs, ∀ y ∈ ys, fold (spelling x) ≠ fold (spelling y)

/-- What does not have a name need not be asked for it. -/
theorem firstNamed_append_none {front : List α} {name : String}
    (h : firstNamed spelling front name = none) (back : List α) :
    firstNamed spelling (front ++ back) name = firstNamed spelling back name := by
  rw [firstNamed_append, h, Option.none_or]

/-- A walk does not notice what stands far before it if it meets none of the names there. -/
theorem visits_append_apart {front : List α} (h : Apart spelling front items) :
    visits spelling (front ++ earlier) items = visits spelling earlier items := by
  induction items generalizing earlier with
  | nil => rfl
  | cons item items ih =>
    have hfront : firstNamed spelling front (spelling item) = none := by
      rw [firstNamed_eq_none_iff]
      intro other hother
      exact h other hother item List.mem_cons_self
    have hrest : Apart spelling front items := by
      intro other hother later hlater
      exact h other hother later (List.mem_cons_of_mem _ hlater)
    rw [visits, visits, firstNamed_append_none hfront, List.append_assoc, ih hrest]

/-- **visits_apart**: behind a list without a common name a walk is a walk of its own. -/
theorem visits_apart {front back : List α} (h : Apart spelling front back) :
    visits spelling front back = visits spelling [] back := by
  have hvisits : visits spelling (front ++ []) back = visits spelling [] back := visits_append_apart h
  rwa [List.append_nil] at hvisits

/-- **firsts_append_apart**: the first items of two lists without a common name are those of each. -/
theorem firsts_append_apart {front back : List α} (h : Apart spelling front back) :
    firsts spelling (front ++ back) = firsts spelling front ++ firsts spelling back := by
  rw [firsts, visits_append, List.filterMap_append, List.nil_append, visits_apart h]
  rfl

/-! ## §B Maps that are put together -/

namespace NameMap

/-- The map has the entries of two others, which have no name in common. -/
structure DisjointUnion (whole first second : NameMap V) : Prop where
  entries : whole.entries.Perm (first.entries ++ second.entries)
  apart : ∀ name, first.contains name = true → second.contains name = false
  find? : ∀ name, whole.find? name = (first.find? name).or (second.find? name)

theorem Lists.contains_eq {value : α → V} {map : NameMap V} (h : map.Lists spelling value items)
    (name : String) : map.contains name = (firstNamed spelling items name).isSome := by
  rw [contains, h.find?_eq, Option.isSome_map]

/-- **Lists.disjointUnion**: a map of two lists without a common name is put together from the maps of each. -/
theorem Lists.disjointUnion {value : α → V} {front back : List α} {whole first second : NameMap V}
    (hwhole : whole.Lists spelling value (front ++ back)) (hfirst : first.Lists spelling value front)
    (hsecond : second.Lists spelling value back) (h : Apart spelling front back) :
    whole.DisjointUnion first second := by
  constructor
  case entries =>
    rw [hwhole, hfirst, hsecond, firsts_append_apart h, List.map_append]
  case apart =>
    intro name hname
    rw [hfirst.contains_eq, Option.isSome_iff_exists] at hname
    obtain ⟨item, hitem⟩ := hname
    obtain ⟨hmem, hfold⟩ := firstNamed_eq_some_iff.mp hitem
    have hnone : firstNamed spelling back name = none := by
      rw [firstNamed_eq_none_iff]
      intro other hother heq
      exact h item (mem_of_mem_firsts hmem) other hother (hfold.trans heq.symm)
    rw [hsecond.contains_eq, hnone, Option.isSome_none]
  case find? =>
    intro name
    rw [hwhole.find?_eq, hfirst.find?_eq, hsecond.find?_eq, firstNamed_append, Option.map_or]

end NameMap

/-! ## §C Walks that go on -/

namespace Program

variable (name : Ident) (front back : List ClassDecl)

/-- **redeclarations_append**: what is rejected in a program comes first in every program that goes on behind it. -/
theorem redeclarations_append :
    (⟨name, front⟩ : Program).redeclarations <+: (⟨name, front ++ back⟩ : Program).redeclarations := by
  rw [redeclarations, redeclarations, visits_append, List.flatMap_append]
  exact List.prefix_append _ _

theorem redeclarations_apart {front back : List ClassDecl} (h : Apart ClassDecl.spelling front back) :
    (⟨name, front ++ back⟩ : Program).redeclarations =
      (⟨name, front⟩ : Program).redeclarations ++ (⟨name, back⟩ : Program).redeclarations := by
  rw [redeclarations, redeclarations, redeclarations, visits_append, List.flatMap_append, List.nil_append,
    visits_apart h]

/-- The diagnostics of a program are what is rejected in it, each with its line and text. -/
theorem diagnostics_eq (program : Program) :
    program.analyse.diagnostics =
      program.redeclarations.map fun conflict => (conflict.line, conflict.message) := by
  rw [Analysis.diagnostics_eq, program.conflicts_eq]

/-- A program is built when no fatal conflict is in it. -/
theorem exists_build_iff (program : Program) :
    (∃ table, program.build = .ok table) ↔ program.redeclarations.any Conflict.fails = false := by
  rw [build_eq]
  cases program.redeclarations.any Conflict.fails with
  | true => simp
  | false => simp

/-- **lookupClass_append**: a class that is found in the table of a program is found as it is when the program goes
on. -/
theorem lookupClass_append {asked : String} {cls : ClassTable}
    (h : (⟨name, front⟩ : Program).analyse.table.lookupClass asked = .ok cls) :
    (⟨name, front ++ back⟩ : Program).analyse.table.lookupClass asked = .ok cls := by
  obtain ⟨decl, hdecl, hasked, rfl⟩ := (walkClasses_lists front).get_eq_ok_iff.mp h
  refine (walkClasses_lists (front ++ back)).get_eq_ok_iff.mpr ⟨decl, ?_, hasked, rfl⟩
  rw [firsts_eq_fresh, fresh_append]
  exact List.mem_append_left _ hdecl

/-- **analysis_composes**: the conflicts and diagnostics of a program come first in every program that goes on behind
it. If the longer program is built, so is the shorter, and a class that is found in its table is the same in that of
the longer. If the further classes have other names, conflicts and diagnostics are those of both parts, the whole is
built exactly when both parts are, and its table is put together from theirs. -/
theorem analysis_composes (name : Ident) (front back : List ClassDecl) :
    let first : Program := ⟨name, front⟩
    let second : Program := ⟨name, back⟩
    let whole : Program := ⟨name, front ++ back⟩
    (first.analyse.conflicts <+: whole.analyse.conflicts ∧
      first.analyse.diagnostics <+: whole.analyse.diagnostics) ∧
    (∀ table, whole.build = .ok table →
      ∃ part, first.build = .ok part ∧
        ∀ asked cls, part.lookupClass asked = .ok cls → table.lookupClass asked = .ok cls) ∧
    (Apart ClassDecl.spelling front back →
      whole.analyse.conflicts = first.analyse.conflicts ++ second.analyse.conflicts ∧
      whole.analyse.diagnostics = first.analyse.diagnostics ++ second.analyse.diagnostics ∧
      ((∃ table, whole.build = .ok table) ↔
        (∃ part, first.build = .ok part) ∧ ∃ rest, second.build = .ok rest) ∧
      ∀ table part rest, whole.build = .ok table → first.build = .ok part → second.build = .ok rest →
        table.classes.DisjointUnion part.classes rest.classes) := by
  intro first second whole
  have hprefix : first.redeclarations <+: whole.redeclarations := redeclarations_append name front back
  refine ⟨⟨?_, ?_⟩, ?_, ?_⟩
  · rw [first.conflicts_eq, whole.conflicts_eq]
    exact hprefix
  · rw [first.diagnostics_eq, whole.diagnostics_eq]
    exact hprefix.map _
  · intro table htable
    obtain ⟨more, hmore⟩ := hprefix
    -- A fatal conflict of the shorter program is one of the longer.
    have hclean : first.redeclarations.any Conflict.fails = false := by
      have hwhole := whole.exists_build_iff.mp ⟨table, htable⟩
      rw [← hmore, List.any_append, Bool.or_eq_false_iff] at hwhole
      exact hwhole.1
    obtain ⟨part, hpart⟩ := first.exists_build_iff.mpr hclean
    refine ⟨part, hpart, ?_⟩
    obtain ⟨rfl, -⟩ := build_eq_ok_iff.mp htable
    obtain ⟨rfl, -⟩ := build_eq_ok_iff.mp hpart
    exact fun _ _ => lookupClass_append name front back
  · intro hapart
    have hparts : whole.redeclarations = first.redeclarations ++ second.redeclarations :=
      redeclarations_apart name hapart
    refine ⟨?_, ?_, ?_, ?_⟩
    · rw [whole.conflicts_eq, first.conflicts_eq, second.conflicts_eq, hparts]
    · rw [whole.diagnostics_eq, first.diagnostics_eq, second.diagnostics_eq, hparts, List.map_append]
    · rw [exists_build_iff, exists_build_iff, exists_build_iff, hparts, List.any_append,
        Bool.or_eq_false_iff]
    · intro table part rest htable hpart hrest
      obtain ⟨rfl, -⟩ := build_eq_ok_iff.mp htable
      obtain ⟨rfl, -⟩ := build_eq_ok_iff.mp hpart
      obtain ⟨rfl, -⟩ := build_eq_ok_iff.mp hrest
      exact (walkClasses_lists (front ++ back)).disjointUnion (walkClasses_lists front)
        (walkClasses_lists back) hapart

end Program

/-- Classes that stand behind those of `bank`: one that is declared again in other letters. -/
def branches : List ClassDecl :=
  [⟨.new "Branch" 10, none, ⟨[⟨[.new "owner" 11], .char⟩], []⟩⟩, ⟨.new "BRANCH" 12, none, .empty⟩]

/-- The classes behind `bank` share no name with its own, so what is said about them comes behind what is said about
`bank`, and the table of the whole is put together from both. -/
theorem bank_and_branches :
    Apart ClassDecl.spelling bank.classes branches ∧
      (⟨bank.name, bank.classes ++ branches⟩ : Program).analyse.diagnostics =
        [(9, "class \"Account\" already declared at line 1"), (12, "class \"Branch\" already declared at line 10")] ∧
      ∃ table rest, (⟨bank.name, bank.classes ++ branches⟩ : Program).build = .ok table ∧
        (⟨bank.name, branches⟩ : Program).build = .ok rest ∧
        table.classes.DisjointUnion bank.analyse.table.classes rest.classes := by
  have hapart : Apart ClassDecl.spelling bank.classes branches := by
    unfold Apart
    decide +kernel
  obtain ⟨-, -, hcomposed⟩ := Program.analysis_composes bank.name bank.classes branches
  obtain ⟨-, hdiagnostics, hbuilt, htable⟩ := hcomposed hapart
  obtain ⟨rest, hrest⟩ := (⟨bank.name, branches⟩ : Program).exists_build_iff.mpr (by decide +kernel)
  obtain ⟨table, hwhole⟩ := hbuilt.mpr ⟨⟨_, bank_built⟩, rest, hrest⟩
  refine ⟨hapart, hdiagnostics.trans ?_, table, rest, hwhole, hrest, htable _ _ _ hwhole bank_built hrest⟩
  decide +kernel

end ScopeTable
