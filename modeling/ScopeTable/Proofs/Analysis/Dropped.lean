/-
# ScopeTable.Proofs.Analysis.Dropped -- what is declared inside a rejected class or method does not matter

Two programs agree on what is kept when they declare the same classes and methods in the same places, and differ at
most inside classes whose name is taken before them, and inside methods of kept classes whose name is taken before
them. Of such programs an analysis cannot tell which is which: the same happens on the way, so the same is reported
and logged, and the outcome is the same (`dropped_without_influence`).

The relation speaks of places in lists and not of a walk. `AgreeWhereKept.visits` carries it to the visits of a walk,
where a repeated declaration shows its name only; what happens on the way follows level by level. Where a program is
built there is no rejected method in a kept class, so there its kept classes, and with them the tables, are equal.
-/
import ScopeTable.Proofs.Analysis.Repair
import ScopeTable.Proofs.Reporting.Telling

namespace ScopeTable

open Text

/-! ## §A Programs that agree on what is kept -/

variable {α E : Type} {name : α → Ident} {R : α → α → Prop} {xs ys : List α}

/-- The lists declare the same names in the same places, and where the name is not taken by a declaration before it
the two declarations agree. -/
structure AgreeWhereKept (name : α → Ident) (R : α → α → Prop) (xs ys : List α) : Prop where
  names : xs.map name = ys.map name
  kept : ∀ (i : Nat) (a b : α), xs[i]? = some a → ys[i]? = some b →
    (∀ earlier ∈ xs.take i, fold (name earlier).spelling ≠ fold (name a).spelling) → R a b

/-- Classes of one name, parent and fields. Methods whose name is taken may differ in all but the name. -/
structure ClassDecl.AgreesOnKept (a b : ClassDecl) : Prop where
  name : a.name = b.name
  parent : a.parent = b.parent
  fields : a.block.fields = b.block.fields
  methods : AgreeWhereKept FunctionDecl.name Eq a.block.methods b.block.methods

/-- Programs of one name. Classes whose name is taken may differ in all but the name. -/
structure Program.AgreesOnKept (p q : Program) : Prop where
  name : p.name = q.name
  classes : AgreeWhereKept ClassDecl.name ClassDecl.AgreesOnKept p.classes q.classes

/-! ## §B Walks that meet the same names -/

/-- Visits to declarations of one name, each repeating one of the same name or none, which agree if they repeat
none. -/
structure VisitsAgree (name : α → Ident) (R : α → α → Prop) (v w : Option α × α) : Prop where
  first : v.1.map name = w.1.map name
  name : name v.2 = name w.2
  kept : v.1 = none → R v.2 w.2

/-- The name of the first item of a name is found among the names. -/
theorem firstNamed_map_name (items : List α) (asked : String) :
    (firstNamed (Ident.spelling ∘ name) items asked).map name =
      firstNamed Ident.spelling (items.map name) asked := by
  rw [firstNamed, firstNamed, List.find?_map]
  rfl

/-- **visitsAgree_of_kept**: lists with the same names in the same places are visited alike. The items `earlier` stand
before the whole list. -/
theorem visitsAgree_of_kept {earlier earlier' : List α} (hearlier : earlier.map name = earlier'.map name)
    (hnames : xs.map name = ys.map name)
    (hkept : ∀ (i : Nat) (a b : α), xs[i]? = some a → ys[i]? = some b →
      (∀ other ∈ earlier ++ xs.take i, fold (name other).spelling ≠ fold (name a).spelling) → R a b) :
    List.Forall₂ (VisitsAgree name R) (visits (Ident.spelling ∘ name) earlier xs)
      (visits (Ident.spelling ∘ name) earlier' ys) := by
  -- The induction moves one item at a time from the lists to what stands before them.
  induction xs generalizing earlier earlier' ys with
  | nil =>
    rw [List.map_nil, eq_comm, List.map_eq_nil_iff] at hnames
    rw [hnames]
    exact .nil
  | cons x xs ih =>
    obtain ⟨y, ys, rfl, hname, hrest⟩ := List.map_eq_cons_iff.mp hnames.symm
    refine .cons ⟨?_, hname.symm, ?_⟩ (ih ?_ hrest.symm ?_)
    · show (firstNamed _ earlier (name x).spelling).map name =
        (firstNamed _ earlier' (name y).spelling).map name
      rw [firstNamed_map_name, firstNamed_map_name, hearlier, hname]
    · intro hnew
      refine hkept 0 x y rfl rfl ?_
      rw [List.take_zero, List.append_nil]
      exact firstNamed_eq_none_iff.mp hnew
    · rw [List.map_append, List.map_append, hearlier, List.map_singleton, List.map_singleton, hname]
    · intro i a b ha hb hnew
      exact hkept (i + 1) a b ha hb (by simpa using hnew)

theorem AgreeWhereKept.visits (h : AgreeWhereKept name R xs ys) :
    List.Forall₂ (VisitsAgree name R) (visits (Ident.spelling ∘ name) [] xs) (visits (Ident.spelling ∘ name) [] ys) :=
  visitsAgree_of_kept rfl h.names fun i a b ha hb hnew => h.kept i a b ha hb hnew

/-- **AgreeWhereKept.flatMap_eq**: a walk has the same results when a repeated item gives what its name and the first
name give, and an item that is kept what all that agree with it give. -/
theorem AgreeWhereKept.flatMap_eq (h : AgreeWhereKept name R xs ys) {results : Option α × α → List E}
    (hrepeated : ∀ first first' a b, name first = name first' → name a = name b →
      results (some first, a) = results (some first', b))
    (hkept : ∀ a b, R a b → results (none, a) = results (none, b)) :
    (ScopeTable.visits (Ident.spelling ∘ name) [] xs).flatMap results =
      (ScopeTable.visits (Ident.spelling ∘ name) [] ys).flatMap results := by
  have hresults : ∀ v w, VisitsAgree name R v w → results v = results w := by
    rintro ⟨first | first, a⟩ ⟨first' | first', b⟩ hvisit
    · exact hkept a b (hvisit.kept rfl)
    · cases hvisit.first
    · cases hvisit.first
    · exact hrepeated first first' a b (Option.some.inj hvisit.first) hvisit.name
  rw [List.flatMap_def, List.flatMap_def]
  congr 1
  exact List.forall₂_eq_eq_eq ▸ List.rel_map hresults h.visits

/-- **AgreeWhereKept.firsts_eq**: what is kept is the same if it agrees with nothing but itself. -/
theorem AgreeWhereKept.firsts_eq (h : AgreeWhereKept name R xs ys)
    (hself : ∀ a ∈ firsts (Ident.spelling ∘ name) xs, ∀ b, R a b → a = b) :
    firsts (Ident.spelling ∘ name) xs = firsts (Ident.spelling ∘ name) ys := by
  have hfirsts : List.Forall₂ R (firsts (Ident.spelling ∘ name) xs) (firsts (Ident.spelling ∘ name) ys) := by
    refine List.rel_filterMap ?_ h.visits
    rintro ⟨first | first, a⟩ ⟨first' | first', b⟩ hvisit
    · exact .some (hvisit.kept rfl)
    · cases hvisit.first
    · cases hvisit.first
    · exact .none
  have hboth := (List.forall₂_and_left _ _).mpr ⟨hself, hfirsts⟩
  exact List.forall₂_eq_eq_eq ▸ hboth.imp fun a b hab => hab.1 b hab.2

/-! ## §C What happens on the way -/

theorem ClassDecl.AgreesOnKept.walk_events {a b : ClassDecl} (h : a.AgreesOnKept b) :
    a.walk.2 = b.walk.2 := by
  have hfields : a.fieldNames = b.fieldNames := by rw [ClassDecl.fieldNames, h.fields, ClassDecl.fieldNames]
  have hmethods : (visits FunctionDecl.spelling [] a.block.methods).flatMap ClassDecl.methodEvents =
      (visits FunctionDecl.spelling [] b.block.methods).flatMap ClassDecl.methodEvents := by
    refine h.methods.flatMap_eq ?_ ?_
    · intro first first' method method' hfirst hname
      show [Event.conflict (.ofRejected .ofMethod method.name.spelling first.name.line method.name)] = _
      rw [hfirst, hname]
      rfl
    · rintro method _ rfl
      rfl
  rw [a.walk_events, b.walk_events, h.name, hfields, hmethods]

/-- **Program.AgreesOnKept.events**: the same happens on the way. -/
theorem Program.AgreesOnKept.events {p q : Program} (h : p.AgreesOnKept q) :
    p.analyse.events = q.analyse.events := by
  have hclasses : (walkClasses p.classes).2 = (walkClasses q.classes).2 := by
    rw [walkClasses_events, walkClasses_events]
    refine h.classes.flatMap_eq ?_ ?_
    · intro first first' cls cls' hfirst hname
      show [Event.conflict (.ofRejected .ofClass first.name.spelling first.name.line cls.name)] = _
      rw [hfirst, hname]
      rfl
    · exact fun _ _ => ClassDecl.AgreesOnKept.walk_events
  show .started p.name :: (walkClasses p.classes).2 = .started q.name :: (walkClasses q.classes).2
  rw [h.name, hclasses]

/-! ## §D What is built -/

/-- Lists of the same names are both without repetition or neither. -/
theorem AgreeWhereKept.distinct_iff (h : AgreeWhereKept name R xs ys) :
    Distinct (Ident.spelling ∘ name) xs ↔ Distinct (Ident.spelling ∘ name) ys := by
  have hkeys : ∀ items : List α, items.map (fun item => fold ((Ident.spelling ∘ name) item)) =
      (items.map name).map fun n => fold n.spelling := by
    intro items
    rw [List.map_map]
    rfl
  rw [Distinct, Distinct, hkeys, hkeys, h.names]

/-- **eq_of_consistent**: a class in which no method is rejected agrees with itself only. -/
theorem ClassDecl.AgreesOnKept.eq_of_consistent {a b : ClassDecl} (h : a.AgreesOnKept b)
    (hconsistent : a.Consistent) : a = b := by
  have hmethods : a.block.methods = b.block.methods :=
    calc a.block.methods
        = firsts FunctionDecl.spelling a.block.methods := (firsts_eq_self hconsistent.1).symm
      _ = firsts FunctionDecl.spelling b.block.methods := h.methods.firsts_eq fun _ _ _ heq => heq
      _ = b.block.methods := firsts_eq_self (h.methods.distinct_iff.mp hconsistent.1)
  obtain ⟨nameA, parentA, fieldsA, methodsA⟩ := a
  obtain ⟨nameB, parentB, fieldsB, methodsB⟩ := b
  obtain rfl : nameA = nameB := h.name
  obtain rfl : parentA = parentB := h.parent
  obtain rfl : fieldsA = fieldsB := h.fields
  obtain rfl : methodsA = methodsB := hmethods
  rfl

/-- **Program.AgreesOnKept.table**: where nothing is rejected inside a kept class, the tables are the same. -/
theorem Program.AgreesOnKept.table {p q : Program} (h : p.AgreesOnKept q)
    (hconsistent : ∀ cls ∈ firsts ClassDecl.spelling p.classes, cls.Consistent) :
    p.analyse.table = q.analyse.table := by
  have hfirsts : firsts ClassDecl.spelling p.classes = firsts ClassDecl.spelling q.classes :=
    h.classes.firsts_eq fun cls hcls _ hagrees => hagrees.eq_of_consistent (hconsistent cls hcls)
  show SymbolTable.mk (walkClasses p.classes).1 = SymbolTable.mk (walkClasses q.classes).1
  rw [← Program.walkClasses_firsts p.classes, ← Program.walkClasses_firsts q.classes, hfirsts]

/-- **Program.AgreesOnKept.build_eq**: the outcome is the same. -/
theorem Program.AgreesOnKept.build_eq {p q : Program} (h : p.AgreesOnKept q) : p.build = q.build := by
  have hredeclarations : p.redeclarations = q.redeclarations := by
    rw [← p.conflicts_eq, ← q.conflicts_eq, Analysis.conflicts, h.events, Analysis.conflicts]
  rw [p.build_eq, q.build_eq, ← hredeclarations]
  cases hfails : p.redeclarations.any Conflict.fails with
  | true => rfl
  | false =>
    rw [h.table (p.any_fails_eq_false_iff.mp hfails)]

/-! ## §E Dropped declarations -/

/-- **dropped_without_influence**: programs that agree on what is kept have the same outcome, the same diagnostics
and the same log, and no reporter can tell one from the other. -/
theorem Program.dropped_without_influence {p q : Program} (h : p.AgreesOnKept q) :
    p.build = q.build ∧ p.analyse.diagnostics = q.analyse.diagnostics ∧ p.analyse.log = q.analyse.log ∧
      ∀ (σ : Type) (reporter : Reporter σ) (state : σ),
        p.buildWith reporter state = q.buildWith reporter state := by
  have hbuild := h.build_eq
  have hevents := h.events
  refine ⟨hbuild, ?_, ?_, ?_⟩
  · rw [Analysis.diagnostics, hevents, Analysis.diagnostics]
  · rw [Analysis.log, hevents, Analysis.log]
  · intro σ reporter state
    rw [buildWith, buildWith, p.buildTelling_eq, q.buildTelling_eq, hbuild, hevents]

/-- Of two declarations of one name the second may be anything that has the name. -/
theorem agreeWhereKept_pair {a a' b b' : α} (h : R a a') (hname : name a = name a')
    (htaken : fold (name a).spelling = fold (name b).spelling) (hsecond : name b = name b') :
    AgreeWhereKept name R [a, b] [a', b'] := by
  refine ⟨by simp [hname, hsecond], ?_⟩
  intro i c c' hc hc' hnew
  match i with
  | 0 =>
    cases hc
    cases hc'
    exact h
  | 1 =>
    cases hc
    exact absurd htaken (hnew a List.mem_cons_self)
  | _ + 2 => cases hc

/-- Two stalls of one name, of which the first has two methods of one name. What is declared inside the second stall
and inside the second method is left open. -/
def market (method : FunctionBlock) (cls : ClassBlock) : Program :=
  let stall : ClassDecl :=
    ⟨.new "Stall" 1, none,
      ⟨[⟨[.new "stock" 1], .integer⟩],
        [⟨.new "Sell" 2, [], .real, .empty⟩, ⟨.new "SELL" 3, [], .char, method⟩]⟩⟩
  ⟨.new "Market" 1, [stall, ⟨.new "STALL" 4, none, cls⟩]⟩

theorem market_agreesOnKept (method method' : FunctionBlock) (cls cls' : ClassBlock) :
    (market method cls).AgreesOnKept (market method' cls') := by
  have hclass : fold "Stall" = fold "STALL" := by decide +kernel
  have hmethod : fold "Sell" = fold "SELL" := by decide +kernel
  exact ⟨rfl, agreeWhereKept_pair ⟨rfl, rfl, rfl, agreeWhereKept_pair rfl rfl hmethod rfl⟩ rfl hclass rfl⟩

/-- The market with a local that is declared twice in the second method, and a method in the second stall. -/
def crowdedMarket : Program :=
  let sum : VarDecl := ⟨[.new "sum" 3, .new "Sum" 3], .real⟩
  let count : FunctionDecl := ⟨.new "count" 5, [], .integer, .empty⟩
  market ⟨[sum], []⟩ ⟨[sum], [count, count]⟩

/-- What is declared twice where nothing counts is not reported, and the outcome is as if it were not there. -/
theorem crowdedMarket_unaffected :
    crowdedMarket.AgreesOnKept (market .empty .empty) ∧
      crowdedMarket.build = (market .empty .empty).build ∧
      crowdedMarket.analyse.diagnostics =
        [(3, "function \"SELL\" already declared at line 2"), (4, "class \"Stall\" already declared at line 1")] := by
  have hagrees : crowdedMarket.AgreesOnKept (market .empty .empty) := market_agreesOnKept _ _ _ _
  obtain ⟨hbuild, hdiagnostics, -, -⟩ := Program.dropped_without_influence hagrees
  refine ⟨hagrees, hbuild, hdiagnostics.trans ?_⟩
  decide +kernel

end ScopeTable
