/-
# ScopeTable.Proofs.Analysis.Labels -- a conflict is marked where the rejected name stands

The label of a conflict is made from the span of an identifier by a subtraction in signed 64-bit words, of which the
result is converted to a word without sign. Of a span that runs backwards the difference is negative and the length is
none at all. `Span.marked_iff` says that running forwards is all that is needed for the label to mark the span.

So it is to be shown that every span runs forwards that comes this far. What is decoded has no others
(`Grammar.Presents.sound`), and the names that are rejected are among those that are decoded. `Clash` keeps the two
identifiers of a conflict: the one that was declared first, and the one that is rejected, which gives the line and the
label.
-/
import Mathlib.Algebra.GroupWithZero.Nat
import ScopeTable.Proofs.Analysis.Redeclaration
import ScopeTable.Proofs.Grammar.Normal
import ScopeTable.Proofs.Grammar.Places

namespace ScopeTable

open Grammar Json

/-! ## §A The length of a span -/

namespace Span

/-- How far the end of a span lies behind its start, as a signed number of 64 bits. -/
def distance (span : Span) : Int64 := span.stop.toUInt64.toInt64 - span.start.toUInt64.toInt64

theorem toInt_of_offset (n : UInt32) : n.toUInt64.toInt64.toInt = n.toNat := by
  have hless : n.toNat < 2 ^ 32 := n.toNat_lt
  have hsmall : 2 * n.toUInt64.toBitVec.toNat < 2 ^ 64 := by
    rw [UInt64.toNat_toBitVec, UInt32.toNat_toUInt64]
    omega
  rw [← Int64.toInt_toBitVec, UInt64.toBitVec_toInt64, BitVec.toInt_eq_toNat_of_lt hsmall,
    UInt64.toNat_toBitVec, UInt32.toNat_toUInt64]

/-- Two numbers of 32 bits are subtracted without overflow. -/
theorem distance_toInt (span : Span) : span.distance.toInt = (span.stop.toNat : Int) - span.start.toNat := by
  have hstart : span.start.toNat < 2 ^ 32 := span.start.toNat_lt
  have hstop : span.stop.toNat < 2 ^ 32 := span.stop.toNat_lt
  rw [distance, Int64.toInt_sub, toInt_of_offset, toInt_of_offset]
  -- The difference is less than 2 ^ 32 either way, far from the ends of the signed range.
  apply Int.bmod_eq_of_le
  · omega
  · omega

/-- The length of a label is the distance as a word without sign. -/
theorem label_length (span : Span) : span.label.length = span.distance.toUInt64.toNat := by
  rw [distance, Int64.toUInt64_sub, UInt64.toUInt64_toInt64, UInt64.toUInt64_toInt64]
  rfl

/-- The label covers the span and nothing else: its length is the difference of the ends, which is not negative and of
which nothing is lost when it is converted. -/
structure MarkedBy (span : Span) (label : Label) : Prop where
  offset : label.offset = span.start.toNat
  length : (label.length : Int) = (span.stop.toNat : Int) - span.start.toNat
  forwards : 0 ≤ span.distance.toInt
  converted : (span.distance.toUInt64.toNat : Int) = span.distance.toInt
  ends : label.offset + label.length = span.stop.toNat
  bounded : label.offset + label.length ≤ 2 ^ 32 - 1

/-- **marked_iff**: a span is covered by its label exactly if it runs forwards. -/
theorem marked_iff (span : Span) : span.MarkedBy span.label ↔ span.Ordered := by
  have hdistance := span.distance_toInt
  have hstop : span.stop.toNat < 2 ^ 32 := span.stop.toNat_lt
  constructor
  · intro h
    have hforwards := h.forwards
    apply UInt32.le_iff_toNat_le.mpr
    omega
  · intro h
    have hle : span.start.toNat ≤ span.stop.toNat := UInt32.le_iff_toNat_le.mp h
    -- The subtraction does not wrap because the start is not behind the end.
    have hlength : span.label.length = span.stop.toNat - span.start.toNat := by
      show (span.stop.toUInt64 - span.start.toUInt64).toNat = _
      rw [UInt64.toNat_sub_of_le, UInt32.toNat_toUInt64, UInt32.toNat_toUInt64]
      rw [UInt64.le_iff_toNat_le, UInt32.toNat_toUInt64, UInt32.toNat_toUInt64]
      exact hle
    have hoffset : span.label.offset = span.start.toNat := rfl
    constructor
    case offset => exact hoffset
    case length => omega
    case forwards => omega
    case converted =>
      rw [← label_length]
      omega
    case ends => omega
    case bounded => omega

end Span

/-! ## §B First and rejected names -/

/-- Two declarations of one name: the first one, and the one that is rejected. -/
structure Clash where
  what : Redeclared
  first : Ident
  rejected : Ident
  deriving DecidableEq, Repr

/-- What is reported about a clash. A class is named as it was declared first. -/
def Clash.conflict (clash : Clash) : Conflict :=
  match clash.what with
  | .ofClass => .ofRejected .ofClass clash.first.spelling clash.first.line clash.rejected
  | what => .ofRejected what clash.rejected.spelling clash.first.line clash.rejected

/-- The names that clash inside a method. -/
def FunctionDecl.clashes (method : FunctionDecl) : List Clash :=
  (visits Ident.spelling [method.name] method.declaredNames).flatMap fun
    | (some first, name) => [⟨.ofVariable, first, name⟩]
    | (none, _) => []

/-- The names that clash inside a class. -/
def ClassDecl.clashes (cls : ClassDecl) : List Clash :=
  (visits FunctionDecl.spelling [] cls.block.methods).flatMap fun
    | (some first, method) => [⟨.ofMethod, first.name, method.name⟩]
    | (none, method) => method.clashes

/-- The names that clash in a program. -/
def Program.clashes (program : Program) : List Clash :=
  (visits ClassDecl.spelling [] program.classes).flatMap fun
    | (some first, cls) => [⟨.ofClass, first.name, cls.name⟩]
    | (none, cls) => cls.clashes

theorem FunctionDecl.redeclarations_eq_map (method : FunctionDecl) :
    method.redeclarations = method.clashes.map Clash.conflict := by
  rw [FunctionDecl.redeclarations, FunctionDecl.clashes, List.map_flatMap]
  congr 1
  funext visit
  rcases visit with ⟨first | first, name⟩ <;> rfl

theorem ClassDecl.redeclarations_eq_map (cls : ClassDecl) :
    cls.redeclarations = cls.clashes.map Clash.conflict := by
  rw [ClassDecl.redeclarations, ClassDecl.clashes, List.map_flatMap]
  congr 1
  funext visit
  rcases visit with ⟨first | first, method⟩
  · exact method.redeclarations_eq_map
  · rfl

/-- **conflicts_eq_map**: the conflicts of a walk are those of the names that clash, in their order. -/
theorem Program.conflicts_eq_map (program : Program) :
    program.analyse.conflicts = program.clashes.map Clash.conflict := by
  rw [Program.conflicts_eq, Program.redeclarations, Program.clashes, List.map_flatMap]
  congr 1
  funext visit
  rcases visit with ⟨first | first, cls⟩
  · exact cls.redeclarations_eq_map
  · rfl

/-! ## §C Rejected names are decoded ones -/

/-- What each item gives is part of what all of them give. -/
theorem subset_flatMap_of_mem {α β : Type} {each : α → List β} {items : List α} {item : α} (h : item ∈ items) :
    each item ⊆ items.flatMap each := by
  intro b hb
  exact List.mem_flatMap.mpr ⟨item, h, hb⟩

theorem VarDecl.leaves_name {group : VarDecl} {name : Ident} (h : name ∈ group.names) :
    name.leaves ⊆ group.leaves :=
  List.subset_append_of_subset_left _ (subset_flatMap_of_mem h)

theorem FunctionDecl.leaves_name (method : FunctionDecl) : method.name.leaves ⊆ method.leaves :=
  List.subset_append_left _ _

/-- The names of parameters and locals stand in the parameters and the block of a method. -/
theorem FunctionDecl.leaves_declared {method : FunctionDecl} {name : Ident} (h : name ∈ method.declaredNames) :
    name.leaves ⊆ method.leaves := by
  rw [FunctionDecl.leaves, FunctionBlock.leaves]
  apply List.subset_append_of_subset_right
  rcases List.mem_append.mp h with h | h
  · obtain ⟨group, hgroup, hname⟩ := List.mem_flatMap.mp h
    apply List.subset_append_of_subset_left
    exact List.Subset.trans (VarDecl.leaves_name hname) (subset_flatMap_of_mem hgroup)
  · obtain ⟨group, hgroup, hname⟩ := List.mem_flatMap.mp h
    apply List.subset_append_of_subset_right
    apply List.subset_append_of_subset_right
    apply List.subset_append_of_subset_left
    exact List.Subset.trans (VarDecl.leaves_name hname) (subset_flatMap_of_mem hgroup)

theorem ClassDecl.leaves_method {cls : ClassDecl} {method : FunctionDecl} (h : method ∈ cls.block.methods) :
    method.leaves ⊆ cls.leaves := by
  rw [ClassDecl.leaves, ClassBlock.leaves]
  apply List.subset_append_of_subset_right
  apply List.subset_append_of_subset_right
  apply List.subset_append_of_subset_right
  exact subset_flatMap_of_mem h

theorem ClassDecl.leaves_name (cls : ClassDecl) : cls.name.leaves ⊆ cls.leaves :=
  List.subset_append_left _ _

theorem Program.leaves_class {program : Program} {cls : ClassDecl} (h : cls ∈ program.classes) :
    cls.leaves ⊆ program.leaves :=
  List.subset_append_of_subset_right _ (subset_flatMap_of_mem h)

theorem FunctionDecl.leaves_clash {method : FunctionDecl} {clash : Clash} (h : clash ∈ method.clashes) :
    clash.rejected.leaves ⊆ method.leaves := by
  obtain ⟨⟨first | first, name⟩, hvisit, hclash⟩ := List.mem_flatMap.mp h
  · cases hclash
  · rw [List.mem_singleton.mp hclash]
    exact leaves_declared (mem_of_mem_visits hvisit)

theorem ClassDecl.leaves_clash {cls : ClassDecl} {clash : Clash} (h : clash ∈ cls.clashes) :
    clash.rejected.leaves ⊆ cls.leaves := by
  obtain ⟨⟨first | first, method⟩, hvisit, hclash⟩ := List.mem_flatMap.mp h
  · have hmethod : method ∈ cls.block.methods := mem_of_mem_visits hvisit
    exact List.Subset.trans (FunctionDecl.leaves_clash hclash) (leaves_method hmethod)
  · have hmethod : method ∈ cls.block.methods := mem_of_mem_visits hvisit
    rw [List.mem_singleton.mp hclash]
    exact List.Subset.trans method.leaves_name (leaves_method hmethod)

/-- **leaves_clash**: the leaves of a rejected name are leaves of the program. -/
theorem Program.leaves_clash {program : Program} {clash : Clash} (h : clash ∈ program.clashes) :
    clash.rejected.leaves ⊆ program.leaves := by
  obtain ⟨⟨first | first, cls⟩, hvisit, hclash⟩ := List.mem_flatMap.mp h
  · have hcls : cls ∈ program.classes := mem_of_mem_visits hvisit
    exact List.Subset.trans (ClassDecl.leaves_clash hclash) (leaves_class hcls)
  · have hcls : cls ∈ program.classes := mem_of_mem_visits hvisit
    rw [List.mem_singleton.mp hclash]
    exact List.Subset.trans cls.leaves_name (leaves_class hcls)

/-! ## §D Labels -/

/-- The label of a conflict depends on the rejected name alone. -/
theorem Clash.label_eq (clash : Clash) : clash.conflict.label = clash.rejected.span.map Span.label := by
  obtain ⟨what, first, rejected⟩ := clash
  cases what <;> rfl

/-- **spans_forwards**: in every node that is decoded from a text the spans run forwards, and a text is refused of which
any identifier that is read has a span with its end before its start. So the conflicts of a decoded program are those
of its clashing names in their order, and each is marked where the rejected name stands: without a span it has no label,
and with one its label covers just this span. -/
theorem spans_forwards (k : Kind) (text : String) :
    (∀ node, decode k text = .ok node → ∀ span, .span span ∈ leaves k node → span.Ordered) ∧
    (∀ (j name ends : Json) (start stop : UInt32), j.SpelledBy text.toList →
      ReadAs (.node k) j (.node .ident) name → ReadAs (.node .ident) name (.node .span) ends →
      GivesEnds start stop ends → stop < start → ∃ error, decode k text = .error error) ∧
    ∀ program, decode .program text = .ok program →
      program.analyse.conflicts = program.clashes.map Clash.conflict ∧
      ∀ clash ∈ program.clashes,
        (clash.rejected.span = none → clash.conflict.label = none) ∧
        ∀ span, clash.rejected.span = some span → ∃ label, clash.conflict.label = some label ∧ span.MarkedBy label := by
  have hordered : ∀ (k : Kind) (node : k.Node), decode k text = .ok node →
      ∀ span, .span span ∈ leaves k node → span.Ordered := by
    intro k node hdecode span hspan
    obtain ⟨j, -, hpresents⟩ := decode_eq_ok_iff.mp hdecode
    exact Presents.sound greatestDepth _ _ _ hpresents (.span span) hspan
  refine ⟨hordered k, ?_, ?_⟩
  · intro j name ends start stop hspelled hname hspan hends hreversed
    exact reversed_refused hspelled hname hspan hends hreversed
  · intro program hdecode
    refine ⟨program.conflicts_eq_map, ?_⟩
    intro clash hclash
    rw [clash.label_eq]
    constructor
    · intro hnone
      rw [hnone]
      rfl
    · intro span hspan
      have hleaf : Leaf.span span ∈ clash.rejected.leaves := by
        rw [Ident.leaves, hspan]
        exact List.mem_singleton.mpr rfl
      refine ⟨span.label, ?_, ?_⟩
      · rw [hspan]
        rfl
      · exact span.marked_iff.mpr (hordered .program program hdecode span (Program.leaves_clash hclash hleaf))

/-- The name of a local, with its span. -/
def ringName (start stop : UInt32) : Json :=
  .ofFields [("id", .string "RING"), ("line", .natural 3), ("span", (⟨start, stop⟩ : Span).toJson)]

/-- The local of that name. -/
def ringLocal (start stop : UInt32) : Json :=
  .ofFields [("names", .ofList [ringName start stop]), ("typ", .string "integer")]

/-- A program of one class with one method, which has this local. -/
def bell (start stop : UInt32) : Json :=
  .ofFields
    [("name", (Ident.new "Tower" 1).toJson),
      ("classes", .ofList [.ofFields
        [("name", (Ident.new "Bell" 1).toJson),
          ("block", .ofFields
            [("methods", .ofList [.ofFields
              [("name", (Ident.new "ring" 2).toJson), ("return_type", .string "integer"),
                ("block", .ofFields [("locals", .ofList [ringLocal start stop])])]])])]])]

/-- The program that `bell` presents if the span runs forwards. -/
def bellProgram (start stop : UInt32) : Program :=
  ⟨.new "Tower" 1, [⟨.new "Bell" 1, none,
    ⟨[], [⟨.new "ring" 2, [], .integer, ⟨[⟨[⟨"RING", 3, some ⟨start, stop⟩⟩], .integer⟩], []⟩⟩]⟩⟩]⟩

theorem bell_legible (start stop : UInt32) : Legible (bell start stop) := by
  have hname : ∀ spelling line, Legible (Ident.new spelling line).toJson := by
    intro spelling line
    exact legible_fields ⟨.string spelling, natural_legible line⟩
  have hspan : Legible (⟨start, stop⟩ : Span).toJson :=
    legible_fields ⟨natural_legible _, natural_legible _⟩
  have hring : Legible (ringLocal start stop) :=
    legible_fields ⟨legible_items (legible_fields ⟨.string "RING", natural_legible 3, hspan⟩), .string "integer"⟩
  have hblock : Legible (.ofFields [("locals", .ofList [ringLocal start stop])]) :=
    legible_fields (legible_items hring)
  apply legible_fields
  constructor
  · exact hname "Tower" 1
  · apply legible_items
    apply legible_fields
    constructor
    · exact hname "Bell" 1
    · exact legible_fields (legible_items (legible_fields ⟨hname "ring" 2, .string "integer", hblock⟩))

theorem bell_spelled (start stop : UInt32) : (bell start stop).SpelledBy (bell start stop).render.toList := by
  rw [render, String.toList_ofList]
  exact (bell_legible start stop).spelled

set_option maxRecDepth 4000 in
theorem bell_decoded : decode .program (bell 5 9).render = .ok (bellProgram 5 9) := by
  rw [decode, render, String.toList_ofList, Document.ofChars_written (bell_legible 5 9)]
  rfl

/-- The name of the local is read as an identifier. -/
theorem bell_reads (start stop : UInt32) :
    ReadAs (.node .program) (bell start stop) (.node .ident) (ringName start stop) := by
  have hlocal : ReadAs (.node .varDecl) (ringLocal start stop) (.node .ident) (ringName start stop) :=
    .member (.head _) rfl (.item (show [_][0]? = some _ from rfl) rfl .here)
  refine .member (.tail _ (.head _)) rfl ?_
  refine .item (show [_][0]? = some _ from rfl) rfl ?_
  refine .member (.tail _ (.head _)) rfl ?_
  refine .member (.head _) rfl ?_
  refine .item (show [_][0]? = some _ from rfl) rfl ?_
  refine .member (.tail _ (.tail _ (.head _))) rfl ?_
  refine .member (.head _) rfl ?_
  exact .item (show [_][0]? = some _ from rfl) rfl hlocal

theorem bell_clashes :
    (bellProgram 5 9).clashes = [⟨.ofVariable, .new "ring" 2, ⟨"RING", 3, some ⟨5, 9⟩⟩⟩] := by
  decide +kernel

/-- Where the span runs forwards, the conflict is marked with it. Where it runs backwards, the text is refused. -/
theorem bell_marked :
    decode .program (bell 5 9).render = .ok (bellProgram 5 9) ∧
      (bellProgram 5 9).analyse.conflicts.map Conflict.label = [some ⟨5, 4⟩] ∧
      ∃ error, decode .program (bell 9 5).render = .error error := by
  obtain ⟨-, -, hlabels⟩ := spans_forwards .program (bell 5 9).render
  obtain ⟨-, hrefused, -⟩ := spans_forwards .program (bell 9 5).render
  refine ⟨bell_decoded, ?_, ?_⟩
  · obtain ⟨hconflicts, hmarked⟩ := hlabels _ bell_decoded
    rw [bell_clashes] at hconflicts hmarked
    obtain ⟨label, hlabel, hcovers⟩ := (hmarked _ List.mem_cons_self).2 _ rfl
    have hoffset : label.offset = 5 := hcovers.offset
    have hlength : (label.length : Int) = 9 - 5 := hcovers.length
    have heq : label = ⟨5, 4⟩ := by
      obtain ⟨offset, length⟩ := label
      simp only [Label.mk.injEq]
      dsimp only at hoffset hlength
      omega
    rw [hconflicts, List.map_singleton, List.map_singleton, hlabel, heq]
  · have hspan : ReadAs (.node .ident) (ringName 9 5) (.node .span) (⟨9, 5⟩ : Span).toJson :=
      .member (.tail _ (.tail _ (.head _))) rfl .here
    have hstart : Presented .offset (9 : UInt32) (.natural 9) := ⟨0, .offset (.natural 9)⟩
    have hstop : Presented .offset (5 : UInt32) (.natural 5) := ⟨0, .offset (.natural 5)⟩
    have hends : GivesEnds 9 5 (⟨9, 5⟩ : Span).toJson :=
      .object (.head _) (.tail _ (.head _)) ⟨_, rfl⟩ ⟨_, rfl⟩ hstart hstop
    exact hrefused _ _ _ 9 5 (bell_spelled 9 5) (bell_reads 9 5) hspan hends (by decide)

end ScopeTable
