/-
# ScopeTable.Proofs.Analysis.AnyOrder -- lists of the same items in any order

`PermutedBy` relates two lists of which the one has the items of the other in any order, each of them in a form that is
related to it. It goes through the constructions of lists (`PermutedBy.flatMap`), views that do not tell an item from
its forms see the same in another order (`PermutedBy.map_perm`), and where no name is repeated a name stands for related
items (`PermutedBy.firstNamed_rel`): that is all that order can matter for in a scope without repetition.
-/
import Mathlib.Data.List.Perm.Basic
import ScopeTable.Proofs.Analysis.Lockstep

namespace ScopeTable

open Text

variable {α β : Type} {R : α → α → Prop} {S : β → β → Prop} {xs ys : List α}

/-- The same items in any order, each of them in a form that is related to it. -/
def PermutedBy (R : α → α → Prop) (xs ys : List α) : Prop :=
  ∃ items, xs.Perm items ∧ List.Forall₂ R items ys

namespace PermutedBy

theorem nil : PermutedBy R [] [] := ⟨[], .nil, .nil⟩

theorem cons {x y : α} (hitem : R x y) (h : PermutedBy R xs ys) : PermutedBy R (x :: xs) (y :: ys) := by
  obtain ⟨items, hperm, hrel⟩ := h
  exact ⟨x :: items, hperm.cons x, .cons hitem hrel⟩

theorem of_perm (h : xs.Perm ys) : PermutedBy Eq xs ys :=
  ⟨ys, h, List.forall₂_same.mpr fun _ _ => rfl⟩

theorem perm (h : PermutedBy Eq xs ys) : xs.Perm ys := by
  obtain ⟨items, hperm, hrel⟩ := h
  rw [List.forall₂_eq_eq_eq] at hrel
  exact hrel ▸ hperm

theorem append {xs' ys' : List α} (h : PermutedBy R xs ys) (h' : PermutedBy R xs' ys') :
    PermutedBy R (xs ++ xs') (ys ++ ys') := by
  obtain ⟨items, hperm, hrel⟩ := h
  obtain ⟨items', hperm', hrel'⟩ := h'
  exact ⟨items ++ items', hperm.append hperm', List.rel_append hrel hrel'⟩

/-- **PermutedBy.flatMap**: what permuted items give is permuted. -/
theorem flatMap {f g : α → List β} (hitem : ∀ a ∈ xs, ∀ b ∈ ys, R a b → PermutedBy S (f a) (g b))
    (h : PermutedBy R xs ys) : PermutedBy S (xs.flatMap f) (ys.flatMap g) := by
  obtain ⟨items, hperm, hrel⟩ := h
  -- The induction is on the forms item by item; the order of the items is changed once for all, at the end.
  have hitems : PermutedBy S (items.flatMap f) (ys.flatMap g) := by
    replace hitem : ∀ a ∈ items, ∀ b ∈ ys, R a b → PermutedBy S (f a) (g b) := fun a ha =>
      hitem a (hperm.mem_iff.mpr ha)
    clear hperm
    induction hrel with
    | nil => exact nil
    | @cons a b items ys hab _ ih =>
      rw [List.flatMap_cons, List.flatMap_cons]
      refine (hitem a List.mem_cons_self b List.mem_cons_self hab).append (ih ?_)
      intro a' ha' b' hb'
      exact hitem a' (List.mem_cons_of_mem _ ha') b' (List.mem_cons_of_mem _ hb')
  obtain ⟨results, hresults, hrelated⟩ := hitems
  exact ⟨results, (hperm.flatMap_right f).trans hresults, hrelated⟩

/-- **PermutedBy.map_perm**: what related items are both seen as is seen in any order. -/
theorem map_perm {f : α → β} (hitem : ∀ a ∈ xs, ∀ b, R a b → f a = f b) (h : PermutedBy R xs ys) :
    (xs.map f).Perm (ys.map f) := by
  obtain ⟨items, hperm, hrel⟩ := h
  have hmem : ∀ a ∈ items, a ∈ xs := fun a ha => hperm.mem_iff.mpr ha
  have hviews : items.map f = ys.map f := by
    rw [← List.forall₂_eq_eq_eq, List.forall₂_map_left_iff, List.forall₂_map_right_iff]
    exact ((List.forall₂_and_left _ _).mpr ⟨hmem, hrel⟩).imp fun a b hab => hitem a hab.1 b hab.2
  exact hviews ▸ hperm.map f

/-- Every item has its form among the items of the other list. -/
theorem exists_left (h : PermutedBy R xs ys) {b : α} (hb : b ∈ ys) : ∃ a ∈ xs, R a b := by
  obtain ⟨items, hperm, hrel⟩ := h
  obtain ⟨i, hi, rfl⟩ := List.getElem_of_mem hb
  have hi' : i < items.length := by rwa [hrel.length_eq]
  exact ⟨items[i], hperm.mem_iff.mpr (List.getElem_mem hi'), hrel.get hi' hi⟩

variable {spelling : α → String}

/-- Where no name is repeated, none is in forms with the same names. -/
theorem distinct (hspelling : ∀ a b, R a b → spelling a = spelling b) (h : PermutedBy R xs ys)
    (hdistinct : Distinct spelling xs) : Distinct spelling ys := by
  have hfolds : (xs.map fun item => fold (spelling item)).Perm (ys.map fun item => fold (spelling item)) := by
    refine h.map_perm ?_
    intro a _ b hab
    rw [hspelling a b hab]
  exact hfolds.nodup_iff.mp hdistinct

end PermutedBy

variable {spelling : α → String}

/-- **firstNamed_perm**: where no name is repeated, order does not matter for what a name stands for. -/
theorem firstNamed_perm (h : xs.Perm ys) (hdistinct : Distinct spelling xs) (name : String) :
    firstNamed spelling xs name = firstNamed spelling ys name := by
  -- Without repetition a name stands for whatever item has it, first or not.
  have hys : Distinct spelling ys := (PermutedBy.of_perm h).distinct (fun _ _ => congrArg spelling) hdistinct
  apply Option.ext
  intro item
  rw [firstNamed_eq_some_iff, firstNamed_eq_some_iff, firsts_eq_self hdistinct, firsts_eq_self hys, h.mem_iff]

/-- **PermutedBy.firstNamed_rel**: where no name is repeated, a name stands for related items or for none. -/
theorem PermutedBy.firstNamed_rel (hspelling : ∀ a b, R a b → spelling a = spelling b)
    (h : PermutedBy R xs ys) (hdistinct : Distinct spelling xs) (name : String) :
    Option.Rel R (firstNamed spelling xs name) (firstNamed spelling ys name) := by
  obtain ⟨items, hperm, hrel⟩ := h
  rw [firstNamed_perm hperm hdistinct]
  exact ScopeTable.firstNamed_rel (fun a b hab => congrArg fold (hspelling a b hab)) hrel rfl

end ScopeTable
