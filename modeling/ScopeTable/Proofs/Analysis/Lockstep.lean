/-
# ScopeTable.Proofs.Analysis.Lockstep -- two scopes that are walked side by side

Two programs that differ in what does not matter are compared item by item. A relation between the items is carried
through a walk as long as related items fold alike: then a name stands for related items on both sides or for none
(`firstNamed_rel`), the walks visit related items, each of them repeating related items or none (`visits_rel`), and
what the visits amount to is related if it is visit by visit (`visits_flatMap_rel`). The maps that the walks leave then
give related answers (`NameMap.Lists.lookup_rel`).
-/
import Mathlib.Data.List.Forall2
import ScopeTable.Proofs.Analysis.Scope

namespace ScopeTable

open Text

variable {α β γ δ : Type} {R : α → β → Prop} {xs earlier : List α} {ys earlier' : List β}

/-! ## §A Related items -/

theorem optionRel_map {S : γ → δ → Prop} {f : α → γ} {g : β → δ} (hfg : ∀ a b, R a b → S (f a) (g b))
    {a : Option α} {b : Option β} (h : Option.Rel R a b) : Option.Rel S (a.map f) (b.map g) := by
  cases h with
  | none => exact .none
  | some hab => exact .some (hfg _ _ hab)

/-- What related items are both seen as is found on both sides. -/
theorem optionRel_map_eq {f : α → γ} {g : β → γ} (hfg : ∀ a b, R a b → f a = g b)
    {a : Option α} {b : Option β} (h : Option.Rel R a b) : a.map f = b.map g := by
  cases h with
  | none => rfl
  | some hab => exact congrArg some (hfg _ _ hab)

/-- What is found on both sides may be looked at when it is related in another way. -/
theorem optionRel_imp {S : α → β → Prop} {a : Option α} {b : Option β} (h : Option.Rel R a b)
    (himp : ∀ x y, a = some x → b = some y → R x y → S x y) : Option.Rel S a b := by
  cases h with
  | none => exact .none
  | some hab => exact .some (himp _ _ rfl rfl hab)

/-- A test that related items pass or fail together is passed in both lists or in none. -/
theorem forall₂_any_eq {p : α → Bool} {q : β → Bool} (hpq : ∀ a b, R a b → p a = q b)
    (h : List.Forall₂ R xs ys) : xs.any p = ys.any q := by
  induction h with
  | nil => rfl
  | cons hxy _ ih => rw [List.any_cons, List.any_cons, hpq _ _ hxy, ih]

/-! ## §B Related walks -/

variable {s : α → String} {t : β → String}

/-- **firstNamed_rel**: in lists whose items fold alike, a name stands for related items or for none. -/
theorem firstNamed_rel (hfold : ∀ a b, R a b → fold (s a) = fold (t b)) (h : List.Forall₂ R xs ys)
    {name name' : String} (hname : fold name = fold name') :
    Option.Rel R (firstNamed s xs name) (firstNamed t ys name') := by
  unfold firstNamed
  induction h with
  | nil => exact .none
  | @cons a b xs ys hab _ ih =>
    rw [List.find?_cons, List.find?_cons, hfold a b hab, hname]
    cases fold (t b) == fold name' with
    | true => exact .some hab
    | false =>
      rw [hname] at ih
      exact ih

/-- **visits_rel**: walks over lists whose items fold alike visit related items, each of them repeating related
items or none. -/
theorem visits_rel (hfold : ∀ a b, R a b → fold (s a) = fold (t b))
    (hearlier : List.Forall₂ R earlier earlier') (h : List.Forall₂ R xs ys) :
    List.Forall₂ (fun v w => Option.Rel R v.1 w.1 ∧ R v.2 w.2)
      (visits s earlier xs) (visits t earlier' ys) := by
  induction h generalizing earlier earlier' with
  | nil => exact .nil
  | @cons a b xs ys hab _ ih =>
    have hfirst := firstNamed_rel hfold hearlier (hfold a b hab)
    exact .cons ⟨hfirst, hab⟩ (ih (List.rel_append hearlier (.cons hab .nil)))

/-- **visits_flatMap_rel**: what related visits amount to is related when it is for repeated items and for new
ones. -/
theorem visits_flatMap_rel {S : γ → δ → Prop} {f : Option α × α → List γ} {g : Option β × β → List δ}
    (hfold : ∀ a b, R a b → fold (s a) = fold (t b))
    (hearlier : List.Forall₂ R earlier earlier') (h : List.Forall₂ R xs ys)
    (hrepeated : ∀ first first' a b, R first first' → R a b →
      List.Forall₂ S (f (some first, a)) (g (some first', b)))
    (hnew : ∀ a b, R a b → List.Forall₂ S (f (none, a)) (g (none, b))) :
    List.Forall₂ S ((visits s earlier xs).flatMap f) ((visits t earlier' ys).flatMap g) := by
  refine List.rel_flatMap (visits_rel hfold hearlier h) ?_
  rintro ⟨first, a⟩ ⟨first', b⟩ ⟨hfirst, hab⟩
  cases hfirst with
  | none => exact hnew a b hab
  | some hfirst => exact hrepeated _ _ a b hfirst hab

/-- **firsts_rel**: the first items of lists whose items fold alike are related. -/
theorem firsts_rel (hfold : ∀ a b, R a b → fold (s a) = fold (t b)) (h : List.Forall₂ R xs ys) :
    List.Forall₂ R (firsts s xs) (firsts t ys) := by
  refine List.rel_filterMap ?_ (visits_rel hfold .nil h)
  rintro ⟨first, a⟩ ⟨first', b⟩ ⟨hfirst, hab⟩
  cases hfirst with
  | none => exact .some hab
  | some => exact .none

/-! ## §C Related maps -/

/-- **Lists.lookup_rel**: if a name stands for related items or for none, what is looked up under it is related, or not
found on either side. -/
theorem NameMap.Lists.lookup_rel {V W ε : Type} {S : V → W → Prop} {value : α → V} {value' : β → W} {map : NameMap V}
    {other : NameMap W} (hmap : map.Lists s value xs) (hother : other.Lists t value' ys)
    (hvalue : ∀ a b, R a b → S (value a) (value' b)) {name name' : String}
    (h : Option.Rel R (firstNamed s xs name) (firstNamed t ys name')) {failure failure' : NotFound → ε} :
    Option.Rel S ((map.get name).mapError failure).toOption ((other.get name').mapError failure').toOption := by
  rw [toOption_mapError_get, toOption_mapError_get, hmap.get?_eq, hother.get?_eq]
  exact optionRel_map hvalue h

end ScopeTable
