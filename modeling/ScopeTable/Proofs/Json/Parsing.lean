/-
# ScopeTable.Proofs.Json.Parsing -- documents are the trees that texts spell

The machine that builds a document is tied to the grammar by the lexical elements it has taken. As long as it
has not stopped, its state holds them all (`Machine.taken`), so a document without fault has just the elements
of the text (`tokens_of_faultless`). And where a value is expected the machine takes the elements of any complete
tree and has then completed that tree (`Machine.takes`).

Together with the scanner this makes reading exact: a text spells a tree if and only if the document of the
text is that tree and the tree is complete (`spelledBy_iff`). So a text spells one tree at most.
-/
import ScopeTable.Proofs.Json.Scanning

namespace ScopeTable.Json

/-! ## §A The lexical elements of a tree -/

/-- The lexical elements of items that are each followed by another. -/
def begunItems (items : List Json) : List Token := items.flatMap fun item => item.tokens ++ [.comma]

/-- The lexical elements of a member without what follows it. -/
def pairTokens : Member → List Token
  | .mk key value => key.tokens ++ .colon :: value.tokens

/-- The lexical elements of members that are each followed by another. -/
def begunMembers (members : List Member) : List Token :=
  members.flatMap fun member => pairTokens member ++ [.comma]

theorem itemTokens_snoc (items : List Json) (item : Json) :
    itemTokens (items ++ [item]) = begunItems items ++ (item.tokens ++ [.closeBracket]) := by
  induction items with
  | nil => rfl
  | cons first items ih =>
    have hcons : itemTokens (first :: (items ++ [item])) =
        first.tokens ++ .comma :: itemTokens (items ++ [item]) := by
      cases items <;> rfl
    rw [List.cons_append, hcons, ih, begunItems, begunItems, List.flatMap_cons]
    simp only [List.append_assoc, List.cons_append, List.nil_append]

theorem memberTokens_snoc (members : List Member) (member : Member) :
    memberTokens (members ++ [member]) =
      begunMembers members ++ (pairTokens member ++ [.closeBrace]) := by
  induction members with
  | nil =>
    obtain ⟨key, value⟩ := member
    simp only [List.nil_append, memberTokens, begunMembers, List.flatMap_nil, pairTokens,
      List.append_assoc, List.cons_append]
  | cons first members ih =>
    obtain ⟨key, value⟩ := first
    have hcons : memberTokens (.mk key value :: (members ++ [member])) =
        pairTokens (.mk key value) ++ .comma :: memberTokens (members ++ [member]) := by
      cases members <;> simp [memberTokens, pairTokens]
    rw [List.cons_append, hcons, ih, begunMembers, begunMembers, List.flatMap_cons]
    simp only [List.append_assoc, List.cons_append, List.nil_append]

mutual
/-- **tokens_parted**: in a tree no number stands next to another. -/
theorem tokens_parted : (j : Json) → Token.Parted j.tokens
  | .absent _ => trivial
  | .nothing _ => Token.parted_singleton _
  | .scalar _ => Token.parted_singleton _
  | .text _ => Token.parted_singleton _
  | .array items _ => Token.parted_mark id (itemTokens_parted items)
  | .object members _ => Token.parted_mark id (memberTokens_parted members)
theorem itemTokens_parted : (items : List Json) → Token.Parted (itemTokens items)
  | [] => Token.parted_singleton _
  | [item] => Token.parted_append id (tokens_parted item) trivial
  | item :: next :: items =>
    Token.parted_append id (tokens_parted item) (itemTokens_parted (next :: items))
theorem memberTokens_parted : (members : List Member) → Token.Parted (memberTokens members)
  | [] => Token.parted_singleton _
  | [.mk key value] =>
    Token.parted_append id (tokens_parted key) (Token.parted_append id (tokens_parted value) trivial)
  | .mk key value :: next :: members =>
    Token.parted_append id (tokens_parted key)
      (Token.parted_append id (tokens_parted value) (memberTokens_parted (next :: members)))
end

/-! ## §B What the machine has taken -/

/-- A document without fault: its tree is complete and nothing follows it. -/
structure Document.Faultless (document : Document) : Prop where
  ending : document.ending = .ok ()
  complete : document.root.Complete

namespace Machine

/-- The lexical elements of arrays and objects that are still open, up to their latest comma or colon. -/
def opened : List Frame → List Token
  | [] => []
  | .array earlier :: outer => opened outer ++ .openBracket :: begunItems earlier.reverse
  | .object earlier key :: outer =>
    opened outer ++ .openBrace :: (begunMembers earlier.reverse ++ (key.tokens ++ [.colon]))

/-- The lexical elements that a machine has taken, unless it has stopped. -/
def taken : Machine → List Token
  | .atValue outer => opened outer
  | .atKey outer earlier => opened outer ++ .openBrace :: begunMembers earlier.reverse
  | .atColon outer earlier key =>
    opened outer ++ .openBrace :: (begunMembers earlier.reverse ++ key.tokens)
  | .afterValue outer value => opened outer ++ value.tokens
  | .stopped _ => []

theorem begunItems_snoc (items : List Json) (item : Json) :
    begunItems (items ++ [item]) = begunItems items ++ (item.tokens ++ [.comma]) := by
  simp [begunItems]

theorem begunMembers_snoc (members : List Member) (member : Member) :
    begunMembers (members ++ [member]) = begunMembers members ++ (pairTokens member ++ [.comma]) := by
  simp [begunMembers]

/-- Parts of a tree that are still open make it incomplete. -/
theorem enclose_complete {fault : Fault} {outer : List Frame} {value : Json}
    (h : (enclose fault outer value).Complete) : outer = [] ∧ value.Complete := by
  induction outer generalizing value with
  | nil => exact ⟨rfl, h⟩
  | cons frame outer ih =>
    cases frame with
    | array earlier => cases (ih h).2
    | object earlier key => cases (ih h).2

/-- What the machine does is accounted for: it has taken the lexical elements, or it has stopped with a fault. -/
def Follows : Machine → List Token → Prop
  | .stopped document, _ => ¬document.Faultless
  | machine, tokens => machine.taken = tokens

/-- A machine that is interrupted leaves a fault. -/
theorem interrupt_faulty {machine : Machine} {tokens : List Token} (h : machine.Follows tokens)
    (fault : Fault) : ¬(machine.interrupt fault).Faultless := by
  intro hfaultless
  cases machine with
  | atValue outer => cases (enclose_complete hfaultless.complete).2
  | atKey outer earlier => cases (enclose_complete hfaultless.complete).2
  | atColon outer earlier key => cases (enclose_complete hfaultless.complete).1
  | afterValue outer value =>
    cases outer with
    | nil => cases hfaultless.ending
    | cons frame outer =>
      cases frame with
      | array earlier => cases (enclose_complete hfaultless.complete).2
      | object earlier key => cases (enclose_complete hfaultless.complete).2
  | stopped document => exact h hfaultless

theorem refuseKey_follows (outer : List Frame) (earlier : List Member) (key : Json) (tokens : List Token) :
    (refuseKey outer earlier key).Follows tokens := by
  intro hfaultless
  cases (enclose_complete hfaultless.complete).2

/-- **step_follows**: a step takes one lexical element or stops with a fault. -/
theorem step_follows {machine : Machine} {tokens : List Token} (h : machine.Follows tokens)
    (token : Token) : (machine.step token).Follows (tokens ++ [token]) := by
  rw [step.eq_def]
  split
  -- A value, or the beginning of one.
  · subst h
    rfl
  · subst h
    rfl
  · subst h
    rfl
  · subst h
    rfl
  · subst h
    rfl
  · subst h
    simp only [Follows, taken, opened, Json.tokens, itemTokens, begunItems, List.reverse_nil,
      List.flatMap_nil, List.append_assoc, List.cons_append, List.nil_append]
  -- A key, or what should have been one.
  · subst h
    simp only [Follows, taken, Json.tokens, List.append_assoc, List.cons_append]
  · subst h
    simp only [Follows, taken, Json.tokens, memberTokens, begunMembers, List.reverse_nil,
      List.flatMap_nil, List.append_assoc, List.cons_append, List.nil_append]
  · exact refuseKey_follows _ _ _ _
  · exact refuseKey_follows _ _ _ _
  · exact refuseKey_follows _ _ _ _
  · exact refuseKey_follows _ _ _ _
  · subst h
    simp only [Follows, taken, opened, List.append_assoc, List.cons_append]
  -- What follows a value inside an array or object.
  · subst h
    simp only [Follows, taken, opened, List.reverse_cons, begunItems_snoc, List.append_assoc, List.cons_append]
  · subst h
    simp only [Follows, taken, opened, Json.tokens, List.reverse_cons, itemTokens_snoc, List.append_assoc,
      List.cons_append]
  · subst h
    simp only [Follows, taken, opened, List.reverse_cons, begunMembers_snoc, pairTokens, List.append_assoc,
      List.cons_append, List.nil_append]
  · subst h
    simp only [Follows, taken, opened, Json.tokens, List.reverse_cons, memberTokens_snoc, pairTokens,
      List.append_assoc, List.cons_append, List.nil_append]
  · exact interrupt_faulty h .malformed

theorem run_follows {machine : Machine} {earlier : List Token} (h : machine.Follows earlier)
    (tokens : List Token) : (tokens.foldl step machine).Follows (earlier ++ tokens) := by
  induction tokens generalizing machine earlier with
  | nil =>
    rw [List.append_nil]
    exact h
  | cons token tokens ih =>
    rw [List.append_cons]
    exact ih (step_follows h token)

/-- A machine that ends without fault has completed a value outside all arrays and objects. -/
theorem finish_faultless {machine : Machine} {tokens : List Token} (h : machine.Follows tokens)
    (hfaultless : machine.finish.Faultless) : machine = .afterValue [] machine.finish.root := by
  rw [finish.eq_def] at hfaultless ⊢
  split at hfaultless
  · rfl
  · exact absurd hfaultless (interrupt_faulty h _)

end Machine

/-- **tokens_of_faultless**: a document without fault has the lexical elements that make it up. -/
theorem Document.tokens_of_faultless {tokens : List Token} (h : (ofTokens tokens).Faultless) :
    (ofTokens tokens).root.tokens = tokens := by
  have hstart : (Machine.atValue []).Follows [] := rfl
  have hfollows := Machine.run_follows hstart tokens
  have hmachine := Machine.finish_faultless hfollows h
  rw [hmachine] at hfollows
  exact hfollows

/-! ## §C Complete trees are taken -/

namespace Machine

/-- The machine takes the lexical elements of the tree as one value. -/
def Takes (j : Json) : Prop :=
  ∀ outer rest, (j.tokens ++ rest).foldl step (atValue outer) = rest.foldl step (afterValue outer j)

/-- Items are taken one after the other up to the bracket. -/
theorem takes_items {items : List Json} (hitems : ∀ item ∈ items, Takes item) (hne : items ≠ [])
    (earlier : List Json) (outer : List Frame) (rest : List Token) :
    (itemTokens items ++ rest).foldl step (atValue (.array earlier :: outer)) =
      rest.foldl step (afterValue outer (.array (earlier.reverse ++ items) (.ok ()))) := by
  induction items generalizing earlier with
  | nil => exact absurd rfl hne
  | cons item items ih =>
    have hitem := hitems item List.mem_cons_self
    -- The bracket stands behind the last item and a comma behind every other.
    cases items with
    | nil =>
      rw [itemTokens, List.append_assoc, hitem]
      show rest.foldl step (afterValue outer (.array (item :: earlier).reverse (.ok ()))) = _
      rw [List.reverse_cons]
    | cons next items =>
      show ((item.tokens ++ .comma :: itemTokens (next :: items)) ++ rest).foldl step _ = _
      rw [List.append_assoc, hitem]
      show (itemTokens (next :: items) ++ rest).foldl step
        (atValue (.array (item :: earlier) :: outer)) = _
      rw [ih (fun item h => hitems item (List.mem_cons_of_mem _ h)) (List.cons_ne_nil _ _),
        List.reverse_cons, List.append_assoc, List.singleton_append]

theorem takes_array {items : List Json} (hitems : ∀ item ∈ items, Takes item) :
    Takes (.array items (.ok ())) := by
  intro outer rest
  cases items with
  | nil => rfl
  | cons item items => exact takes_items hitems (List.cons_ne_nil _ _) [] outer rest

/-- A member is taken up to what follows its value. -/
theorem takes_member {member : Member} (hkey : ∃ lexeme, member.key = .text lexeme)
    (hvalue : Takes member.value) (outer : List Frame) (earlier : List Member) (rest : List Token) :
    (pairTokens member ++ rest).foldl step (atKey outer earlier) =
      rest.foldl step (afterValue (.object earlier member.key :: outer) member.value) := by
  obtain ⟨key, value⟩ := member
  obtain ⟨lexeme, rfl⟩ : ∃ lexeme, key = .text lexeme := hkey
  exact hvalue _ rest

/-- Members are taken one after the other up to the brace. -/
theorem takes_members {members : List Member} (hkeys : ∀ m ∈ members, ∃ lexeme, m.key = .text lexeme)
    (hvalues : ∀ m ∈ members, Takes m.value) (hne : members ≠ []) (earlier : List Member)
    (outer : List Frame) (rest : List Token) :
    (memberTokens members ++ rest).foldl step (atKey outer earlier) =
      rest.foldl step (afterValue outer (.object (earlier.reverse ++ members) (.ok ()))) := by
  induction members generalizing earlier with
  | nil => exact absurd rfl hne
  | cons member members ih =>
    have hmember := takes_member (hkeys member List.mem_cons_self) (hvalues member List.mem_cons_self)
    obtain ⟨key, value⟩ := member
    cases members with
    | nil =>
      have htokens : memberTokens [.mk key value] = pairTokens (.mk key value) ++ [.closeBrace] := by
        simp only [memberTokens, pairTokens, List.append_assoc, List.cons_append]
      rw [htokens, List.append_assoc, hmember]
      show rest.foldl step (afterValue outer (.object (.mk key value :: earlier).reverse (.ok ()))) = _
      rw [List.reverse_cons]
    | cons next members =>
      have htokens : memberTokens (.mk key value :: next :: members) =
          pairTokens (.mk key value) ++ .comma :: memberTokens (next :: members) := by
        simp only [memberTokens, pairTokens, List.append_assoc, List.cons_append]
      rw [htokens, List.append_assoc, hmember]
      show (memberTokens (next :: members) ++ rest).foldl step
        (atKey outer (.mk key value :: earlier)) = _
      rw [ih (fun m h => hkeys m (List.mem_cons_of_mem _ h))
          (fun m h => hvalues m (List.mem_cons_of_mem _ h)) (List.cons_ne_nil _ _),
        List.reverse_cons, List.append_assoc, List.singleton_append]

theorem takes_object {members : List Member} (hkeys : ∀ m ∈ members, ∃ lexeme, m.key = .text lexeme)
    (hvalues : ∀ m ∈ members, Takes m.value) : Takes (.object members (.ok ())) := by
  intro outer rest
  cases members with
  | nil => rfl
  | cons member members =>
    exact takes_members hkeys hvalues (List.cons_ne_nil _ _) [] outer rest

/-- **takes_of_complete**: the machine takes every complete tree. -/
theorem takes_of_complete {j : Json} (h : j.Complete) : Takes j := by
  induction h with
  | nothing _ => exact fun _ _ => rfl
  | scalar _ => exact fun _ _ => rfl
  | text _ => exact fun _ _ => rfl
  | array _ ih => exact takes_array ih
  | object hkeys _ ih =>
    refine takes_object ?_ ih
    intro m hm
    obtain ⟨lexeme, hkey, -⟩ := hkeys m hm
    exact ⟨lexeme, hkey⟩

end Machine

/-- The lexical elements of a complete tree make up a document of that tree. -/
theorem Document.ofTokens_tokens {j : Json} (h : j.Complete) : ofTokens j.tokens = ⟨j, .ok ()⟩ := by
  have htakes := Machine.takes_of_complete h [] []
  rw [List.append_nil] at htakes
  rw [ofTokens, htakes]
  rfl

/-! ## §D Texts and trees -/

theorem itemTokens_met {items : List Json} (h : ∀ item ∈ items, ∀ token ∈ item.tokens, token.Met) :
    ∀ token ∈ itemTokens items, token.Met := by
  induction items with
  | nil => exact List.forall_mem_singleton.mpr trivial
  | cons item items ih =>
    rw [List.forall_mem_cons] at h
    cases items with
    | nil =>
      rw [itemTokens, List.forall_mem_append]
      exact ⟨h.1, List.forall_mem_singleton.mpr trivial⟩
    | cons next items =>
      show ∀ token ∈ item.tokens ++ .comma :: itemTokens (next :: items), token.Met
      rw [List.forall_mem_append, List.forall_mem_cons]
      exact ⟨h.1, trivial, ih h.2⟩

theorem memberTokens_met {members : List Member}
    (hkeys : ∀ m ∈ members, ∀ token ∈ m.key.tokens, token.Met)
    (hvalues : ∀ m ∈ members, ∀ token ∈ m.value.tokens, token.Met) :
    ∀ token ∈ memberTokens members, token.Met := by
  induction members with
  | nil => exact List.forall_mem_singleton.mpr trivial
  | cons member members ih =>
    obtain ⟨key, value⟩ := member
    rw [List.forall_mem_cons] at hkeys hvalues
    cases members with
    | nil =>
      rw [memberTokens, List.forall_mem_append, List.forall_mem_cons, List.forall_mem_append]
      exact ⟨hkeys.1, trivial, hvalues.1, List.forall_mem_singleton.mpr trivial⟩
    | cons next members =>
      show ∀ token ∈ key.tokens ++ .colon :: (value.tokens ++ .comma :: memberTokens (next :: members)),
        token.Met
      rw [List.forall_mem_append, List.forall_mem_cons, List.forall_mem_append, List.forall_mem_cons]
      exact ⟨hkeys.1, trivial, hvalues.1, trivial, ih hkeys.2 hvalues.2⟩

/-- **Complete.tokens_met**: a reader gets past every lexical element of a complete tree. -/
theorem Complete.tokens_met {j : Json} (h : j.Complete) : ∀ token ∈ j.tokens, token.Met := by
  induction h with
  | nothing h => exact List.forall_mem_singleton.mpr h
  | scalar h => exact List.forall_mem_singleton.mpr h
  | text h => exact List.forall_mem_singleton.mpr h
  | array _ ih => exact List.forall_mem_cons.mpr ⟨trivial, itemTokens_met ih⟩
  | object hkeys _ ih =>
    refine List.forall_mem_cons.mpr ⟨trivial, memberTokens_met ?_ ih⟩
    intro m hm
    obtain ⟨lexeme, hkey, hmet⟩ := hkeys m hm
    rw [hkey]
    exact List.forall_mem_singleton.mpr hmet

/-- **spelledBy_iff**: a text spells a tree exactly when its document is the tree, nothing follows it, and the
tree is complete. -/
theorem spelledBy_iff {j : Json} {cs : List Char} :
    j.SpelledBy cs ↔ j.Complete ∧ Document.ofChars cs = ⟨j, .ok ()⟩ := by
  constructor
  · rintro ⟨hcomplete, hlexes⟩
    refine ⟨hcomplete, ?_⟩
    rw [Document.ofChars, scan_of_lexes hlexes (tokens_parted j), Document.ofTokens_tokens hcomplete]
  · rintro ⟨hcomplete, hdocument⟩
    rw [Document.ofChars] at hdocument
    have hfaultless : (Document.ofTokens (Token.scan cs)).Faultless := by
      rw [hdocument]
      exact ⟨rfl, hcomplete⟩
    have htokens := Document.tokens_of_faultless hfaultless
    rw [hdocument] at htokens
    have hmet := hcomplete.tokens_met
    refine ⟨hcomplete, ?_⟩
    rw [show j.tokens = Token.scan cs from htokens] at hmet ⊢
    exact lexes_scan cs hmet

/-- **SpelledBy.unique**: a text spells one tree at most. -/
theorem SpelledBy.unique {i j : Json} {cs : List Char} (hi : i.SpelledBy cs) (hj : j.SpelledBy cs) :
    i = j := by
  have hdocument := (spelledBy_iff.mp hi).2
  rw [(spelledBy_iff.mp hj).2] at hdocument
  exact (congrArg Document.root hdocument).symm

/-! ## §E Passing over a tree -/

mutual
/-- **complete_of_pass**: a tree that can be passed over is complete. -/
theorem complete_of_pass : (j : Json) → j.pass = .ok () → j.Complete
  | .absent _, h => by cases h
  | .nothing _, h => .nothing (.inr h)
  | .scalar _, h => .scalar (.inr h)
  | .text _, h => .text (.inr h)
  | .array items ending, h => by
    obtain ⟨_, hitems, hending⟩ := bind_eq_ok_iff.mp h
    rw [hending]
    exact .array (complete_of_passItems items hitems)
  | .object members ending, h => by
    obtain ⟨_, hmembers, hending⟩ := bind_eq_ok_iff.mp h
    have hall := complete_of_passMembers members hmembers
    rw [hending]
    exact .object (fun m hm => (hall m hm).1) fun m hm => (hall m hm).2
theorem complete_of_passItems : (items : List Json) → passItems items = .ok () →
    ∀ item ∈ items, item.Complete
  | [], _ => List.forall_mem_nil _
  | item :: items, h => by
    obtain ⟨_, hitem, hitems⟩ := bind_eq_ok_iff.mp h
    exact List.forall_mem_cons.mpr
      ⟨complete_of_pass item hitem, complete_of_passItems items hitems⟩
theorem complete_of_passMembers : (members : List Member) → passMembers members = .ok () →
    ∀ m ∈ members, (∃ lexeme : Lexeme String, m.key = .text lexeme ∧ lexeme.Met) ∧ m.value.Complete
  | [], _ => List.forall_mem_nil _
  | .mk key value :: members, h => by
    obtain ⟨_, hkey, h⟩ := bind_eq_ok_iff.mp h
    obtain ⟨_, hvalue, hmembers⟩ := bind_eq_ok_iff.mp h
    have hlexeme : ∃ lexeme : Lexeme String, key = .text lexeme ∧ lexeme.Met := by
      cases key with
      | text lexeme => exact ⟨lexeme, rfl, .inr hkey⟩
      | _ => cases hkey
    exact List.forall_mem_cons.mpr
      ⟨⟨hlexeme, complete_of_pass value hvalue⟩, complete_of_passMembers members hmembers⟩
end

/-- The literal can be passed over, or the lexical element is no literal. -/
def Token.Passed : Token → Prop
  | .nothing lexeme => lexeme.passed = .ok ()
  | .scalar lexeme => lexeme.passed = .ok ()
  | .text lexeme => lexeme.passed = .ok ()
  | _ => True

theorem Lexes.passed {tokens : List Token} {cs : List Char} (h : Lexes tokens cs) :
    ∀ token ∈ tokens, token.Passed := by
  induction h with
  | nil => exact List.forall_mem_nil _
  | cons _ hfirst _ ih =>
    refine List.forall_mem_cons.mpr ⟨?_, ih⟩
    cases hfirst <;> first | exact trivial | rfl

mutual
/-- **pass_of_complete**: a complete tree can be passed over if its literals can. -/
theorem pass_of_complete : (j : Json) → j.Complete → (∀ token ∈ j.tokens, token.Passed) →
    j.pass = .ok ()
  | .absent _, h, _ => by cases h
  | .nothing lexeme, _, h => h (.nothing lexeme) List.mem_cons_self
  | .scalar lexeme, _, h => h (.scalar lexeme) List.mem_cons_self
  | .text lexeme, _, h => h (.text lexeme) List.mem_cons_self
  | .array items _, .array h, hpassed =>
    bind_eq_ok_iff.mpr
      ⟨(), passItems_of_complete items h (List.forall_mem_cons.mp hpassed).2, rfl⟩
  | .object members _, .object hkeys hvalues, hpassed =>
    bind_eq_ok_iff.mpr
      ⟨(), passMembers_of_complete members hkeys hvalues (List.forall_mem_cons.mp hpassed).2, rfl⟩
theorem passItems_of_complete : (items : List Json) → (∀ item ∈ items, item.Complete) →
    (∀ token ∈ itemTokens items, token.Passed) → passItems items = .ok ()
  | [], _, _ => rfl
  | [item], h, hpassed => by
    rw [List.forall_mem_singleton] at h
    rw [itemTokens, List.forall_mem_append] at hpassed
    exact bind_eq_ok_iff.mpr ⟨(), pass_of_complete item h hpassed.1, rfl⟩
  | item :: next :: items, h, hpassed => by
    rw [List.forall_mem_cons] at h
    change ∀ token ∈ item.tokens ++ .comma :: itemTokens (next :: items), token.Passed at hpassed
    rw [List.forall_mem_append, List.forall_mem_cons] at hpassed
    exact bind_eq_ok_iff.mpr ⟨(), pass_of_complete item h.1 hpassed.1,
      passItems_of_complete (next :: items) h.2 hpassed.2.2⟩
theorem passMembers_of_complete : (members : List Member) →
    (∀ m ∈ members, ∃ lexeme : Lexeme String, m.key = .text lexeme ∧ lexeme.Met) →
    (∀ m ∈ members, m.value.Complete) → (∀ token ∈ memberTokens members, token.Passed) →
    passMembers members = .ok ()
  | [], _, _, _ => rfl
  | [.mk key value], hkeys, hvalues, hpassed => by
    rw [List.forall_mem_singleton] at hkeys hvalues
    obtain ⟨lexeme, rfl, -⟩ : ∃ lexeme : Lexeme String, key = .text lexeme ∧ lexeme.Met := hkeys
    rw [memberTokens, List.forall_mem_append, List.forall_mem_cons, List.forall_mem_append] at hpassed
    obtain ⟨hkey, -, hvalue, -⟩ := hpassed
    exact bind_eq_ok_iff.mpr ⟨(), hkey (.text lexeme) List.mem_cons_self,
      bind_eq_ok_iff.mpr ⟨(), pass_of_complete value hvalues hvalue, rfl⟩⟩
  | .mk key value :: next :: members, hkeys, hvalues, hpassed => by
    rw [List.forall_mem_cons] at hkeys hvalues
    obtain ⟨lexeme, rfl, -⟩ : ∃ lexeme : Lexeme String, key = .text lexeme ∧ lexeme.Met := hkeys.1
    change ∀ token ∈ (Json.text lexeme).tokens ++ .colon ::
      (value.tokens ++ .comma :: memberTokens (next :: members)), token.Passed at hpassed
    rw [List.forall_mem_append, List.forall_mem_cons, List.forall_mem_append,
      List.forall_mem_cons] at hpassed
    obtain ⟨hkey, -, hvalue, -, hmembers⟩ := hpassed
    exact bind_eq_ok_iff.mpr ⟨(), hkey (.text lexeme) List.mem_cons_self,
      bind_eq_ok_iff.mpr ⟨(), pass_of_complete value hvalues.1 hvalue,
        passMembers_of_complete (next :: members) hkeys.2 hvalues.2 hmembers⟩⟩
end

/-- **spelledBy_iff_pass**: a reader that passes over all it meets accepts just the texts that are JSON. -/
theorem spelledBy_iff_pass {j : Json} {cs : List Char} :
    j.SpelledBy cs ↔ Document.ofChars cs = ⟨j, .ok ()⟩ ∧ j.pass = .ok () := by
  constructor
  · intro h
    exact ⟨(spelledBy_iff.mp h).2, pass_of_complete j h.complete h.lexes.passed⟩
  · rintro ⟨hdocument, hpass⟩
    exact spelledBy_iff.mpr ⟨complete_of_pass j hpass, hdocument⟩

end ScopeTable.Json
