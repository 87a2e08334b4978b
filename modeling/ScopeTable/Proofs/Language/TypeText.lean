/-
# ScopeTable.Proofs.Language.TypeText -- the text of a type determines the type

The text of a type has no brackets around its parts, and a listing puts it between a name and a place. It can still be
read in one way only. A bound consists of digits and a minus, so it ends at the first point or bracket; the text of an
array has a bracket, which no name and no simple type has; and a name is none of the words for simple types. So the
text of an array is cut into its bounds and the text of its element (`ArrayType.text_eq_iff`), and the induction on
types does the rest (`TypeDenoter.text_eq_iff`).

What stands behind a type begins with a parenthesis, and a type has none. So a row of a listing determines its type as
well, and so does what a look-up prints (`type_text_unambiguous`).
-/
import ScopeTable.Console.Run
import ScopeTable.Proofs.Json.Numeral

namespace ScopeTable

open Decimal

/-! ## §A Texts that are cut at a mark -/

/-- **cut_unique**: there is one way to cut a list at the first place of a mark. -/
theorem cut_unique {α : Type} {mark : α} {front front' back back' : List α} (h : mark ∉ front) (h' : mark ∉ front')
    (hsame : front ++ mark :: back = front' ++ mark :: back') : front = front' ∧ back = back' := by
  induction front generalizing front' with
  | nil =>
    cases front' with
    | nil => exact ⟨rfl, (List.cons.inj hsame).2⟩
    | cons c front' =>
      obtain ⟨rfl, -⟩ := List.cons.inj hsame
      exact absurd List.mem_cons_self h'
  | cons c front ih =>
    cases front' with
    | nil =>
      obtain ⟨rfl, -⟩ := List.cons.inj hsame
      exact absurd List.mem_cons_self h
    | cons c' front' =>
      obtain ⟨rfl, htail⟩ := List.cons.inj hsame
      obtain ⟨rfl, rfl⟩ := ih (mt (List.mem_cons_of_mem _) h) (mt (List.mem_cons_of_mem _) h') htail
      exact ⟨rfl, rfl⟩

/-! ## §B Whole numbers -/

theorem digitsOf_inj {m n : Nat} (h : digitsOf m = digitsOf n) : m = n := by
  rw [← Json.digitsOf_value m, h, Json.digitsOf_value]

/-- A whole number is written with digits and a minus. -/
theorem integerText_chars {n : Int} {c : Char} (h : c ∈ (integerText n).toList) : c.isDigit = true ∨ c = '-' := by
  rw [integerText, String.toList_ofList, List.mem_append] at h
  rcases h with hsign | hdigit
  · split at hsign
    · exact .inr (List.mem_singleton.mp hsign)
    · exact absurd hsign List.not_mem_nil
  · exact .inl (Json.digitsOf_isDigit hdigit)

/-- **integerText_inj**: no two whole numbers have one text. -/
theorem integerText_inj {m n : Int} (h : integerText m = integerText n) : m = n := by
  have hminus : ∀ k : Nat, '-' ∉ digitsOf k := fun k hmem => absurd (Json.digitsOf_isDigit hmem) (by decide)
  have hlists : (if m < 0 then ['-'] else []) ++ digitsOf m.natAbs =
      (if n < 0 then ['-'] else []) ++ digitsOf n.natAbs := String.ofList_injective h
  split at hlists <;> split at hlists
  · have habs := digitsOf_inj (List.cons.inj hlists).2
    omega
  · refine absurd ?_ (hminus n.natAbs)
    rw [List.nil_append] at hlists
    rw [← hlists]
    exact List.mem_cons_self
  · refine absurd ?_ (hminus m.natAbs)
    rw [List.nil_append] at hlists
    rw [hlists]
    exact List.mem_cons_self
  · have habs := digitsOf_inj hlists
    omega

/-! ## §C Names -/

/-- The words for the simple types. -/
def simpleTypeWords : List String := ["integer", "real", "char", "boolean"]

/-- A name as the language has it: a letter, then letters, digits and underscores, and no word for a simple type. -/
structure Identifier (name : String) : Prop where
  starts : ∃ c ∈ name.toList.head?, c.isAlpha = true
  continues : ∀ c ∈ name.toList, c.isAlphanum = true ∨ c = '_'
  not_simple : name ∉ simpleTypeWords

mutual
/-- Every class that the type names has a name of the language. -/
def TypeDenoter.WellNamed : TypeDenoter → Prop
  | .named name => Identifier name.spelling
  | .array type => ArrayType.WellNamed type
  | _ => True
/-- Every class that the type names has a name of the language. -/
def ArrayType.WellNamed : ArrayType → Prop
  | ⟨_, _, element⟩ => TypeDenoter.WellNamed element
end

/-- The type is a word by itself. -/
def TypeDenoter.isSimple : TypeDenoter → Bool
  | integer | real | char | boolean => true
  | _ => false

theorem TypeDenoter.text_of_isSimple {type : TypeDenoter} (h : type.isSimple = true) :
    type.text ∈ simpleTypeWords := by
  cases type with
  | integer | real | char | boolean => simp [text, simpleTypeWords]
  | named name => cases h
  | array type => cases h

/-- The words for simple types have letters only. -/
theorem simple_chars {word : String} (h : word ∈ simpleTypeWords) {c : Char} (hc : c ∈ word.toList) :
    c.isAlphanum = true := by
  have hall : ∀ word ∈ simpleTypeWords, word.toList.all Char.isAlphanum = true := by decide +kernel
  exact List.all_eq_true.mp (hall word h) c hc

/-! ## §D Arrays -/

/-- The text of an array type, cut at its marks. -/
theorem ArrayType.text_toList (min max : Int64) (element : TypeDenoter) :
    (ArrayType.mk min max element).text.toList =
      "array".toList ++ '[' :: ((integerText min.toInt).toList ++ '.' :: '.' ::
        ((integerText max.toInt).toList ++ ']' :: (" of ".toList ++ element.text.toList))) := by
  simp [ArrayType.text]

/-- **ArrayType.text_eq_iff**: the text of an array type is cut into its bounds and the text of its element. -/
theorem ArrayType.text_eq_iff {min max min' max' : Int64} {element element' : TypeDenoter} :
    (ArrayType.mk min max element).text = (ArrayType.mk min' max' element').text ↔
      min = min' ∧ max = max' ∧ element.text = element'.text := by
  have hmark : ∀ mark : Char, mark.isDigit = false → mark ≠ '-' → ∀ n : Int, mark ∉ (integerText n).toList := by
    intro mark hdigit hminus n hmem
    rcases integerText_chars hmem with h | h
    · exact Bool.false_ne_true (hdigit.symm.trans h)
    · exact hminus h
  have hpoint := hmark '.' (by decide) (by decide)
  have hbracket := hmark ']' (by decide) (by decide)
  constructor
  · intro h
    have hlists := congrArg String.toList h
    rw [ArrayType.text_toList, ArrayType.text_toList] at hlists
    obtain ⟨hmin, hlists⟩ := cut_unique (hpoint _) (hpoint _) (List.cons.inj (List.append_cancel_left hlists)).2
    obtain ⟨hmax, hlists⟩ := cut_unique (hbracket _) (hbracket _) (List.cons.inj hlists).2
    exact ⟨Int64.toInt_inj.mp (integerText_inj (String.toList_injective hmin)),
      Int64.toInt_inj.mp (integerText_inj (String.toList_injective hmax)),
      String.toList_injective (List.append_cancel_left hlists)⟩
  · rintro ⟨rfl, rfl, h⟩
    rw [ArrayType.text, ArrayType.text, h]

/-- An array has a bracket in its text. -/
theorem ArrayType.bracket_mem_text (type : ArrayType) : '[' ∈ type.text.toList := by
  obtain ⟨min, max, element⟩ := type
  rw [ArrayType.text_toList]
  exact List.mem_append_right _ List.mem_cons_self

/-- What has no bracket is not the text of an array. -/
theorem ArrayType.text_ne {text : String} (h : '[' ∉ text.toList) (type : ArrayType) : text ≠ type.text := by
  rintro rfl
  exact h type.bracket_mem_text

/-! ## §E Types -/

theorem Identifier.bracket_notMem {name : String} (h : Identifier name) : '[' ∉ name.toList := fun hmem =>
  absurd (h.continues _ hmem) (by decide)

/-- The word for a simple type is the text of this type only. -/
theorem TypeDenoter.text_eq_simple_iff {type other : TypeDenoter} (htype : type.isSimple = true)
    (hother : other.WellNamed) : type.text = other.text ↔ type.same other = true := by
  have hword := text_of_isSimple htype
  cases other with
  | integer | real | char | boolean => cases type <;> simp_all [text, same, isSimple]
  | named name =>
    refine iff_of_false ?_ (by cases type <;> simp_all [same, isSimple])
    intro h
    rw [h] at hword
    rw [TypeDenoter.WellNamed] at hother
    exact hother.not_simple hword
  | array array =>
    refine iff_of_false ?_ (by cases type <;> simp_all [same, isSimple])
    exact array.text_ne fun hmem => absurd (simple_chars hword hmem) (by decide)

theorem TypeDenoter.same_simple {type other : TypeDenoter} (h : type.isSimple = true) :
    type.same other = other.same type := by
  cases other <;> cases type <;> simp_all [same, isSimple]

/-- **text_eq_iff_of_isSimple**: of two types one of which is simple. -/
theorem TypeDenoter.text_eq_iff_of_isSimple {t u : TypeDenoter} (h : t.isSimple = true ∨ u.isSimple = true)
    (ht : t.WellNamed) (hu : u.WellNamed) : t.text = u.text ↔ t.same u = true := by
  rcases h with h | h
  · exact text_eq_simple_iff h hu
  · rw [eq_comm, text_eq_simple_iff h ht, same_simple h]

mutual
/-- **TypeDenoter.text_eq_iff**: types with names of the language have one text exactly when they are equal. -/
theorem TypeDenoter.text_eq_iff : ∀ {t u : TypeDenoter}, t.WellNamed → u.WellNamed →
    (t.text = u.text ↔ t.same u = true)
  | .integer, _, ht, hu => TypeDenoter.text_eq_iff_of_isSimple (.inl rfl) ht hu
  | .real, _, ht, hu => TypeDenoter.text_eq_iff_of_isSimple (.inl rfl) ht hu
  | .char, _, ht, hu => TypeDenoter.text_eq_iff_of_isSimple (.inl rfl) ht hu
  | .boolean, _, ht, hu => TypeDenoter.text_eq_iff_of_isSimple (.inl rfl) ht hu
  | .named a, u, ht, hu => by
    cases u with
    | integer | real | char | boolean => exact TypeDenoter.text_eq_iff_of_isSimple (.inr rfl) ht hu
    | named b =>
      rw [TypeDenoter.same]
      exact beq_iff_eq.symm
    | array b =>
      rw [TypeDenoter.WellNamed] at ht
      refine iff_of_false ?_ (by simp [TypeDenoter.same])
      exact ArrayType.text_ne ht.bracket_notMem b
  | .array a, u, ht, hu => by
    cases u with
    | integer | real | char | boolean => exact TypeDenoter.text_eq_iff_of_isSimple (.inr rfl) ht hu
    | named b =>
      rw [TypeDenoter.WellNamed] at hu
      refine iff_of_false ?_ (by simp [TypeDenoter.same])
      exact (ArrayType.text_ne hu.bracket_notMem a).symm
    | array b =>
      rw [TypeDenoter.WellNamed] at ht hu
      rw [TypeDenoter.same]
      exact ArrayType.text_eq_iff_same ht hu
/-- **ArrayType.text_eq_iff_same**: array types with names of the language have one text exactly when they are equal. -/
theorem ArrayType.text_eq_iff_same : ∀ {a b : ArrayType}, a.WellNamed → b.WellNamed →
    (a.text = b.text ↔ a.same b = true)
  | ⟨min, max, element⟩, ⟨min', max', element'⟩, ha, hb => by
    rw [ArrayType.WellNamed] at ha hb
    rw [ArrayType.text_eq_iff, ArrayType.same, TypeDenoter.text_eq_iff ha hb]
    simp [and_assoc]
end

/-! ## §F Types in a line -/

mutual
/-- No type has a parenthesis in its text. -/
theorem TypeDenoter.paren_notMem_text : ∀ {type : TypeDenoter}, type.WellNamed → '(' ∉ type.text.toList
  | .integer, _ => by simp [TypeDenoter.text]
  | .real, _ => by simp [TypeDenoter.text]
  | .char, _ => by simp [TypeDenoter.text]
  | .boolean, _ => by simp [TypeDenoter.text]
  | .named name, h => by
    rw [TypeDenoter.WellNamed] at h
    exact fun hmem => absurd (h.continues _ hmem) (by decide)
  | .array type, h => by
    rw [TypeDenoter.WellNamed] at h
    exact ArrayType.paren_notMem_text h
theorem ArrayType.paren_notMem_text : ∀ {type : ArrayType}, type.WellNamed → '(' ∉ type.text.toList
  | ⟨min, max, element⟩, h => by
    have hbound : ∀ n : Int, '(' ∉ (integerText n).toList := fun n hmem =>
      absurd (integerText_chars hmem) (by decide)
    rw [ArrayType.WellNamed] at h
    rw [ArrayType.text_toList]
    simp [hbound, TypeDenoter.paren_notMem_text h]
end

/-- What stands behind a type: nothing, or something in parentheses. -/
def Behind (rest : String) : Prop := rest = "" ∨ ∃ cs, rest.toList = ' ' :: '(' :: cs

theorem behind_place (line : UInt64) : Behind (Row.place line) :=
  .inr ⟨"line ".toList ++ (integerText line.toNat).toList ++ [')'], by simp [Row.place]⟩

/-- **text_cut**: the text of a type ends where something in parentheses begins. -/
theorem TypeDenoter.text_cut {t u : TypeDenoter} {rest rest' : String} (ht : t.WellNamed) (hu : u.WellNamed)
    (hrest : Behind rest) (hrest' : Behind rest') (h : t.text ++ rest = u.text ++ rest') : t.text = u.text := by
  have hlists := congrArg String.toList h
  rw [String.toList_append, String.toList_append] at hlists
  rcases hrest with rfl | ⟨cs, hcs⟩ <;> rcases hrest' with rfl | ⟨cs', hcs'⟩
  · rwa [String.append_empty, String.append_empty] at h
  · refine absurd ?_ (TypeDenoter.paren_notMem_text ht)
    rw [String.toList_empty, List.append_nil, hcs'] at hlists
    simp [hlists]
  · refine absurd ?_ (TypeDenoter.paren_notMem_text hu)
    rw [String.toList_empty, List.append_nil, hcs] at hlists
    simp [← hlists]
  · rw [hcs, hcs', List.append_cons, List.append_cons u.text.toList] at hlists
    have hfront := (cut_unique (by simpa using TypeDenoter.paren_notMem_text ht)
      (by simpa using TypeDenoter.paren_notMem_text hu) hlists).1
    exact String.toList_injective (List.append_cancel_right hfront)

/-- A line that shows a type, with the text before the type: a row of a listing, or what a look-up prints. -/
inductive ShowsType : String → TypeDenoter → String → Prop where
  | ofField (spelling : String) (type : TypeDenoter) :
    ShowsType ("field " ++ spelling ++ ": ") type (Row.ofField spelling type).text
  | ofMethod (name : Ident) (type : TypeDenoter) :
    ShowsType ("method " ++ name.spelling ++ ": ") type (Row.ofMethod name type).text
  | ofVariable (v : Variable) :
    ShowsType (v.kind.word ++ " " ++ v.name.spelling ++ ": ") v.type (Row.ofVariable v).text
  | foundField (group : VarDecl) (name : String) :
    ShowsType ("field " ++ (Console.designated group name).spelling ++ ": ") group.type (Console.fieldText group name)
  | foundMethod (method : MethodTable) :
    ShowsType ("method " ++ method.name.spelling ++ ": ") method.decl.returnType (Console.methodText method)
  | foundVariable (v : Variable) :
    ShowsType (v.kind.word ++ " " ++ v.name.spelling ++ ": ") v.type (Console.variableText v)

/-- Every such line has the type behind its heading, and then at most something in parentheses. -/
theorem ShowsType.line_eq {heading line : String} {type : TypeDenoter} (h : ShowsType heading type line) :
    ∃ rest, Behind rest ∧ line = heading ++ (type.text ++ rest) := by
  cases h with
  | ofField spelling type => exact ⟨"", .inl rfl, by rw [Row.text, String.append_empty]⟩
  | ofMethod name type => exact ⟨_, behind_place _, String.append_assoc ..⟩
  | ofVariable v => exact ⟨_, behind_place _, String.append_assoc ..⟩
  | foundField group name =>
    rw [Console.fieldText_eq]
    exact ⟨_, behind_place _, String.append_assoc ..⟩
  | foundMethod method =>
    rw [Console.methodText_eq]
    exact ⟨_, behind_place _, String.append_assoc ..⟩
  | foundVariable v =>
    rw [Console.variableText_eq]
    exact ⟨_, behind_place _, String.append_assoc ..⟩

/-- **type_text_unambiguous**: types in which every class has a name of the language have one text exactly when they
are equal, which is to say in bounds, nesting and innermost element. So of two lines of a listing or look-up that are
the same, with the same text before the type, the types are equal. -/
theorem type_text_unambiguous :
    (∀ t u : TypeDenoter, t.WellNamed → u.WellNamed → (t.text = u.text ↔ (t == u) = true)) ∧
      ∀ heading t u line, ShowsType heading t line → ShowsType heading u line → t.WellNamed → u.WellNamed →
        (t == u) = true := by
  refine ⟨fun t u ht hu => TypeDenoter.text_eq_iff ht hu, ?_⟩
  intro heading t u line hshown hshown' ht hu
  obtain ⟨rest, hrest, rfl⟩ := hshown.line_eq
  obtain ⟨rest', hrest', hsame⟩ := hshown'.line_eq
  have htext := TypeDenoter.text_cut ht hu hrest hrest' ((String.append_right_inj heading).mp hsame)
  exact (TypeDenoter.text_eq_iff ht hu).mp htext

/-- An array from 5 down to -3 of arrays of a class. -/
def paddock (line : UInt64) : TypeDenoter := .array ⟨5, -3, .array ⟨0, 1, .named (.new "Animal_2" line)⟩⟩

theorem paddock_wellNamed (line : UInt64) : (paddock line).WellNamed := by
  have hname : Identifier "Animal_2" := ⟨⟨'A', by decide +kernel, by decide⟩, by simp, by decide +kernel⟩
  simp only [paddock, TypeDenoter.WellNamed, ArrayType.WellNamed]
  exact hname

/-- A type that is printed like `paddock` is `paddock`, wherever its class is mentioned. -/
theorem paddock_unambiguous :
    (paddock 1).text = "array[5..-3] of array[0..1] of Animal_2" ∧ (paddock 1).text = (paddock 9).text ∧
      (paddock 1 == paddock 9) = true := by
  have hsame : (paddock 1).text = (paddock 9).text := by decide +kernel
  exact ⟨by decide +kernel, hsame,
    (type_text_unambiguous.1 _ _ (paddock_wellNamed 1) (paddock_wellNamed 9)).mp hsame⟩

end ScopeTable
