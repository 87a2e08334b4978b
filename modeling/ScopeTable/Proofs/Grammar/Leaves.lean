/-
# ScopeTable.Proofs.Grammar.Leaves -- the spans and reals of a node

Two kinds of leaves can stand in a tree and yet not in a text: a span that runs backwards and a real that is
not finite. They are listed here by recursion on the syntax, in the order of the text, and without the node
grammar. `record_leaves` and `variant_leaves` then say that the layouts of the grammar lose none of them: the
leaves of a node are those of its fields, or of its payload. Whatever is said about leaves in terms of
layouts holds of the trees.
-/
import ScopeTable.Grammar.Layout

namespace ScopeTable

/-! ## §A Leaves of the syntax -/

/-- A leaf of which not every value can be written: the span of an identifier, or a real literal. -/
inductive Leaf where
  | span (span : Span)
  | real (x : Float)

/-- The leaves of an identifier. -/
def Ident.leaves (name : Ident) : List Leaf := (name.span.map Leaf.span).toList

/-- The leaves of a literal. -/
def Literal.leaves : Literal → List Leaf
  | .real x => [.real x]
  | _ => []

mutual
/-- The leaves of an expression. -/
def Expression.leaves : Expression → List Leaf
  | ⟨left, comparison⟩ => AdditiveExpression.leaves left ++ Comparison.leavesOption comparison
/-- The leaves of the right side of a comparison. -/
def Comparison.leaves : Comparison → List Leaf
  | ⟨_, right⟩ => AdditiveExpression.leaves right
/-- The leaves of a right side that may be missing. -/
def Comparison.leavesOption : Option Comparison → List Leaf
  | none => []
  | some c => Comparison.leaves c
/-- The leaves of a sum. -/
def AdditiveExpression.leaves : AdditiveExpression → List Leaf
  | ⟨first, rest⟩ => MultiplicativeExpression.leaves first ++ AdditiveExpression.leavesRest rest
/-- The leaves of the further terms of a sum. -/
def AdditiveExpression.leavesRest : List (AddOp × MultiplicativeExpression) → List Leaf
  | [] => []
  | (_, term) :: rest =>
    MultiplicativeExpression.leaves term ++ AdditiveExpression.leavesRest rest
/-- The leaves of a product. -/
def MultiplicativeExpression.leaves : MultiplicativeExpression → List Leaf
  | ⟨first, rest⟩ => NegatableExpression.leaves first ++ MultiplicativeExpression.leavesRest rest
/-- The leaves of the further factors of a product. -/
def MultiplicativeExpression.leavesRest : List (MulOp × NegatableExpression) → List Leaf
  | [] => []
  | (_, factor) :: rest =>
    NegatableExpression.leaves factor ++ MultiplicativeExpression.leavesRest rest
/-- The leaves of an operand. -/
def NegatableExpression.leaves : NegatableExpression → List Leaf
  | .signed _ inner => NegatableExpression.leaves inner
  | .primary operand => PrimaryExpression.leaves operand
/-- The leaves of an operand without sign. -/
def PrimaryExpression.leaves : PrimaryExpression → List Leaf
  | .access path => VariableAccess.leaves path
  | .literal value => value.leaves
  | .function call => FunctionDesignator.leaves call
  | .method call => MethodDesignator.leaves call
  | .objectInstantiation creation => ObjectInstantiation.leaves creation
  | .parens inner => Expression.leaves inner
  | .not inner => PrimaryExpression.leaves inner
/-- The leaves of a path to a variable. -/
def VariableAccess.leaves : VariableAccess → List Leaf
  | .identifier name => name.leaves
  | .indexed base indices => VariableAccess.leaves base ++ Expression.leavesList indices
  | .attribute base field => VariableAccess.leaves base ++ field.leaves
/-- The leaves of a list of expressions. -/
def Expression.leavesList : List Expression → List Leaf
  | [] => []
  | e :: es => Expression.leaves e ++ Expression.leavesList es
/-- The leaves of a call. -/
def FunctionDesignator.leaves : FunctionDesignator → List Leaf
  | ⟨name, args⟩ => name.leaves ++ ActualParameter.leavesList args
/-- The leaves of a method call. -/
def MethodDesignator.leaves : MethodDesignator → List Leaf
  | ⟨receiver, call⟩ => VariableAccess.leaves receiver ++ FunctionDesignator.leaves call
/-- The leaves of an object creation. -/
def ObjectInstantiation.leaves : ObjectInstantiation → List Leaf
  | ⟨className, args⟩ => className.leaves ++ ActualParameter.leavesList args
/-- The leaves of an argument. -/
def ActualParameter.leaves : ActualParameter → List Leaf
  | ⟨value, width, precision⟩ =>
    Expression.leaves value ++
      (Expression.leavesOption width ++ Expression.leavesOption precision)
/-- The leaves of a list of arguments. -/
def ActualParameter.leavesList : List ActualParameter → List Leaf
  | [] => []
  | a :: as => ActualParameter.leaves a ++ ActualParameter.leavesList as
/-- The leaves of an expression that may be missing. -/
def Expression.leavesOption : Option Expression → List Leaf
  | none => []
  | some e => Expression.leaves e
end

/-- The leaves of an assignment. -/
def Assignment.leaves (step : Assignment) : List Leaf := step.target.leaves ++ step.value.leaves

/-- The leaves of a print statement. -/
def Print.leaves (output : Print) : List Leaf := output.value.leaves

mutual
/-- The leaves of a statement. -/
def Statement.leaves : Statement → List Leaf
  | .assignment step => step.leaves
  | .conditional choice => If.leaves choice
  | .print output => output.leaves
  | .loop repeated => While.leaves repeated
  | .compound body => Statement.leavesList body
/-- The leaves of a branch. -/
def If.leaves : If → List Leaf
  | ⟨cond, thenBranch, elseBranch⟩ =>
    cond.leaves ++ (Statement.leaves thenBranch ++ Statement.leavesOption elseBranch)
/-- The leaves of a loop. -/
def While.leaves : While → List Leaf
  | ⟨cond, body⟩ => cond.leaves ++ Statement.leaves body
/-- The leaves of a list of statements. -/
def Statement.leavesList : List Statement → List Leaf
  | [] => []
  | s :: ss => Statement.leaves s ++ Statement.leavesList ss
/-- The leaves of a statement that may be missing. -/
def Statement.leavesOption : Option Statement → List Leaf
  | none => []
  | some s => Statement.leaves s
end

mutual
/-- The leaves of a type. -/
def TypeDenoter.leaves : TypeDenoter → List Leaf
  | .named name => name.leaves
  | .array type => ArrayType.leaves type
  | _ => []
/-- The leaves of an array type. -/
def ArrayType.leaves : ArrayType → List Leaf
  | ⟨_, _, element⟩ => TypeDenoter.leaves element
end

/-- The leaves of a group of names. -/
def VarDecl.leaves (group : VarDecl) : List Leaf :=
  group.names.flatMap Ident.leaves ++ group.type.leaves

/-- The leaves of the locals and statements of a method. -/
def FunctionBlock.leaves (block : FunctionBlock) : List Leaf :=
  block.locals.flatMap VarDecl.leaves ++ block.body.flatMap Statement.leaves

/-- The leaves of a method. -/
def FunctionDecl.leaves (method : FunctionDecl) : List Leaf :=
  method.name.leaves ++
    (method.params.flatMap VarDecl.leaves ++ (method.returnType.leaves ++ method.block.leaves))

/-- The leaves of the members of a class. -/
def ClassBlock.leaves (block : ClassBlock) : List Leaf :=
  block.fields.flatMap VarDecl.leaves ++ block.methods.flatMap FunctionDecl.leaves

/-- The leaves of a class. -/
def ClassDecl.leaves (decl : ClassDecl) : List Leaf :=
  decl.name.leaves ++ ((decl.parent.map Ident.leaves).getD [] ++ decl.block.leaves)

/-- The leaves of a program. -/
def Program.leaves (program : Program) : List Leaf :=
  program.name.leaves ++ program.classes.flatMap ClassDecl.leaves

namespace Grammar

/-- The leaves of a node of any kind. -/
def leaves : (k : Kind) → k.Node → List Leaf
  | .ident => Ident.leaves
  | .span => fun span => [.span span]
  | .program => Program.leaves
  | .classDecl => ClassDecl.leaves
  | .classBlock => ClassBlock.leaves
  | .varDecl => VarDecl.leaves
  | .typeDenoter => TypeDenoter.leaves
  | .arrayType => ArrayType.leaves
  | .functionDecl => FunctionDecl.leaves
  | .functionBlock => FunctionBlock.leaves
  | .statement => Statement.leaves
  | .assignment => Assignment.leaves
  | .conditional => If.leaves
  | .print => Print.leaves
  | .loop => While.leaves
  | .expression => Expression.leaves
  | .comparison => Comparison.leaves
  | .relOp => fun _ => []
  | .additiveExpression => AdditiveExpression.leaves
  | .addOp => fun _ => []
  | .multiplicativeExpression => MultiplicativeExpression.leaves
  | .mulOp => fun _ => []
  | .negatableExpression => NegatableExpression.leaves
  | .sign => fun _ => []
  | .primaryExpression => PrimaryExpression.leaves
  | .literal => Literal.leaves
  | .variableAccess => VariableAccess.leaves
  | .functionDesignator => FunctionDesignator.leaves
  | .methodDesignator => MethodDesignator.leaves
  | .objectInstantiation => ObjectInstantiation.leaves
  | .actualParameter => ActualParameter.leaves
  | .signedBody => fun (_, inner) => inner.leaves
  | .indexedBody => fun (base, indices) => base.leaves ++ indices.flatMap Expression.leaves
  | .attributeBody => fun (base, field) => base.leaves ++ field.leaves

/-! ## §B Leaves by layouts -/

/-- The leaves of a value of any shape. -/
def Shape.leaves : (s : Shape) → s.Value → List Leaf
  | .real, x => [.real x]
  | .list item, values => values.flatMap item.leaves
  | .pair first second, (a, b) => first.leaves a ++ second.leaves b
  | .node kind, value => Grammar.leaves kind value
  | .text, _ => []
  | .line, _ => []
  | .offset, _ => []
  | .integer, _ => []
  | .character, _ => []
  | .boolean, _ => []

/-- The leaves of the value of a field. -/
def Field.leaves : (f : Field) → f.Value → List Leaf
  | .required _ shape, value => shape.leaves value
  | .nullable _ shape, value => (value.map shape.leaves).getD []
  | .defaulted _ shape _, value => shape.leaves value

/-- The leaves of the values of a record. -/
def Values.leaves : (fs : List Field) → Values fs → List Leaf
  | [], _ => []
  | f :: fs, values => f.leaves values.1 ++ Values.leaves fs values.2

/-- Leaves that are listed item by item are those of all items. -/
theorem itemwise_leaves {α : Type} {each : α → List Leaf} {all : List α → List Leaf}
    (hnil : all [] = []) (hcons : ∀ item items, all (item :: items) = each item ++ all items)
    (items : List α) : all items = items.flatMap each := by
  induction items with
  | nil => rw [hnil, List.flatMap_nil]
  | cons item items ih => rw [hcons, List.flatMap_cons, ih]

theorem additive_leavesRest (rest : List (AddOp × MultiplicativeExpression)) :
    AdditiveExpression.leavesRest rest = rest.flatMap fun pair => pair.2.leaves :=
  itemwise_leaves rfl (fun _ _ => rfl) rest

theorem multiplicative_leavesRest (rest : List (MulOp × NegatableExpression)) :
    MultiplicativeExpression.leavesRest rest = rest.flatMap fun pair => pair.2.leaves :=
  itemwise_leaves rfl (fun _ _ => rfl) rest

theorem expression_leavesList (es : List Expression) :
    Expression.leavesList es = es.flatMap Expression.leaves :=
  itemwise_leaves rfl (fun _ _ => rfl) es

theorem actualParameter_leavesList (as : List ActualParameter) :
    ActualParameter.leavesList as = as.flatMap ActualParameter.leaves :=
  itemwise_leaves rfl (fun _ _ => rfl) as

theorem statement_leavesList (ss : List Statement) :
    Statement.leavesList ss = ss.flatMap Statement.leaves :=
  itemwise_leaves rfl (fun _ _ => rfl) ss

theorem comparison_leavesOption (c : Option Comparison) :
    Comparison.leavesOption c = (c.map Comparison.leaves).getD [] := by
  cases c with
  | none => rfl
  | some c => rfl

theorem expression_leavesOption (e : Option Expression) :
    Expression.leavesOption e = (e.map Expression.leaves).getD [] := by
  cases e with
  | none => rfl
  | some e => rfl

theorem statement_leavesOption (s : Option Statement) :
    Statement.leavesOption s = (s.map Statement.leaves).getD [] := by
  cases s with
  | none => rfl
  | some s => rfl

theorem conditional_leaves : ∀ c : If, c.leaves =
    c.cond.leaves ++ (c.thenBranch.leaves ++ (c.elseBranch.map Statement.leaves).getD [])
  | ⟨_, _, elseBranch⟩ => by rw [If.leaves, statement_leavesOption]

theorem expression_leaves : ∀ e : Expression, e.leaves =
    e.left.leaves ++ (e.comparison.map Comparison.leaves).getD []
  | ⟨_, comparison⟩ => by rw [Expression.leaves, comparison_leavesOption]

theorem additive_leaves : ∀ e : AdditiveExpression, e.leaves =
    e.first.leaves ++ e.rest.flatMap fun pair => pair.2.leaves
  | ⟨_, rest⟩ => by rw [AdditiveExpression.leaves, additive_leavesRest]

theorem multiplicative_leaves : ∀ e : MultiplicativeExpression, e.leaves =
    e.first.leaves ++ e.rest.flatMap fun pair => pair.2.leaves
  | ⟨_, rest⟩ => by rw [MultiplicativeExpression.leaves, multiplicative_leavesRest]

theorem indexed_leaves (base : VariableAccess) (indices : List Expression) :
    (VariableAccess.indexed base indices).leaves =
      base.leaves ++ indices.flatMap Expression.leaves := by
  rw [VariableAccess.leaves, expression_leavesList]

theorem functionDesignator_leaves : ∀ call : FunctionDesignator, call.leaves =
    call.name.leaves ++ call.args.flatMap ActualParameter.leaves
  | ⟨_, args⟩ => by rw [FunctionDesignator.leaves, actualParameter_leavesList]

theorem objectInstantiation_leaves : ∀ creation : ObjectInstantiation, creation.leaves =
    creation.className.leaves ++ creation.args.flatMap ActualParameter.leaves
  | ⟨_, args⟩ => by rw [ObjectInstantiation.leaves, actualParameter_leavesList]

theorem actualParameter_leaves : ∀ a : ActualParameter, a.leaves =
    a.value.leaves ++
      ((a.width.map Expression.leaves).getD [] ++ (a.precision.map Expression.leaves).getD [])
  | ⟨_, width, precision⟩ => by
    rw [ActualParameter.leaves, expression_leavesOption, expression_leavesOption]

/-- **record_leaves**: the leaves of a record are those of its fields. A span is itself a leaf, and its
fields have none. -/
theorem record_leaves {k : Kind} {fs : List Field} {make : Values fs → Except Mismatch k.Node}
    {vs : Values fs} {node : k.Node} (hk : k ≠ .span) (hlayout : layoutOf k = .record fs make)
    (hmake : make vs = .ok node) : leaves k node = Values.leaves fs vs := by
  cases k
  case span => exact absurd rfl hk
  all_goals cases hlayout
  all_goals cases hmake
  all_goals simp only [Values.leaves, List.append_nil]
  -- Where the syntax goes through lists and options of its own, the lemmas above are needed.
  case ident =>
    obtain ⟨spelling, line, span, ⟨⟩⟩ := vs
    cases span with
    | none => rfl
    | some span => rfl
  case conditional => exact conditional_leaves _
  case expression => exact expression_leaves _
  case additiveExpression => exact additive_leaves _
  case multiplicativeExpression => exact multiplicative_leaves _
  case functionDesignator => exact functionDesignator_leaves _
  case objectInstantiation => exact objectInstantiation_leaves _
  case actualParameter => exact actualParameter_leaves _
  all_goals rfl

/-- **variant_leaves**: the leaves of a variant are those of its payload. -/
theorem variant_leaves {k : Kind} {variants : List (Variant k.Node)} {name : String} {shape : Shape}
    {make : shape.Value → k.Node} (hlayout : layoutOf k = .choice variants)
    (hmem : .holding name shape make ∈ variants) (v : shape.Value) :
    leaves k (make v) = shape.leaves v := by
  cases k
  all_goals cases hlayout
  all_goals simp only [List.mem_cons, List.not_mem_nil, or_false, reduceCtorEq, false_or] at hmem
  case typeDenoter => rcases hmem with h | h <;> cases h <;> rfl
  case statement =>
    rcases hmem with h | h | h | h | h <;> cases h
    case inr.inr.inr.inr => exact statement_leavesList v
    all_goals rfl
  case negatableExpression => rcases hmem with h | h <;> cases h <;> rfl
  case primaryExpression => rcases hmem with h | h | h | h | h | h | h <;> cases h <;> rfl
  case literal => rcases hmem with h | h | h | h <;> cases h <;> rfl
  case variableAccess =>
    rcases hmem with h | h | h <;> cases h
    case inr.inl => exact indexed_leaves v.1 v.2
    all_goals rfl

end Grammar

end ScopeTable
