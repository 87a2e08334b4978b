/-
# ScopeTable.Proofs.Grammar.Writing -- the written form goes by the layouts

The writer of nodes follows the syntax and knows nothing of the node grammar. `node_written` says that it
agrees with the grammar nevertheless: every node is written as an object of the fields of its record, in
their order, or as its variant. From there on all is about layouts, for all kinds of nodes at once.
-/
import ScopeTable.Grammar.Encode
import ScopeTable.Proofs.Grammar.Leaves

namespace ScopeTable.Grammar

open ScopeTable.Json

/-! ## §A Written forms by layouts -/

/-- The written form of a value of any shape. -/
def Shape.toJson : (s : Shape) → s.Value → Json
  | .text, s => .string s
  | .line, n => .natural n
  | .offset, n => .natural n.toUInt64
  | .integer, n => .integer n
  | .real, x => .real x
  | .character, c => .character c
  | .boolean, b => .boolean b
  | .list item, values => .ofList (values.map item.toJson)
  | .pair first second, (a, b) => .ofList [first.toJson a, second.toJson b]
  | .node kind, value => Grammar.toJson kind value

/-- The written form of the value of a field. -/
def Field.toJson : (f : Field) → f.Value → Json
  | .required _ shape, value => shape.toJson value
  | .nullable _ shape, value => Json.nullable shape.toJson value
  | .defaulted _ shape _, value => shape.toJson value

/-- The fields of a record as they are written, in the order of declaration. A field may be left out where
the reader would take it for what it is. -/
inductive Written : (fs : List Field) → Values fs → List (String × Json) → Prop where
  | nil : Written [] () []
  | given {f : Field} {fs : List Field} {v : f.Value} {vs : Values fs}
    {fields : List (String × Json)} (hrest : Written fs vs fields) :
    Written (f :: fs) (v, vs) ((f.name, f.toJson v) :: fields)
  | omitted {f : Field} {fs : List Field} {v : f.Value} {vs : Values fs}
    {fields : List (String × Json)} (h : f.absent? = some v) (hrest : Written fs vs fields) :
    Written (f :: fs) (v, vs) fields

/-- A node as it is written: its record, the name of its variant, or its variant with a payload. -/
inductive NodeWritten {k : Kind} : k.Node → Json → Prop where
  | record {fs : List Field} {make : Values fs → Except Mismatch k.Node} {node : k.Node}
    {fields : List (String × Json)} (hlayout : layoutOf k = .record fs make) (vs : Values fs)
    (hmake : make vs = .ok node) (h : Written fs vs fields) : NodeWritten node (.ofFields fields)
  | plain {variants : List (Variant k.Node)} {name : String} {node : k.Node}
    (hlayout : layoutOf k = .choice variants) (hmem : .plain name node ∈ variants) :
    NodeWritten node (.string name)
  | holding {variants : List (Variant k.Node)} {name : String} {shape : Shape}
    {make : shape.Value → k.Node} {node : k.Node} (hlayout : layoutOf k = .choice variants)
    (hmem : .holding name shape make ∈ variants) (v : shape.Value) (hmake : make v = node) :
    NodeWritten node (.single name (shape.toJson v))

/-! ## §B Lists and options of the syntax -/

theorem comparison_toJsonOption (c : Option Comparison) :
    Comparison.toJsonOption c = .nullable Comparison.toJson c := by
  cases c with
  | none => rfl
  | some c => rfl

theorem expression_toJsonOption (e : Option Expression) :
    Expression.toJsonOption e = .nullable Expression.toJson e := by
  cases e with
  | none => rfl
  | some e => rfl

theorem statement_toJsonOption (s : Option Statement) :
    Statement.toJsonOption s = .nullable Statement.toJson s := by
  cases s with
  | none => rfl
  | some s => rfl

/-- Items that are written one by one are a map over the items. -/
theorem itemwise_toJson {α : Type} {each : α → Json} {all : List α → List Json} (hnil : all [] = [])
    (hcons : ∀ item items, all (item :: items) = each item :: all items) (items : List α) :
    all items = items.map each := by
  induction items with
  | nil => rw [hnil, List.map_nil]
  | cons item items ih => rw [hcons, List.map_cons, ih]

theorem additive_restToJson (rest : List (AddOp × MultiplicativeExpression)) :
    AdditiveExpression.restToJson rest =
      rest.map fun pair => .ofList [pair.1.toJson, pair.2.toJson] :=
  itemwise_toJson rfl (fun _ _ => rfl) rest

theorem multiplicative_restToJson (rest : List (MulOp × NegatableExpression)) :
    MultiplicativeExpression.restToJson rest =
      rest.map fun pair => .ofList [pair.1.toJson, pair.2.toJson] :=
  itemwise_toJson rfl (fun _ _ => rfl) rest

theorem expression_listToJson (es : List Expression) :
    Expression.listToJson es = es.map Expression.toJson :=
  itemwise_toJson rfl (fun _ _ => rfl) es

theorem actualParameter_listToJson (as : List ActualParameter) :
    ActualParameter.listToJson as = as.map ActualParameter.toJson :=
  itemwise_toJson rfl (fun _ _ => rfl) as

theorem statement_listToJson (ss : List Statement) :
    Statement.listToJson ss = ss.map Statement.toJson :=
  itemwise_toJson rfl (fun _ _ => rfl) ss

/-! ## §C Every node is written by its layout -/

theorem ident_written (name : Ident) : NodeWritten (k := .ident) name name.toJson := by
  obtain ⟨spelling, line, span⟩ := name
  cases span with
  | none =>
    -- A missing span is left out, where any other missing value is written as `null`.
    exact .record rfl (spelling, line, none, ()) rfl (.given (.given (.omitted rfl .nil)))
  | some span =>
    exact .record rfl (spelling, line, some span, ()) rfl (.given (.given (.given .nil)))

theorem span_written (span : Span) (h : span.Ordered) :
    NodeWritten (k := .span) span span.toJson := by
  have hle : ¬span.stop < span.start := UInt32.not_lt.mpr h
  have hmake : (if span.stop < span.start then (.error (.reversedSpan span) : Except Mismatch Span)
      else .ok span) = .ok span := if_neg hle
  exact .record rfl (span.start, span.stop, ()) hmake (.given (.given .nil))

theorem relOp_written (op : RelOp) : NodeWritten (k := .relOp) op op.toJson := by
  cases op with
  | eq => exact .plain rfl (List.mem_of_getElem? (i := 0) rfl)
  | notEq => exact .plain rfl (List.mem_of_getElem? (i := 1) rfl)
  | lt => exact .plain rfl (List.mem_of_getElem? (i := 2) rfl)
  | gt => exact .plain rfl (List.mem_of_getElem? (i := 3) rfl)
  | ltEq => exact .plain rfl (List.mem_of_getElem? (i := 4) rfl)
  | gtEq => exact .plain rfl (List.mem_of_getElem? (i := 5) rfl)

theorem addOp_written (op : AddOp) : NodeWritten (k := .addOp) op op.toJson := by
  cases op with
  | plus => exact .plain rfl (List.mem_of_getElem? (i := 0) rfl)
  | minus => exact .plain rfl (List.mem_of_getElem? (i := 1) rfl)
  | or => exact .plain rfl (List.mem_of_getElem? (i := 2) rfl)

theorem mulOp_written (op : MulOp) : NodeWritten (k := .mulOp) op op.toJson := by
  cases op with
  | times => exact .plain rfl (List.mem_of_getElem? (i := 0) rfl)
  | divide => exact .plain rfl (List.mem_of_getElem? (i := 1) rfl)
  | div => exact .plain rfl (List.mem_of_getElem? (i := 2) rfl)
  | mod => exact .plain rfl (List.mem_of_getElem? (i := 3) rfl)
  | and => exact .plain rfl (List.mem_of_getElem? (i := 4) rfl)

theorem sign_written (sign : Sign) : NodeWritten (k := .sign) sign sign.toJson := by
  cases sign with
  | plus => exact .plain rfl (List.mem_of_getElem? (i := 0) rfl)
  | minus => exact .plain rfl (List.mem_of_getElem? (i := 1) rfl)

theorem literal_written (value : Literal) : NodeWritten (k := .literal) value value.toJson := by
  cases value with
  | integer n => exact .holding (k := .literal) rfl (List.mem_of_getElem? (i := 0) rfl) n rfl
  | real x => exact .holding (k := .literal) rfl (List.mem_of_getElem? (i := 1) rfl) x rfl
  | char c => exact .holding (k := .literal) rfl (List.mem_of_getElem? (i := 2) rfl) c rfl
  | boolean b => exact .holding (k := .literal) rfl (List.mem_of_getElem? (i := 3) rfl) b rfl

theorem typeDenoter_written (type : TypeDenoter) :
    NodeWritten (k := .typeDenoter) type type.toJson := by
  cases type with
  | integer => exact .plain rfl (List.mem_of_getElem? (i := 0) rfl)
  | real => exact .plain rfl (List.mem_of_getElem? (i := 1) rfl)
  | char => exact .plain rfl (List.mem_of_getElem? (i := 2) rfl)
  | boolean => exact .plain rfl (List.mem_of_getElem? (i := 3) rfl)
  | named name => exact .holding (k := .typeDenoter) rfl (List.mem_of_getElem? (i := 4) rfl) name rfl
  | array type => exact .holding (k := .typeDenoter) rfl (List.mem_of_getElem? (i := 5) rfl) type rfl

theorem negatable_written (e : NegatableExpression) :
    NodeWritten (k := .negatableExpression) e e.toJson := by
  cases e with
  | signed sign inner =>
    exact .holding (k := .negatableExpression) rfl (List.mem_of_getElem? (i := 0) rfl) (sign, inner) rfl
  | primary operand =>
    exact .holding (k := .negatableExpression) rfl (List.mem_of_getElem? (i := 1) rfl) operand rfl

theorem primary_written (e : PrimaryExpression) :
    NodeWritten (k := .primaryExpression) e e.toJson := by
  cases e with
  | access path => exact .holding (k := .primaryExpression) rfl (List.mem_of_getElem? (i := 0) rfl) path rfl
  | literal value => exact .holding (k := .primaryExpression) rfl (List.mem_of_getElem? (i := 1) rfl) value rfl
  | function call => exact .holding (k := .primaryExpression) rfl (List.mem_of_getElem? (i := 2) rfl) call rfl
  | method call => exact .holding (k := .primaryExpression) rfl (List.mem_of_getElem? (i := 3) rfl) call rfl
  | objectInstantiation creation =>
    exact .holding (k := .primaryExpression) rfl (List.mem_of_getElem? (i := 4) rfl) creation rfl
  | parens inner => exact .holding (k := .primaryExpression) rfl (List.mem_of_getElem? (i := 5) rfl) inner rfl
  | not inner => exact .holding (k := .primaryExpression) rfl (List.mem_of_getElem? (i := 6) rfl) inner rfl

theorem access_written (path : VariableAccess) :
    NodeWritten (k := .variableAccess) path path.toJson := by
  rcases path with name | ⟨base, indices⟩ | ⟨base, field⟩
  · exact .holding (k := .variableAccess) rfl (List.mem_of_getElem? (i := 0) rfl) name rfl
  · exact .holding (k := .variableAccess) rfl (List.mem_of_getElem? (i := 1) rfl) (base, indices) rfl
  · exact .holding (k := .variableAccess) rfl (List.mem_of_getElem? (i := 2) rfl) (base, field) rfl

theorem statement_written (s : Statement) : NodeWritten (k := .statement) s s.toJson := by
  cases s with
  | assignment step => exact .holding (k := .statement) rfl (List.mem_of_getElem? (i := 0) rfl) step rfl
  | conditional choice => exact .holding (k := .statement) rfl (List.mem_of_getElem? (i := 1) rfl) choice rfl
  | print output => exact .holding (k := .statement) rfl (List.mem_of_getElem? (i := 2) rfl) output rfl
  | loop repeated => exact .holding (k := .statement) rfl (List.mem_of_getElem? (i := 3) rfl) repeated rfl
  | compound body =>
    rw [Statement.toJson, statement_listToJson]
    exact .holding (k := .statement) rfl (List.mem_of_getElem? (i := 4) rfl) body rfl

theorem expression_written (e : Expression) : NodeWritten (k := .expression) e e.toJson := by
  obtain ⟨left, comparison⟩ := e
  rw [Expression.toJson, comparison_toJsonOption]
  exact .record rfl (left, comparison, ()) rfl (.given (.given .nil))

theorem additive_written (e : AdditiveExpression) :
    NodeWritten (k := .additiveExpression) e e.toJson := by
  obtain ⟨first, rest⟩ := e
  rw [AdditiveExpression.toJson, additive_restToJson]
  exact .record rfl (first, rest, ()) rfl (.given (.given .nil))

theorem multiplicative_written (e : MultiplicativeExpression) :
    NodeWritten (k := .multiplicativeExpression) e e.toJson := by
  obtain ⟨first, rest⟩ := e
  rw [MultiplicativeExpression.toJson, multiplicative_restToJson]
  exact .record rfl (first, rest, ()) rfl (.given (.given .nil))

theorem functionDesignator_written (call : FunctionDesignator) :
    NodeWritten (k := .functionDesignator) call call.toJson := by
  obtain ⟨name, args⟩ := call
  rw [FunctionDesignator.toJson, actualParameter_listToJson]
  exact .record rfl (name, args, ()) rfl (.given (.given .nil))

theorem objectInstantiation_written (creation : ObjectInstantiation) :
    NodeWritten (k := .objectInstantiation) creation creation.toJson := by
  obtain ⟨className, args⟩ := creation
  rw [ObjectInstantiation.toJson, actualParameter_listToJson]
  exact .record rfl (className, args, ()) rfl (.given (.given .nil))

theorem actualParameter_written (a : ActualParameter) :
    NodeWritten (k := .actualParameter) a a.toJson := by
  obtain ⟨value, width, precision⟩ := a
  rw [ActualParameter.toJson, expression_toJsonOption, expression_toJsonOption]
  exact .record rfl (value, width, precision, ()) rfl (.given (.given (.given .nil)))

theorem conditional_written (choice : If) : NodeWritten (k := .conditional) choice choice.toJson := by
  obtain ⟨cond, thenBranch, elseBranch⟩ := choice
  rw [If.toJson, statement_toJsonOption]
  exact .record rfl (cond, thenBranch, elseBranch, ()) rfl (.given (.given (.given .nil)))

theorem indexedBody_written (base : VariableAccess) (indices : List Expression) :
    NodeWritten (k := .indexedBody) (base, indices) (toJson .indexedBody (base, indices)) := by
  show NodeWritten _ (.ofFields [("base", _), ("indices", .ofList (Expression.listToJson indices))])
  rw [expression_listToJson]
  exact .record rfl (base, indices, ()) rfl (.given (.given .nil))

/-- **node_written**: every node is written by its layout. Of a span this is so only if it runs forwards,
because no record of this kind makes another. -/
theorem node_written : ∀ (k : Kind) (node : k.Node),
    (∀ span, .span span ∈ leaves k node → span.Ordered) → NodeWritten node (toJson k node)
  | .ident, name, _ => ident_written name
  | .span, span, h => span_written span (h span List.mem_cons_self)
  | .program, p, _ => .record (k := .program) rfl (p.name, p.classes, ()) rfl (.given (.given .nil))
  | .classDecl, c, _ =>
    .record (k := .classDecl) rfl (c.name, c.parent, c.block, ()) rfl (.given (.given (.given .nil)))
  | .classBlock, b, _ =>
    .record (k := .classBlock) rfl (b.fields, b.methods, ()) rfl (.given (.given .nil))
  | .varDecl, g, _ => .record (k := .varDecl) rfl (g.names, g.type, ()) rfl (.given (.given .nil))
  | .typeDenoter, type, _ => typeDenoter_written type
  | .arrayType, ⟨min, max, element⟩, _ =>
    .record (k := .arrayType) rfl (min, max, element, ()) rfl (.given (.given (.given .nil)))
  | .functionDecl, f, _ =>
    .record (k := .functionDecl) rfl (f.name, f.params, f.returnType, f.block, ()) rfl
      (.given (.given (.given (.given .nil))))
  | .functionBlock, b, _ =>
    .record (k := .functionBlock) rfl (b.locals, b.body, ()) rfl (.given (.given .nil))
  | .statement, s, _ => statement_written s
  | .assignment, a, _ =>
    .record (k := .assignment) rfl (a.target, a.value, ()) rfl (.given (.given .nil))
  | .conditional, c, _ => conditional_written c
  | .print, output, _ => .record (k := .print) rfl (output.value, ()) rfl (.given .nil)
  | .loop, ⟨cond, body⟩, _ => .record (k := .loop) rfl (cond, body, ()) rfl (.given (.given .nil))
  | .expression, e, _ => expression_written e
  | .comparison, ⟨op, right⟩, _ =>
    .record (k := .comparison) rfl (op, right, ()) rfl (.given (.given .nil))
  | .relOp, op, _ => relOp_written op
  | .additiveExpression, e, _ => additive_written e
  | .addOp, op, _ => addOp_written op
  | .multiplicativeExpression, e, _ => multiplicative_written e
  | .mulOp, op, _ => mulOp_written op
  | .negatableExpression, e, _ => negatable_written e
  | .sign, sign, _ => sign_written sign
  | .primaryExpression, e, _ => primary_written e
  | .literal, value, _ => literal_written value
  | .variableAccess, path, _ => access_written path
  | .functionDesignator, call, _ => functionDesignator_written call
  | .methodDesignator, ⟨receiver, call⟩, _ =>
    .record (k := .methodDesignator) rfl (receiver, call, ()) rfl (.given (.given .nil))
  | .objectInstantiation, creation, _ => objectInstantiation_written creation
  | .actualParameter, a, _ => actualParameter_written a
  | .signedBody, (sign, inner), _ =>
    .record (k := .signedBody) rfl (sign, inner, ()) rfl (.given (.given .nil))
  | .indexedBody, (base, indices), _ => indexedBody_written base indices
  | .attributeBody, (base, field), _ =>
    .record (k := .attributeBody) rfl (base, field, ()) rfl (.given (.given .nil))

end ScopeTable.Grammar
