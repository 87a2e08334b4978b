/-
# ScopeTable.Grammar.Layout -- the node grammar

The layout of every kind of node: the names of its fields in order, what may be left out, and the names
of its variants. Reading, writing and the presentations of a tree all go by these tables.
-/
import ScopeTable.Grammar.Shape

namespace ScopeTable.Grammar

/-- A record that takes all values of its fields. -/
def Layout.fields {α : Type} (fields : List Field) (make : Values fields → α) : Layout α :=
  .record fields fun values => .ok (make values)

/-- The layout of the nodes of a kind. -/
def layoutOf : (k : Kind) → Layout k.Node
  | .ident =>
    .fields [.required "id" .text, .required "line" .line, .nullable "span" (.node .span)]
      fun (spelling, line, span, ()) => (⟨spelling, line, span⟩ : Ident)
  | .span =>
    .record [.required "start" .offset, .required "end" .offset]
      fun ((start : UInt32), (stop : UInt32), ()) =>
        if stop < start then .error (.reversedSpan ⟨start, stop⟩) else .ok (⟨start, stop⟩ : Span)
  | .program =>
    .fields [.required "name" (.node .ident), .defaulted "classes" (.list (.node .classDecl)) []]
      fun (name, classes, ()) => (⟨name, classes⟩ : Program)
  | .classDecl =>
    .fields
      [.required "name" (.node .ident), .nullable "parent" (.node .ident),
        .defaulted "block" (.node .classBlock) ClassBlock.empty]
      fun (name, parent, block, ()) => (⟨name, parent, block⟩ : ClassDecl)
  | .classBlock =>
    .fields
      [.defaulted "fields" (.list (.node .varDecl)) [],
        .defaulted "methods" (.list (.node .functionDecl)) []]
      fun (fields, methods, ()) => (⟨fields, methods⟩ : ClassBlock)
  | .varDecl =>
    .fields [.required "names" (.list (.node .ident)), .required "typ" (.node .typeDenoter)]
      fun (names, type, ()) => (⟨names, type⟩ : VarDecl)
  | .typeDenoter =>
    .choice
      [.plain "integer" TypeDenoter.integer, .plain "real" TypeDenoter.real,
        .plain "char" TypeDenoter.char, .plain "boolean" TypeDenoter.boolean,
        .holding "class" (.node .ident) TypeDenoter.named,
        .holding "array" (.node .arrayType) TypeDenoter.array]
  | .arrayType =>
    .fields
      [.required "min" .integer, .required "max" .integer, .required "element" (.node .typeDenoter)]
      fun (min, max, element, ()) => (⟨min, max, element⟩ : ArrayType)
  | .functionDecl =>
    .fields
      [.required "name" (.node .ident), .defaulted "params" (.list (.node .varDecl)) [],
        .required "return_type" (.node .typeDenoter),
        .defaulted "block" (.node .functionBlock) FunctionBlock.empty]
      fun (name, params, returnType, block, ()) =>
        (⟨name, params, returnType, block⟩ : FunctionDecl)
  | .functionBlock =>
    .fields
      [.defaulted "locals" (.list (.node .varDecl)) [], .defaulted "body" (.list (.node .statement)) []]
      fun (locals, body, ()) => (⟨locals, body⟩ : FunctionBlock)
  | .statement =>
    .choice
      [.holding "assignment" (.node .assignment) Statement.assignment,
        .holding "if" (.node .conditional) Statement.conditional,
        .holding "print" (.node .print) Statement.print,
        .holding "while" (.node .loop) Statement.loop,
        .holding "compound" (.list (.node .statement)) Statement.compound]
  | .assignment =>
    .fields [.required "target" (.node .variableAccess), .required "value" (.node .expression)]
      fun (target, value, ()) => (⟨target, value⟩ : Assignment)
  | .conditional =>
    .fields
      [.required "cond" (.node .expression), .required "then_branch" (.node .statement),
        .nullable "else_branch" (.node .statement)]
      fun (cond, thenBranch, elseBranch, ()) => (⟨cond, thenBranch, elseBranch⟩ : If)
  | .print =>
    .fields [.required "value" (.node .expression)] fun (value, ()) => (⟨value⟩ : Print)
  | .loop =>
    .fields [.required "cond" (.node .expression), .required "body" (.node .statement)]
      fun (cond, body, ()) => (⟨cond, body⟩ : While)
  | .expression =>
    .fields [.required "left" (.node .additiveExpression), .nullable "comparison" (.node .comparison)]
      fun (left, comparison, ()) => (⟨left, comparison⟩ : Expression)
  | .comparison =>
    .fields [.required "op" (.node .relOp), .required "right" (.node .additiveExpression)]
      fun (op, right, ()) => (⟨op, right⟩ : Comparison)
  | .relOp =>
    .choice
      [.plain "eq" RelOp.eq, .plain "not_eq" RelOp.notEq, .plain "lt" RelOp.lt, .plain "gt" RelOp.gt,
        .plain "lt_eq" RelOp.ltEq, .plain "gt_eq" RelOp.gtEq]
  | .additiveExpression =>
    .fields
      [.required "first" (.node .multiplicativeExpression),
        .defaulted "rest" (.list (.pair (.node .addOp) (.node .multiplicativeExpression))) []]
      fun (first, rest, ()) => (⟨first, rest⟩ : AdditiveExpression)
  | .addOp => .choice [.plain "plus" AddOp.plus, .plain "minus" AddOp.minus, .plain "or" AddOp.or]
  | .multiplicativeExpression =>
    .fields
      [.required "first" (.node .negatableExpression),
        .defaulted "rest" (.list (.pair (.node .mulOp) (.node .negatableExpression))) []]
      fun (first, rest, ()) => (⟨first, rest⟩ : MultiplicativeExpression)
  | .mulOp =>
    .choice
      [.plain "times" MulOp.times, .plain "divide" MulOp.divide, .plain "div" MulOp.div,
        .plain "mod" MulOp.mod, .plain "and" MulOp.and]
  | .negatableExpression =>
    .choice
      [.holding "sign" (.node .signedBody) fun (sign, inner) => NegatableExpression.signed sign inner,
        .holding "primary" (.node .primaryExpression) NegatableExpression.primary]
  | .sign => .choice [.plain "plus" Sign.plus, .plain "minus" Sign.minus]
  | .primaryExpression =>
    .choice
      [.holding "variable" (.node .variableAccess) PrimaryExpression.access,
        .holding "literal" (.node .literal) PrimaryExpression.literal,
        .holding "function" (.node .functionDesignator) PrimaryExpression.function,
        .holding "method" (.node .methodDesignator) PrimaryExpression.method,
        .holding "object_instantiation" (.node .objectInstantiation)
          PrimaryExpression.objectInstantiation,
        .holding "parens" (.node .expression) PrimaryExpression.parens,
        .holding "not" (.node .primaryExpression) PrimaryExpression.not]
  | .literal =>
    .choice
      [.holding "integer" .integer Literal.integer, .holding "real" .real Literal.real,
        .holding "char" .character Literal.char, .holding "boolean" .boolean Literal.boolean]
  | .variableAccess =>
    .choice
      [.holding "identifier" (.node .ident) VariableAccess.identifier,
        .holding "indexed" (.node .indexedBody)
          fun (base, indices) => VariableAccess.indexed base indices,
        .holding "attribute" (.node .attributeBody)
          fun (base, field) => VariableAccess.attribute base field]
  | .functionDesignator =>
    .fields [.required "name" (.node .ident), .defaulted "args" (.list (.node .actualParameter)) []]
      fun (name, args, ()) => (⟨name, args⟩ : FunctionDesignator)
  | .methodDesignator =>
    .fields
      [.required "receiver" (.node .variableAccess), .required "call" (.node .functionDesignator)]
      fun (receiver, call, ()) => (⟨receiver, call⟩ : MethodDesignator)
  | .objectInstantiation =>
    .fields [.required "class" (.node .ident), .defaulted "args" (.list (.node .actualParameter)) []]
      fun (className, args, ()) => (⟨className, args⟩ : ObjectInstantiation)
  | .actualParameter =>
    .fields
      [.required "value" (.node .expression), .nullable "width" (.node .expression),
        .nullable "precision" (.node .expression)]
      fun (value, width, precision, ()) => (⟨value, width, precision⟩ : ActualParameter)
  | .signedBody =>
    .fields [.required "sign" (.node .sign), .required "inner" (.node .negatableExpression)]
      fun (sign, inner, ()) => (sign, inner)
  | .indexedBody =>
    .fields
      [.required "base" (.node .variableAccess), .required "indices" (.list (.node .expression))]
      fun (base, indices, ()) => (base, indices)
  | .attributeBody =>
    .fields [.required "base" (.node .variableAccess), .required "field" (.node .ident)]
      fun (base, field, ()) => (base, field)

end ScopeTable.Grammar
