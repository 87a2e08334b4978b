/-
# ScopeTable.Grammar.Encode -- the written form of nodes

Every node has one written form: a record is an object with all its fields in the order of the grammar,
also those that may be left out; a variant without payload is its name. Only the span of an identifier is
left out when it is not known.
-/
import ScopeTable.Grammar.Shape
import ScopeTable.Json.Printer

namespace ScopeTable

open ScopeTable.Json

/-! ## §A Leaves -/

/-- The written form of a span. -/
def Span.toJson (span : Span) : Json :=
  .ofFields [("start", .natural span.start.toUInt64), ("end", .natural span.stop.toUInt64)]

/-- The written form of an identifier. -/
def Ident.toJson (name : Ident) : Json :=
  .ofFields <|
    [("id", .string name.spelling), ("line", .natural name.line)] ++
      match name.span with
      | none => []
      | some span => [("span", span.toJson)]

/-- The written form of a relational operator. -/
def RelOp.toJson : RelOp → Json
  | .eq => .string "eq"
  | .notEq => .string "not_eq"
  | .lt => .string "lt"
  | .gt => .string "gt"
  | .ltEq => .string "lt_eq"
  | .gtEq => .string "gt_eq"

/-- The written form of an operator between terms. -/
def AddOp.toJson : AddOp → Json
  | .plus => .string "plus"
  | .minus => .string "minus"
  | .or => .string "or"

/-- The written form of an operator between factors. -/
def MulOp.toJson : MulOp → Json
  | .times => .string "times"
  | .divide => .string "divide"
  | .div => .string "div"
  | .mod => .string "mod"
  | .and => .string "and"

/-- The written form of a sign. -/
def Sign.toJson : Sign → Json
  | .plus => .string "plus"
  | .minus => .string "minus"

/-- The written form of a literal. -/
def Literal.toJson : Literal → Json
  | .integer n => .single "integer" (.integer n)
  | .real x => .single "real" (.real x)
  | .char c => .single "char" (.character c)
  | .boolean b => .single "boolean" (.boolean b)

/-! ## §B Expressions -/

mutual
/-- The written form of an expression. -/
def Expression.toJson : Expression → Json
  | ⟨left, comparison⟩ =>
    .ofFields
      [("left", AdditiveExpression.toJson left),
        ("comparison", Comparison.toJsonOption comparison)]
/-- The written form of the right side of a comparison. -/
def Comparison.toJson : Comparison → Json
  | ⟨op, right⟩ => .ofFields [("op", op.toJson), ("right", AdditiveExpression.toJson right)]
/-- The written form of a right side that may be missing. -/
def Comparison.toJsonOption : Option Comparison → Json
  | none => .null
  | some c => Comparison.toJson c
/-- The written form of a sum. -/
def AdditiveExpression.toJson : AdditiveExpression → Json
  | ⟨first, rest⟩ =>
    .ofFields
      [("first", MultiplicativeExpression.toJson first),
        ("rest", .ofList (AdditiveExpression.restToJson rest))]
/-- The written forms of the further terms of a sum. -/
def AdditiveExpression.restToJson : List (AddOp × MultiplicativeExpression) → List Json
  | [] => []
  | (op, term) :: rest =>
    .ofList [op.toJson, MultiplicativeExpression.toJson term] ::
      AdditiveExpression.restToJson rest
/-- The written form of a product. -/
def MultiplicativeExpression.toJson : MultiplicativeExpression → Json
  | ⟨first, rest⟩ =>
    .ofFields
      [("first", NegatableExpression.toJson first),
        ("rest", .ofList (MultiplicativeExpression.restToJson rest))]
/-- The written forms of the further factors of a product. -/
def MultiplicativeExpression.restToJson : List (MulOp × NegatableExpression) → List Json
  | [] => []
  | (op, factor) :: rest =>
    .ofList [op.toJson, NegatableExpression.toJson factor] ::
      MultiplicativeExpression.restToJson rest
/-- The written form of an operand. -/
def NegatableExpression.toJson : NegatableExpression → Json
  | .signed sign inner =>
    .single "sign"
      (.ofFields [("sign", sign.toJson), ("inner", NegatableExpression.toJson inner)])
  | .primary operand => .single "primary" (PrimaryExpression.toJson operand)
/-- The written form of an operand without sign. -/
def PrimaryExpression.toJson : PrimaryExpression → Json
  | .access path => .single "variable" (VariableAccess.toJson path)
  | .literal value => .single "literal" value.toJson
  | .function call => .single "function" (FunctionDesignator.toJson call)
  | .method call => .single "method" (MethodDesignator.toJson call)
  | .objectInstantiation creation =>
    .single "object_instantiation" (ObjectInstantiation.toJson creation)
  | .parens inner => .single "parens" (Expression.toJson inner)
  | .not inner => .single "not" (PrimaryExpression.toJson inner)
/-- The written form of a path to a variable. -/
def VariableAccess.toJson : VariableAccess → Json
  | .identifier name => .single "identifier" name.toJson
  | .indexed base indices =>
    .single "indexed"
      (.ofFields
        [("base", VariableAccess.toJson base), ("indices", .ofList (Expression.listToJson indices))])
  | .attribute base field =>
    .single "attribute"
      (.ofFields [("base", VariableAccess.toJson base), ("field", field.toJson)])
/-- The written forms of a list of expressions. -/
def Expression.listToJson : List Expression → List Json
  | [] => []
  | e :: es => Expression.toJson e :: Expression.listToJson es
/-- The written form of a call. -/
def FunctionDesignator.toJson : FunctionDesignator → Json
  | ⟨name, args⟩ =>
    .ofFields [("name", name.toJson), ("args", .ofList (ActualParameter.listToJson args))]
/-- The written form of a method call. -/
def MethodDesignator.toJson : MethodDesignator → Json
  | ⟨receiver, call⟩ =>
    .ofFields
      [("receiver", VariableAccess.toJson receiver), ("call", FunctionDesignator.toJson call)]
/-- The written form of an object creation. -/
def ObjectInstantiation.toJson : ObjectInstantiation → Json
  | ⟨className, args⟩ =>
    .ofFields [("class", className.toJson), ("args", .ofList (ActualParameter.listToJson args))]
/-- The written form of an argument. -/
def ActualParameter.toJson : ActualParameter → Json
  | ⟨value, width, precision⟩ =>
    .ofFields
      [("value", Expression.toJson value), ("width", Expression.toJsonOption width),
        ("precision", Expression.toJsonOption precision)]
/-- The written forms of a list of arguments. -/
def ActualParameter.listToJson : List ActualParameter → List Json
  | [] => []
  | a :: as => ActualParameter.toJson a :: ActualParameter.listToJson as
/-- The written form of an expression that may be missing. -/
def Expression.toJsonOption : Option Expression → Json
  | none => .null
  | some e => Expression.toJson e
end

/-! ## §C Statements -/

/-- The written form of an assignment. -/
def Assignment.toJson (step : Assignment) : Json :=
  .ofFields [("target", step.target.toJson), ("value", step.value.toJson)]

/-- The written form of a print statement. -/
def Print.toJson (output : Print) : Json := .ofFields [("value", output.value.toJson)]

mutual
/-- The written form of a statement. -/
def Statement.toJson : Statement → Json
  | .assignment step => .single "assignment" step.toJson
  | .conditional choice => .single "if" (If.toJson choice)
  | .print output => .single "print" output.toJson
  | .loop repeated => .single "while" (While.toJson repeated)
  | .compound body => .single "compound" (.ofList (Statement.listToJson body))
/-- The written form of a branch. -/
def If.toJson : If → Json
  | ⟨cond, thenBranch, elseBranch⟩ =>
    .ofFields
      [("cond", cond.toJson), ("then_branch", Statement.toJson thenBranch),
        ("else_branch", Statement.toJsonOption elseBranch)]
/-- The written form of a loop. -/
def While.toJson : While → Json
  | ⟨cond, body⟩ => .ofFields [("cond", cond.toJson), ("body", Statement.toJson body)]
/-- The written forms of a list of statements. -/
def Statement.listToJson : List Statement → List Json
  | [] => []
  | s :: ss => Statement.toJson s :: Statement.listToJson ss
/-- The written form of a statement that may be missing. -/
def Statement.toJsonOption : Option Statement → Json
  | none => .null
  | some s => Statement.toJson s
end

/-! ## §D Declarations -/

mutual
/-- The written form of a type. -/
def TypeDenoter.toJson : TypeDenoter → Json
  | .integer => .string "integer"
  | .real => .string "real"
  | .char => .string "char"
  | .boolean => .string "boolean"
  | .named name => .single "class" name.toJson
  | .array type => .single "array" (ArrayType.toJson type)
/-- The written form of an array type. -/
def ArrayType.toJson : ArrayType → Json
  | ⟨min, max, element⟩ =>
    .ofFields
      [("min", .integer min), ("max", .integer max), ("element", TypeDenoter.toJson element)]
end

/-- The written form of a group of names. -/
def VarDecl.toJson (group : VarDecl) : Json :=
  .ofFields [("names", .ofList (group.names.map Ident.toJson)), ("typ", group.type.toJson)]

/-- The written form of the locals and statements of a method. -/
def FunctionBlock.toJson (block : FunctionBlock) : Json :=
  .ofFields
    [("locals", .ofList (block.locals.map VarDecl.toJson)),
      ("body", .ofList (block.body.map Statement.toJson))]

/-- The written form of a method. -/
def FunctionDecl.toJson (method : FunctionDecl) : Json :=
  .ofFields
    [("name", method.name.toJson), ("params", .ofList (method.params.map VarDecl.toJson)),
      ("return_type", method.returnType.toJson), ("block", method.block.toJson)]

/-- The written form of the members of a class. -/
def ClassBlock.toJson (block : ClassBlock) : Json :=
  .ofFields
    [("fields", .ofList (block.fields.map VarDecl.toJson)),
      ("methods", .ofList (block.methods.map FunctionDecl.toJson))]

/-- The written form of a class. -/
def ClassDecl.toJson (decl : ClassDecl) : Json :=
  .ofFields
    [("name", decl.name.toJson), ("parent", .nullable Ident.toJson decl.parent),
      ("block", decl.block.toJson)]

/-- The written form of a program. -/
def Program.toJson (program : Program) : Json :=
  .ofFields
    [("name", program.name.toJson), ("classes", .ofList (program.classes.map ClassDecl.toJson))]

/-! ## §E All kinds -/

namespace Grammar

/-- The written form of a node of any kind. A body is written without the name of its variant. -/
def toJson : (k : Kind) → k.Node → Json
  | .ident => Ident.toJson
  | .span => Span.toJson
  | .program => Program.toJson
  | .classDecl => ClassDecl.toJson
  | .classBlock => ClassBlock.toJson
  | .varDecl => VarDecl.toJson
  | .typeDenoter => TypeDenoter.toJson
  | .arrayType => ArrayType.toJson
  | .functionDecl => FunctionDecl.toJson
  | .functionBlock => FunctionBlock.toJson
  | .statement => Statement.toJson
  | .assignment => Assignment.toJson
  | .conditional => If.toJson
  | .print => Print.toJson
  | .loop => While.toJson
  | .expression => Expression.toJson
  | .comparison => Comparison.toJson
  | .relOp => RelOp.toJson
  | .additiveExpression => AdditiveExpression.toJson
  | .addOp => AddOp.toJson
  | .multiplicativeExpression => MultiplicativeExpression.toJson
  | .mulOp => MulOp.toJson
  | .negatableExpression => NegatableExpression.toJson
  | .sign => Sign.toJson
  | .primaryExpression => PrimaryExpression.toJson
  | .literal => Literal.toJson
  | .variableAccess => VariableAccess.toJson
  | .functionDesignator => FunctionDesignator.toJson
  | .methodDesignator => MethodDesignator.toJson
  | .objectInstantiation => ObjectInstantiation.toJson
  | .actualParameter => ActualParameter.toJson
  | .signedBody => fun (sign, inner) =>
    .ofFields [("sign", Sign.toJson sign), ("inner", NegatableExpression.toJson inner)]
  | .indexedBody => fun (base, indices) =>
    .ofFields
      [("base", VariableAccess.toJson base), ("indices", .ofList (Expression.listToJson indices))]
  | .attributeBody => fun (base, field) =>
    .ofFields [("base", VariableAccess.toJson base), ("field", Ident.toJson field)]

/-- The written text of a node. -/
def encode (k : Kind) (node : k.Node) : String := (toJson k node).render

end Grammar

end ScopeTable
