import JavaSurvey.Java.Types

/-!
Expressions. Operators are grouped from the left without regard to their rank: what stands before
the dot of a call is always a primary expression, so that rank moves no call.
-/

set_option autoImplicit false

namespace JavaSurvey.Java

open Grammar

def thisWord : JavaRule := .leaf "this" (.word "this")
def superWord : JavaRule := .leaf "super" (.word "super")

def stringLiteral : JavaRule :=
  let fragment (k : TokenKind) : JavaRule := .terminal (.literal k "string_fragment")
  let hole : JavaRule := ref (.expression .operand)
  any [.terminal (.literal .text "string_literal"),
    .node "string_literal" (all [fragment .textStart, hole,
      .many (all [fragment .textMiddle, hole]), fragment .textEnd])]

def literal : JavaRule :=
  any [.terminal (.literal .number "number_literal"), stringLiteral,
    .terminal (.literal .character "character_literal"), .leaf "true" (.word "true"),
    .leaf "false" (.word "false"), .leaf "null_literal" (.word "null")]

def parenthesized : JavaRule :=
  .node "parenthesized_expression" (all [word "(", ref (.expression .operand), word ")"])

def arguments : JavaRule :=
  .node "argument_list" (all [word "(", opt (listed (ref (.expression .operand))), word ")"])

def initializer : JavaRule := any [ref .arrayInitializer, ref (.expression .operand)]

def arrayInitializer : JavaRule :=
  .node "array_initializer" (braced (all [opt (listed initializer), opt (word ",")]))

def newObject : JavaRule :=
  all [word "new", annotations,
    opt (all [.field "type_arguments" (ref .typeArguments), annotations]),
    .field "type" (simpleType primitiveWords), .field "arguments" (ref .arguments),
    opt (ref .classBody)]

def newArray : JavaRule :=
  let sized := .node "dimensions_expr"
    (all [annotations, word "[", ref (.expression .operand), word "]"])
  .node "array_creation_expression" (all [word "new", annotations,
    .field "type" (simpleType primitiveWords),
    any [all [oneOrMore (.field "dimensions" sized), opt (.field "dimensions" dimensions)],
      all [.field "dimensions" dimensions, .field "value" (ref .arrayInitializer)]]])

def referenced : JavaRule := all [word "::", opt (ref .typeArguments), any [word "new", anyName]]

/-- Names of types that are no expressions of their own: before `.class` and `::`. -/
def typeOperand (o : Opening) : JavaRule :=
  all [plainType o.takenType,
    any [.wrap "class_literal" none (all [word ".", word "class"]),
      .wrap "method_reference" none referenced]]

def primaryHead (o : Opening) : JavaRule :=
  any [literal, typeOperand o, thisWord, all [superWord, .ahead (anyWord [".", "::"])], newArray,
    .node "object_creation_expression" newObject, parenthesized,
    all [identifier o.taken,
      opt (.wrap "method_invocation" (some "name") (.field "arguments" (ref .arguments)))]]

def primaryTail : JavaRule :=
  let outer := opt (all [superWord, word "."])
  any
    [.wrap "object_creation_expression" none (all [word ".", newObject]),
     .wrap "method_invocation" (some "object") (all [word ".", outer,
       opt (.field "type_arguments" (ref .typeArguments)), .field "name" (identifier afterDot),
       .field "arguments" (ref .arguments)]),
     .wrap "field_access" (some "object")
       (all [word ".", outer, .field "field" (any [thisWord, identifier afterDot])]),
     .wrap "class_literal" none (all [word ".", word "class"]),
     .wrap "template_expression" none (all [word ".", stringLiteral]),
     .wrap "array_access" (some "array")
       (all [word "[", .field "index" (ref (.expression .operand)), word "]"]),
     .wrap "method_reference" none referenced]

def primary (o : Opening) : JavaRule := all [primaryHead o, .many primaryTail]

def assignmentOperator : JavaRule :=
  any [anyWord ["=", "+=", "-=", "*=", "/=", "&=", "|=", "^=", "%=", "<<="],
    .terminal (.joined [">", ">", "="]), .terminal (.joined [">", ">", ">", "="])]

def binaryOperator : JavaRule :=
  any [anyWord ["==", "!=", "&&", "||", "<=", "<<", "+", "-", "*", "/", "%", "&", "|", "^", "<"],
    .terminal (.joined [">", ">", ">"]), .terminal (.joined [">", ">"]),
    .terminal (.joined [">", "="]), word ">"]

/-- A primary expression, or an assignment to one that can be assigned to. -/
def assignable (o : Opening) : JavaRule :=
  all [ref (.primary o), opt (all [.onTop ["identifier", "field_access", "array_access"],
    .wrap "assignment_expression" (some "left")
      (all [assignmentOperator, .field "right" (ref (.expression o.inner))])])]

def lambda (o : Opening) : JavaRule :=
  let inferred := .node "inferred_parameters" (all [word "(", listed anyName, word ")"])
  .node "lambda_expression" (all
    [.field "parameters" (any [identifier o.taken, inferred, ref .lambdaParameters]), word "->",
     .field "body" (any [ref .block, ref (.expression o.inner)])])

def cast (o : Opening) : JavaRule :=
  .node "cast_expression" (all [word "(", .field "type" (anyType bracketWords),
    .many (all [word "&", .field "type" (ref .type)]), word ")",
    .field "value" (ref (.operand o.inner))])

def signed (o : Opening) : JavaRule :=
  any [.node "unary_expression" (all [anyWord ["+", "-", "!", "~"], ref (.operand o.inner)]),
    .node "update_expression" (all [anyWord ["++", "--"], ref (.operand o.inner)])]

def switchExpression : JavaRule :=
  .node "switch_expression" (all
    [word "switch", .field "condition" parenthesized, .field "body" (ref .switchBlock)])

def operand (o : Opening) : JavaRule :=
  let bare := if o = .label then [] else [lambda o]
  all [any (bare ++ [switchExpression, cast o, signed o, assignable o]),
    .many (.wrap "update_expression" none (anyWord ["++", "--"]))]

def expression (o : Opening) : JavaRule :=
  let binary := .wrap "binary_expression" (some "left")
    (all [binaryOperator, .field "right" (ref (.operand o.inner))])
  let typeTest := .wrap "instanceof_expression" (some "left") (all
    [word "instanceof", opt (word "final"),
     any [.field "pattern" (ref .recordPattern),
       all [.field "right" (ref .type), opt (.field "name" anyName)]]])
  let choice := .wrap "ternary_expression" (some "condition")
    (all [word "?", .field "consequence" (ref (.expression o.inner)), word ":",
      .field "alternative" (ref (.expression o.inner))])
  all [ref (.operand o), .many (any [binary, typeTest]), opt choice]

def recordPattern : JavaRule :=
  let part := .node "record_pattern_component"
    (any [all [plainType softWords, anyName], .leaf "underscore_pattern" (.word "_")])
  let name := all [namedType operandWords, .onTop ["type_identifier", "generic_type"]]
  .node "record_pattern" (all [name, .node "record_pattern_body"
    (all [word "(", opt (listed (any [ref .recordPattern, part])), word ")"])])

def switchLabel : JavaRule :=
  let guard := opt (.node "guard" (all [word "when", ref (.expression .label)]))
  let pattern := .node "pattern" (any [ref .recordPattern,
    .node "type_pattern" (all [plainType operandWords, anyName])])
  .node "switch_label" (any
    [all [word "case", any [all [pattern, guard, .ahead (anyWord [":", "->"])],
      all [listed (ref (.expression .label)), guard]]],
     word "default"])

end JavaSurvey.Java
