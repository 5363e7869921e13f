import JavaSurvey.Java.Expressions

set_option autoImplicit false

namespace JavaSurvey.Java

open Grammar

def block : JavaRule := .node "block" (braced (.many (ref .statement)))

def declaredName : JavaRule :=
  all [.field "name" anyName, opt (.field "dimensions" dimensions)]

def declarator : JavaRule :=
  .node "variable_declarator"
    (all [declaredName, opt (all [word "=", .field "value" initializer])])

def declarators : JavaRule := listed (.field "declarator" declarator)

def variableList (kind : String) (taken : List String) : JavaRule :=
  .node kind (all [opt (ref .modifiers), .field "type" (plainType taken), declarators, word ";"])

def expressionStatement (o : Opening) : JavaRule :=
  .node "expression_statement" (all [ref (.expression o), word ";"])

def throwStatement : JavaRule :=
  .node "throw_statement" (all [word "throw", ref (.expression .operand), word ";"])

def switchBlock : JavaRule :=
  let arrow := .node "switch_rule" (all [switchLabel, word "->",
    any [ref .block, throwStatement, expressionStatement .operand]])
  let group := .node "switch_block_statement_group"
    (all [oneOrMore (all [switchLabel, word ":"]), .many (ref .statement)])
  any [.node "switch_block" (braced (.many arrow)),
    .node "switch_block" (braced (.many group))]

def body : JavaRule := .field "body" (ref .statement)
def condition : JavaRule := .field "condition" parenthesized

def loops : JavaRule :=
  let start := any [.field "init" (variableList "local_variable_declaration" bracketWords),
    all [opt (listed (.field "init" (ref (.expression .operand)))), word ";"]]
  any
    [.node "while_statement" (all [word "while", condition, body]),
     .node "enhanced_for_statement" (all [word "for", word "(", opt (ref .modifiers),
       .field "type" (plainType bracketWords), declaredName, word ":",
       .field "value" (ref (.expression .operand)), word ")", body]),
     .node "for_statement" (all [word "for", word "(", start,
       opt (.field "condition" (ref (.expression .operand))), word ";",
       opt (listed (.field "update" (ref (.expression .operand)))), word ")", body]),
     .node "do_statement" (all [word "do", body, word "while", condition, word ";"])]

def jumps : JavaRule :=
  any
    [.node "break_statement" (all [word "break", opt anyName, word ";"]),
     .node "continue_statement" (all [word "continue", opt anyName, word ";"]),
     .node "return_statement" (all [word "return", opt (ref (.expression .operand)), word ";"]),
     .node "yield_statement" (all [word "yield", ref (.expression .operand), word ";"]),
     throwStatement]

def tries : JavaRule :=
  let caught := .node "catch_formal_parameter" (all [opt (ref .modifiers),
    .node "catch_type" (all
      [plainType parameterWords, .many (all [word "|", plainType primitiveWords])]),
    declaredName])
  let handler := .node "catch_clause"
    (all [word "catch", word "(", caught, word ")", .field "body" (ref .block)])
  let last := .node "finally_clause" (all [word "finally", ref .block])
  let resource := .node "resource" (any
    [all [opt (ref .modifiers), .field "type" (plainType bracketWords), declaredName, word "=",
       .field "value" (ref (.expression .operand))],
     all [ref (.primary .operand), .onTop ["identifier", "field_access"]]])
  let resources := .node "resource_specification" (all
    [word "(", resource, .many (all [word ";", resource]), opt (word ";"), word ")"])
  any
    [.node "try_with_resources_statement" (all [word "try", .field "resources" resources,
       .field "body" (ref .block), .many handler, opt last]),
     .node "try_statement" (all [word "try", .field "body" (ref .block),
       any [all [oneOrMore handler, opt last], last]])]

def otherStatements : JavaRule :=
  any
    [.node "labeled_statement"
       (all [identifier (Opening.takenType .statement), word ":", ref .statement]),
     .node "if_statement" (all [word "if", condition, .field "consequence" (ref .statement),
       opt (all [word "else", .field "alternative" (ref .statement)])]),
     .node "assert_statement" (all [word "assert", ref (.expression .operand),
       opt (all [word ":", ref (.expression .operand)]), word ";"]),
     .node "synchronized_statement"
       (all [word "synchronized", parenthesized, .field "body" (ref .block)]),
     switchExpression]

end JavaSurvey.Java
