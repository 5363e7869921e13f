import JavaSurvey.Java.Vocabulary

set_option autoImplicit false

namespace JavaSurvey.Java

open Grammar

def annotations : JavaRule := .many (ref .atMark)

def qualifiedName : JavaRule :=
  all [anyName,
    .many (.wrap "scoped_identifier" (some "scope") (all [word ".", .field "name" anyName]))]

def dimensions : JavaRule :=
  .node "dimensions" (oneOrMore (all [annotations, word "[", word "]"]))

def typeArguments : JavaRule :=
  let bound := any [all [word "extends", ref .type], all [.leaf "super" (.word "super"), ref .type]]
  let wildcard := .node "wildcard" (all [annotations, word "?", opt bound])
  .node "type_arguments" (all [word "<", opt (listed (any [wildcard, ref .type])), word ">"])

def typeParameters : JavaRule :=
  let bound := .node "type_bound"
    (all [word "extends", ref .type, .many (all [word "&", ref .type])])
  let parameter := .node "type_parameter" (all [annotations, typeName [], opt bound])
  .node "type_parameters" (all [word "<", listed parameter, word ">"])

def primitiveType : JavaRule :=
  any (integralWords.map (fun w => .leaf "integral_type" (.word w)) ++
    floatingWords.map (fun w => .leaf "floating_point_type" (.word w)) ++
    [.leaf "boolean_type" (.word "boolean"), .leaf "void_type" (.word "void")])

def namedType (taken : List String) : JavaRule :=
  let generic := opt (.wrap "generic_type" none (ref .typeArguments))
  all [typeName taken, generic,
    .many (all [.wrap "scoped_type_identifier" none
      (all [word ".", annotations, typeName afterDot]), generic])]

def simpleType (taken : List String) : JavaRule := any [primitiveType, namedType taken]

def plainType (taken : List String) : JavaRule :=
  all [simpleType taken, opt (.wrap "array_type" (some "element") (.field "dimensions" dimensions))]

def anyType (taken : List String) : JavaRule :=
  any [.node "annotated_type" (all [oneOrMore (ref .atMark), plainType primitiveWords]),
    plainType taken]

def atMark : JavaRule :=
  let at_ := all [.butNot (.terminal (.joined ["@", "interface"])), word "@"]
  let pair := .node "element_value_pair"
    (all [.field "key" anyName, word "=", .field "value" (ref .elementValue)])
  let arguments := .node "annotation_argument_list"
    (all [word "(", opt (any [all [listed pair, .ahead (word ")")], ref .elementValue]), word ")"])
  any [.node "annotation" (all [at_, .field "name" qualifiedName, .field "arguments" arguments]),
    .node "marker_annotation" (all [at_, .field "name" qualifiedName])]

def elementValue : JavaRule :=
  any [.node "element_value_array_initializer"
      (braced (all [opt (listed (ref .elementValue)), opt (word ",")])),
    ref .atMark, ref (.expression .operand)]

def modifiers : JavaRule :=
  .node "modifiers" (oneOrMore (any
    [ref .atMark, anyWord modifierWords, .terminal (.joined ["non", "-", "sealed"]),
     word "sealed"]))

end JavaSurvey.Java
