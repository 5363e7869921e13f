import JavaSurvey.Java.Statements

set_option autoImplicit false

namespace JavaSurvey.Java

open Grammar

def packageDeclaration : JavaRule :=
  .node "package_declaration" (all [annotations, word "package", qualifiedName, word ";"])

def importDeclaration : JavaRule :=
  .node "import_declaration" (all [word "import", opt (word "static"), qualifiedName,
    opt (all [word ".", .leaf "asterisk" (.word "*")]), word ";"])

def moduleDeclaration : JavaRule :=
  let names := listed qualifiedName
  let opened (w : String) (kind : String) : JavaRule :=
    .node kind (all [word w, qualifiedName, opt (all [word "to", names]), word ";"])
  let modifier := .node "requires_modifier" (anyWord ["transitive", "static"])
  let directive := any
    [.node "requires_module_directive"
       (all [word "requires", .many modifier, qualifiedName, word ";"]),
     opened "exports" "exports_module_directive", opened "opens" "opens_module_directive",
     .node "uses_module_directive" (all [word "uses", qualifiedName, word ";"]),
     .node "provides_module_directive"
       (all [word "provides", qualifiedName, word "with", names, word ";"])]
  .node "module_declaration" (all [annotations, opt (word "open"), word "module",
    .field "name" qualifiedName,
    .field "body" (.node "module_body" (braced (.many directive)))])

def typeList : JavaRule := .node "type_list" (listed (ref .type))
def superInterfaces : JavaRule := .node "super_interfaces" (all [word "implements", typeList])
def permits : JavaRule := .node "permits" (all [word "permits", typeList])
def typeHead : JavaRule :=
  all [.field "name" anyName, opt (.field "type_parameters" (ref .typeParameters))]

/-- `taken` are the words that cannot name a type where a parameter begins. -/
def formalParameters (taken : List String) : JavaRule :=
  let receiver := .node "receiver_parameter" (all [annotations, plainType taken,
    .many (all [anyName, word "."]), thisWord])
  let spread := .node "spread_parameter" (all [opt (ref .modifiers), plainType taken,
    annotations, word "...", declarator])
  let plain := .node "formal_parameter"
    (all [opt (ref .modifiers), .field "type" (plainType taken), declaredName])
  let parameters := listed (any [plain, spread])
  .node "formal_parameters" (all [word "(",
    opt (any [all [receiver, opt (all [word ",", opt parameters])], parameters]), word ")"])

def throws : JavaRule := .node "throws" (all [word "throws", listed (ref .type)])

def method (l : Level) : JavaRule :=
  .node "method_declaration" (all [opt (ref .modifiers),
    opt (all [.field "type_parameters" (ref .typeParameters), annotations]),
    .field "type" (plainType l.takenType), .field "name" anyName,
    .field "parameters" (ref .formalParameters), opt (.field "dimensions" dimensions), opt throws,
    any [.field "body" (ref .block), word ";"]])

def constructorBody : JavaRule :=
  let generic := opt (.field "type_arguments" (ref .typeArguments))
  let call := .node "explicit_constructor_invocation" (all
    [any [all [.field "object" (ref (.primary .statement)), word ".", generic,
         .field "constructor" superWord],
       all [generic, .field "constructor" (any [thisWord, superWord])]],
     .field "arguments" (ref .arguments), word ";"])
  .node "constructor_body" (braced (all [opt call, .many (ref .statement)]))

def constructor : JavaRule :=
  .node "constructor_declaration" (all [opt (ref .modifiers),
    opt (.field "type_parameters" (ref .typeParameters)), .field "name" (identifier memberWords),
    .field "parameters" (ref .formalParameters), opt throws, .field "body" constructorBody])

def compactConstructor : JavaRule :=
  .node "compact_constructor_declaration" (all [opt (ref .modifiers),
    .field "name" (identifier memberWords), .field "body" (ref .block)])

def member : JavaRule :=
  any [word ";", ref .block, .node "static_initializer" (all [word "static", ref .block]),
    ref .typeDeclaration, ref (.method .body), constructor, compactConstructor,
    variableList "field_declaration" memberWords]

def classBody : JavaRule := .node "class_body" (braced (.many member))

def interfaceBody : JavaRule :=
  .node "interface_body" (braced (.many (any [word ";", ref .typeDeclaration,
    ref (.method .body), variableList "constant_declaration" memberWords])))

def annotationTypeBody : JavaRule :=
  let element := .node "annotation_type_element_declaration" (all [opt (ref .modifiers),
    .field "type" (plainType memberWords), .field "name" anyName, word "(", word ")",
    opt (.field "dimensions" dimensions),
    opt (all [word "default", .field "value" (ref .elementValue)]), word ";"])
  .node "annotation_type_body" (braced (.many (any [word ";", ref .typeDeclaration,
    element, variableList "constant_declaration" memberWords])))

def enumBody : JavaRule :=
  let constant := .node "enum_constant" (all [opt (ref .modifiers),
    .field "name" (identifier modifierWords), opt (.field "arguments" (ref .arguments)),
    opt (.field "body" (ref .classBody))])
  .node "enum_body" (braced (all [opt (listed constant), opt (word ","),
    opt (.node "enum_body_declarations" (all [word ";", .many member]))]))

def typeDeclaration : JavaRule :=
  let interfaces := opt (.field "interfaces" superInterfaces)
  let permitted := opt (.field "permits" permits)
  any
    [.node "class_declaration" (all [opt (ref .modifiers), word "class", typeHead,
       opt (.field "superclass" (.node "superclass" (all [word "extends", ref .type]))),
       interfaces, permitted, .field "body" (ref .classBody)]),
     .node "interface_declaration" (all [opt (ref .modifiers), word "interface", typeHead,
       opt (.node "extends_interfaces" (all [word "extends", typeList])), permitted,
       .field "body" interfaceBody]),
     .node "enum_declaration" (all [opt (ref .modifiers), word "enum", .field "name" anyName,
       interfaces, .field "body" enumBody]),
     .node "record_declaration" (all [opt (ref .modifiers), word "record", typeHead,
       .field "parameters" (ref .formalParameters), interfaces, .field "body" (ref .classBody)]),
     .node "annotation_type_declaration" (all [opt (ref .modifiers),
       .terminal (.joined ["@", "interface"]), .field "name" anyName,
       .field "body" annotationTypeBody])]

def declaration : JavaRule :=
  any [packageDeclaration, importDeclaration, moduleDeclaration, ref .typeDeclaration]

end JavaSurvey.Java
