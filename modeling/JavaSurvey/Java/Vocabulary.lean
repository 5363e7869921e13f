import JavaSurvey.Grammar.Rule

/-!
Names of the rules of the Java grammar, and the words that cannot be names where they mean something
else. A word is a keyword only at places where the grammar has a use for it; everywhere else it is a
name like any other.
-/

set_option autoImplicit false

namespace JavaSurvey.Java

open Grammar

/-- Where an expression begins. After `case` an arrow ends the label, so that no lambda expression
may stand there bare. -/
inductive Opening where
  | statement | operand | label
  deriving DecidableEq

/-- Where the operands after the first one stand. -/
def Opening.inner : Opening → Opening
  | .label => .label
  | _ => .operand

/-- Where a member stands: at the top level it competes with statements. -/
inductive Level where
  | top | body
  deriving DecidableEq

inductive Symbol where
  | program | statement | block
  | expression (o : Opening) | operand (o : Opening) | primary (o : Opening)
  | type | typeArguments | typeParameters
  | atMark | elementValue | modifiers
  | arguments | arrayInitializer | formalParameters | lambdaParameters
  | switchBlock | recordPattern
  | typeDeclaration | method (l : Level) | localVariables | classBody

abbrev JavaRule := Rule Symbol

def word (s : String) : JavaRule := .terminal (.word s)
def ref (s : Symbol) : JavaRule := .rule s
def opt (a : JavaRule) : JavaRule := .either a .empty
def all (rs : List JavaRule) : JavaRule := rs.foldr .seq .empty

def any : List JavaRule → JavaRule
  | [] => .butNot .empty
  | [a] => a
  | a :: as => .either a (any as)

def oneOrMore (a : JavaRule) : JavaRule := .seq a (.many a)
def listed (a : JavaRule) : JavaRule := .seq a (.many (.seq (word ",") a))
def braced (a : JavaRule) : JavaRule := all [word "\x7b", a, word "\x7d"]
def anyWord (ws : List String) : JavaRule := any (ws.map word)

def identifier (taken : List String) : JavaRule := .terminal (.name taken "identifier")
def typeName (taken : List String) : JavaRule := .terminal (.name taken "type_identifier")
def anyName : JavaRule := identifier []

def integralWords : List String := ["byte", "short", "int", "long", "char"]
def floatingWords : List String := ["float", "double"]
def primitiveWords : List String := integralWords ++ floatingWords ++ ["boolean", "void"]

def modifierWords : List String :=
  ["public", "protected", "private", "abstract", "static", "final", "strictfp", "default",
   "synchronized", "native", "transient", "volatile"]

def operandWords : List String :=
  ["new", "this", "super", "true", "false", "null", "switch", "instanceof"] ++ primitiveWords

/-- Words with a use where a statement begins, besides those of operands. -/
def statementWords : List String :=
  modifierWords ++
  ["class", "interface", "enum", "import", "package", "if", "while", "for", "do", "try", "return",
   "break", "continue", "throw", "assert", "case"]

/-- Words with a use where a statement begins that can still be names in an expression. -/
def softWords : List String := ["open", "module", "record", "with", "sealed", "yield"]

def memberWords : List String :=
  modifierWords ++ primitiveWords ++ ["class", "interface", "enum", "record", "sealed"]

def parameterWords : List String := modifierWords ++ primitiveWords ++ ["sealed"]

def bracketWords : List String := operandWords ++ softWords ++ modifierWords

def Opening.taken : Opening → List String
  | .statement => operandWords ++ statementWords
  | _ => operandWords

def Opening.takenType : Opening → List String
  | .statement => operandWords ++ statementWords ++ softWords
  | _ => operandWords

def Level.takenType : Level → List String
  | .top => Opening.takenType .statement
  | .body => memberWords

def afterDot : List String := ["class", "new", "this", "super"]

end JavaSurvey.Java
