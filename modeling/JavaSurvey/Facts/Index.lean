import JavaSurvey.Facts.Sheet
import JavaSurvey.Tree.Node

/-!
From a syntax tree to its fact sheet: every class and interface anywhere in the tree, the fields and
methods that stand directly in its body, and every call below a method, in the order of the tree.
-/

set_option autoImplicit false

namespace JavaSurvey

def memoryPath : String := "<memory>"

def pathOrMemory (path : String) : String := if path = "" then memoryPath else path

namespace Index

def isTypeDeclaration (n : Node) : Bool :=
  n.kind == "class_declaration" || n.kind == "interface_declaration"

def isFieldDeclaration (n : Node) : Bool :=
  n.kind == "field_declaration" || n.kind == "constant_declaration"

def isMethodDeclaration (n : Node) : Bool := n.kind == "method_declaration"

def isParameter (n : Node) : Bool := n.kind == "formal_parameter" || n.kind == "spread_parameter"

def isPackageName (n : Node) : Bool := n.kind == "identifier" || n.kind == "scoped_identifier"

def isInvocation (n : Node) : Bool := n.kind == "method_invocation"

def textAt? (source : Array UInt8) (n : Node) (f : String) : Option String :=
  (n.child? f).map (Node.text source)

def call (source : Array UInt8) (n : Node) : Call where
  name := (textAt? source n "name").getD "<unknown>"
  receiver := textAt? source n "object"
  line := n.start.row
  col := n.start.col

def calls (source : Array UInt8) (n : Node) : List Call :=
  (n.nodes.filter isInvocation).map (call source)

def paramCount (n : Node) : Nat :=
  match n.child? "parameters" with
  | some ps => ps.namedChildren.countP isParameter
  | none => 0

def method (source : Array UInt8) (n : Node) : Method where
  name := (textAt? source n "name").getD "<anonymous>"
  lineCount := n.rows
  paramCount := paramCount n
  calls := calls source n

/-- Only what stands directly in the body; types in it are found on their own. -/
def members (n : Node) : List Node :=
  match n.child? "body" with
  | some b => b.namedChildren
  | none => []

def typeFacts (source : Array UInt8) (n : Node) : TypeFacts where
  name := (textAt? source n "name").getD "<anonymous>"
  lineCount := n.rows
  fieldCount := (members n).countP isFieldDeclaration
  methods := ((members n).filter isMethodDeclaration).map (method source)

/-- The name in the first package declaration at the top that has one. -/
def package? (source : Array UInt8) (root : Node) : Option String :=
  (root.children.filter (·.kind == "package_declaration")).findSome? fun n =>
    (n.namedChildren.find? isPackageName).map (Node.text source)

def sheet (source : Array UInt8) (root : Node) : Sheet where
  package := package? source root
  types := (root.nodes.filter isTypeDeclaration).map (typeFacts source)

def faultLine (root : Node) : Int :=
  match root.firstFault? with
  | some n => n.start.row + 1
  | none => 1

end Index

def Sheet.ofTree (source : String) (path : String) (root : Node) : Except FileFault Sheet :=
  if root.label.faulty then
    .error ⟨pathOrMemory path, s!"syntax error near line {Index.faultLine root}"⟩
  else .ok (Index.sheet (Utf8.encode source).toArray root)

end JavaSurvey
