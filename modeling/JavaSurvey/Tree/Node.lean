import JavaSurvey.Text.Utf8

/-!
Syntax trees of source texts. A node knows its kind, its place among its siblings (`field`), its
extent in bytes and in points, and whether it stands for something wrong: `faulty` on a node says
that its subtree has an error, `missing` that the node was put in for a token that is not there.
-/

set_option autoImplicit false

namespace JavaSurvey

/-- A row and a column, both from 0; columns count bytes. -/
structure Point where
  row : Int
  col : Int
  deriving DecidableEq, Repr, Inhabited

structure Extent where
  firstByte : Int
  endByte : Int
  start : Point
  stop : Point
  deriving DecidableEq, Repr, Inhabited

def Extent.rows (e : Extent) : Int := e.stop.row - e.start.row + 1

structure Label where
  kind : String
  extent : Extent
  field : Option String := none
  named : Bool := true
  missing : Bool := false
  faulty : Bool := false
  deriving DecidableEq, Repr, Inhabited

inductive Node where
  | mk (label : Label) (children : List Node)
  deriving Repr, Inhabited

namespace Node

def label : Node → Label
  | mk l _ => l

def children : Node → List Node
  | mk _ cs => cs

def kind (n : Node) : String := n.label.kind
def extent (n : Node) : Extent := n.label.extent
def start (n : Node) : Point := n.label.extent.start
def rows (n : Node) : Int := n.label.extent.rows

def namedChildren (n : Node) : List Node := n.children.filter (·.label.named)

def child? (n : Node) (f : String) : Option Node := n.children.find? (·.label.field = some f)

mutual

def preorder : Node → List Node
  | mk l cs => mk l cs :: preorderAll cs

def preorderAll : List Node → List Node
  | [] => []
  | n :: ns => preorder n ++ preorderAll ns

end

mutual

def size : Node → Nat
  | mk _ cs => sizeAll cs + 1

def sizeAll : List Node → Nat
  | [] => 0
  | n :: ns => size n + sizeAll ns

end

theorem sizeAll_append (xs ys : List Node) : sizeAll (xs ++ ys) = sizeAll xs + sizeAll ys := by
  induction xs with
  | nil => simp [sizeAll]
  | cons x xs ih => simp only [List.cons_append, sizeAll, ih]; omega

/-- The walk with an explicit stack: take the top node, put its children in its place. -/
def walk : List Node → List Node
  | [] => []
  | mk l cs :: rest => mk l cs :: walk (cs ++ rest)
termination_by stack => sizeAll stack
decreasing_by simp only [sizeAll_append, sizeAll, size]; omega

def nodes (n : Node) : List Node := walk [n]

def isFault (n : Node) : Bool := n.kind == "ERROR" || n.label.missing

def firstFault? (n : Node) : Option Node := n.nodes.find? isFault

end Node

/-- Where a byte offset falls in `n` bytes: from the end if negative, and never outside. -/
def clipOffset (n : Nat) (i : Int) : Nat :=
  if i < 0 then (i + n).toNat else min i.toNat n

/-- The text between two byte offsets; empty where they are reversed. -/
def excerpt (source : Array UInt8) (first stop : Int) : String :=
  Utf8.decode (source.extract (clipOffset source.size first) (clipOffset source.size stop)).toList

def Node.text (source : Array UInt8) (n : Node) : String :=
  excerpt source n.extent.firstByte n.extent.endByte

end JavaSurvey
