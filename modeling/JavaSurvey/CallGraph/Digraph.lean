import JavaSurvey.CallGraph.Basic

set_option autoImplicit false

namespace JavaSurvey

structure Digraph where
  /-- Nodes with their flags; one that only an edge has brought in has none. -/
  nodes : List (String × Option Bool)
  successors : List (String × List String)
  deriving Repr, Inhabited

namespace Digraph

def empty : Digraph := ⟨[], []⟩

def put (d : Digraph) (n : String) (flag : Option Bool) : Digraph :=
  ⟨d.nodes ++ [(n, flag)], d.successors ++ [(n, [])]⟩

/-- A node that is there already keeps its place and takes the new flag. -/
def addNode (d : Digraph) (n : String) (caller : Bool) : Digraph :=
  if n ∈ d.nodes.map Prod.fst then
    { d with nodes := d.nodes.map fun p => if p.1 = n then (n, some caller) else p }
  else d.put n (some caller)

def touch (d : Digraph) (n : String) : Digraph :=
  if n ∈ d.nodes.map Prod.fst then d else d.put n none

def addEdge (d : Digraph) (a b : String) : Digraph :=
  let d := (d.touch a).touch b
  { d with successors := d.successors.map fun p =>
      if p.1 = a then (a, if b ∈ p.2 then p.2 else p.2 ++ [b]) else p }

def edges (d : Digraph) : List (String × String) :=
  d.successors.flatMap fun p => p.2.map fun b => (p.1, b)

end Digraph

/-- The digraph after the members and the first `k` calls. -/
def CallGraph.digraphAfter (g : CallGraph) (k : Nat) : Digraph :=
  (g.edges.take k).foldl (fun d e => d.addEdge e.1 e.2)
    (g.members.foldl (fun d m => d.addNode m (m ∈ g.callers)) Digraph.empty)

def CallGraph.toDigraph (g : CallGraph) : Digraph := g.digraphAfter g.edges.length

end JavaSurvey
