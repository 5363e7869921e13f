import JavaSurvey.CallGraph.Basic

/-!
The longest chain of calls. The depth of a name is one more than the greatest depth among its
callees; a callee that is still being computed counts nothing, so that cycles end. Depths are kept
from one starting point to the next, in the order in which they are found.
-/

set_option autoImplicit false

namespace JavaSurvey.CallGraph

/-- Names with their depths, oldest first. -/
abbrev Memo := List (String × Nat)

/-- A name being computed, the callees not yet looked at, and the greatest depth seen so far. -/
structure Frame where
  node : String
  pending : List String
  best : Nat
  deriving DecidableEq, Repr

structure Descent where
  memo : Memo
  visiting : List String
  /-- Innermost frame first. -/
  stack : List Frame
  deriving DecidableEq, Repr

/-- Gives a depth to the frame below. -/
def Frame.raise (d : Nat) (f : Frame) : Frame := { f with best := max f.best d }

def Descent.step (g : CallGraph) (w : Descent) : Descent :=
  match w.stack with
  | [] => w
  | f :: below =>
    match f.pending with
    | [] =>
      let d := f.best + 1
      { memo := w.memo ++ [(f.node, d)]
        visiting := w.visiting.erase f.node
        stack := match below with
          | [] => []
          | p :: rest => p.raise d :: rest }
    | c :: cs =>
      if c ∈ w.visiting then { w with stack := { f with pending := cs } :: below }
      else match w.memo.lookup c with
        | some d => { w with stack := { f with pending := cs, best := max f.best d } :: below }
        | none =>
          { w with
            visiting := c :: w.visiting
            stack := ⟨c, g.callees c, 0⟩ :: { f with pending := cs } :: below }

def Descent.run (g : CallGraph) : Nat → Descent → Descent
  | 0, w => w
  | n + 1, w => if w.stack = [] then w else run g n (w.step g)

/-- Every edge is looked at once, and every frame but the first is opened by an edge and closed
once. -/
def budget (g : CallGraph) : Nat := 2 * g.edgeCount + 1

def start (g : CallGraph) (memo : Memo) (root : String) : Descent :=
  ⟨memo, [root], [⟨root, g.callees root, 0⟩]⟩

def explore (g : CallGraph) (memo : Memo) (root : String) : Memo :=
  match memo.lookup root with
  | some _ => memo
  | none => ((start g memo root).run g g.budget).memo

def depthIn (memo : Memo) (m : String) : Nat := (memo.lookup m).getD 0

/-- The memo after all callers, and the greatest of their depths. -/
def exploreAll (g : CallGraph) : Memo × Nat :=
  g.callers.foldl (fun (memo, best) m =>
    let memo := explore g memo m
    (memo, max best (depthIn memo m))) ([], 0)

def maxDepth (g : CallGraph) : Nat := (exploreAll g).2

end JavaSurvey.CallGraph
