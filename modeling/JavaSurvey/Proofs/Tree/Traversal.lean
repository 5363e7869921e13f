import JavaSurvey.Proofs.Facts.SourceOrder
import Mathlib.Logic.Function.Iterate

set_option autoImplicit false

namespace JavaSurvey.Node

/-- One turn with a stack that has its top at the end: the top is taken off, and its children are put on,
the last one first. -/
def turn (stack : List Node) : List Node :=
  match stack.getLast? with
  | none => []
  | some n => stack.dropLast ++ n.children.reverse

theorem turn_nil : turn [] = [] := rfl

theorem turn_concat (below : List Node) (n : Node) :
    turn (below ++ [n]) = below ++ n.children.reverse := by
  simp [turn]

theorem walk_cons (n : Node) (rest : List Node) : walk (n :: rest) = n :: walk (n.children ++ rest) := by
  obtain ⟨l, cs⟩ := n
  rw [walk, children]

theorem head?_walk (stack : List Node) : (walk stack).head? = stack.head? := by
  cases stack with
  | nil => rw [walk]
  | cons n rest => rw [walk_cons]; rfl

theorem walk_eq_nil_iff {stack : List Node} : walk stack = [] ↔ stack = [] := by
  rw [← List.head?_eq_none_iff, head?_walk, List.head?_eq_none_iff]

theorem length_walk (stack : List Node) : (walk stack).length = sizeAll stack := by
  fun_induction walk stack with
  | case1 => rfl
  | case2 rest l cs ih =>
    rw [List.length_cons, ih, sizeAll_append, sizeAll, size]
    omega

theorem walk_turn (stack : List Node) : walk (turn stack).reverse = (walk stack.reverse).tail := by
  rcases List.eq_nil_or_concat' stack with rfl | ⟨below, n, rfl⟩
  · rw [turn_nil, List.reverse_nil, walk]
    rfl
  · rw [turn_concat, List.reverse_append, List.reverse_reverse, List.reverse_append,
      List.reverse_singleton, List.singleton_append, walk_cons, List.tail_cons]

theorem walk_iterate_turn (stack : List Node) (k : Nat) :
    walk (turn^[k] stack).reverse = (walk stack.reverse).drop k := by
  induction k with
  | zero => rfl
  | succ k ih => rw [Function.iterate_succ_apply', walk_turn, ih, List.tail_drop]

theorem getLast?_iterate_turn (root : Node) (k : Nat) :
    (turn^[k] [root]).getLast? = root.nodes[k]? := by
  rw [← List.head?_reverse, ← head?_walk, walk_iterate_turn, List.head?_drop]
  rfl

theorem iterate_turn_eq_nil_iff (root : Node) (k : Nat) :
    turn^[k] [root] = [] ↔ root.nodes.length ≤ k := by
  rw [← List.reverse_eq_nil_iff, ← walk_eq_nil_iff, walk_iterate_turn, List.drop_eq_nil_iff]
  rfl

theorem nodes_eq_cons (root : Node) : root.nodes = root :: root.children.flatMap nodes := by
  have hnodes : nodes = preorder := funext nodes_eq_preorder
  obtain ⟨l, cs⟩ := root
  rw [hnodes, preorder_mk, children]

theorem nodes_split {root n : Node} {p : Place} (h : root.at? p = some n) :
    ∃ before after, root.occurrences = before ++ n.occurrences.map (Occurrence.under p) ++ after ∧
      root.nodes = before.map Occurrence.node ++ n.nodes ++ after.map Occurrence.node := by
  obtain ⟨before, after, he, -⟩ := occurrences_split h
  refine ⟨before, after, he, ?_⟩
  rw [nodes_eq_preorder, nodes_eq_preorder, ← map_node_occurrences, ← map_node_occurrences, he]
  simp

theorem nodup_places (root : Node) : (root.occurrences.map Occurrence.place).Nodup :=
  List.pairwise_map.mpr ((pairwise_occurrences root).imp Occurrence.Before.place_ne)

/-- `ns` are the nodes of a tree as a walk from its root goes through them. -/
structure Traversed (root : Node) (ns : List Node) : Prop where
  /-- The stack is empty after one turn for each node, and not before. -/
  ends : ∀ k, turn^[k] [root] = [] ↔ root.size ≤ k
  /-- Each turn meets the node on top of the stack. -/
  met : ∀ k, ns[k]? = (turn^[k] [root]).getLast?
  /-- The root, then what its children give, from left to right. -/
  recursive : ns = root :: root.children.flatMap nodes
  preorder : ns = root.preorder
  /-- Every place of the tree is met once. -/
  occurrences : ns = root.occurrences.map Occurrence.node
  places_nodup : (root.occurrences.map Occurrence.place).Nodup
  mem_occurrences : ∀ p n, ⟨p, n⟩ ∈ root.occurrences ↔ root.at? p = some n
  /-- What a walk from some node goes through stands in one piece, where that node stands. -/
  block : ∀ p n, root.at? p = some n → ∃ before after,
    root.occurrences = before ++ n.occurrences.map (Occurrence.under p) ++ after ∧
      ns = before.map Occurrence.node ++ n.nodes ++ after.map Occurrence.node
  first_fault : ∀ n, root.firstFault? = some n ↔ (n.kind = "ERROR" ∨ n.label.missing = true) ∧
    ∃ before after, ns = before ++ n :: after ∧
      ∀ m ∈ before, ¬ (m.kind = "ERROR" ∨ m.label.missing = true)
  no_fault : root.firstFault? = none ↔ ∀ n ∈ ns, ¬ (n.kind = "ERROR" ∨ n.label.missing = true)

theorem isFault_iff {n : Node} : n.isFault = true ↔ n.kind = "ERROR" ∨ n.label.missing = true := by
  simp [isFault]

/-- The walk over a tree ends, and goes through it in pre-order: every place once, what lies below a node
in one piece, and up to the first fault if that is what is looked for. -/
theorem nodes_traversed (root : Node) : root.Traversed root.nodes where
  ends := fun k => by
    rw [iterate_turn_eq_nil_iff, nodes, length_walk, sizeAll, sizeAll, Nat.add_zero]
  met := fun k => (getLast?_iterate_turn root k).symm
  recursive := nodes_eq_cons root
  preorder := nodes_eq_preorder root
  occurrences := by rw [nodes_eq_preorder, map_node_occurrences]
  places_nodup := nodup_places root
  mem_occurrences := fun _ _ => Node.mem_occurrences
  block := fun _ _ => nodes_split
  first_fault := fun n => by
    simp only [firstFault?_eq_some_iff, FirstFault, nodes_eq_preorder, ← isFault_iff,
      Bool.not_eq_true]
  no_fault := by
    simp only [firstFault?_eq_none_iff, nodes_eq_preorder, ← isFault_iff, Bool.not_eq_true]

end JavaSurvey.Node
