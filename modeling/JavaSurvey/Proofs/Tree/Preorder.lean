import JavaSurvey.Tree.Node
import Mathlib.Data.List.Basic
import Mathlib.Data.List.Infix
import Mathlib.Data.List.Nodup

/-!
Trees node by node. Two nodes of a tree may look the same, so a node is told by its place, the child
numbers on the way to it. `occurrences` has every node of a tree with its place, in pre-order. What
lies below a node stands in one piece there, and the walk with a stack goes through the same nodes in
the same order.
-/

set_option autoImplicit false

namespace JavaSurvey

abbrev Place := List Nat

structure Occurrence where
  place : Place
  node : Node

namespace Occurrence

/-- The same node in a tree that has the tree at `p`. -/
def under (p : Place) (o : Occurrence) : Occurrence := ⟨p ++ o.place, o.node⟩

@[simp] theorem place_under (p : Place) (o : Occurrence) : (o.under p).place = p ++ o.place := rfl

@[simp] theorem node_under (p : Place) (o : Occurrence) : (o.under p).node = o.node := rfl

theorem under_nil : under [] = id := rfl

theorem eq_under_singleton {i j : Nat} {p : Place} {m : Node} {o : Occurrence} :
    ⟨i :: p, m⟩ = o.under [j] ↔ i = j ∧ o = ⟨p, m⟩ := by
  obtain ⟨q, n⟩ := o
  simp only [under, List.singleton_append, mk.injEq, List.cons.injEq]
  grind

/-- The order of places: a node comes before what lies below it, and where two places part the lesser
number comes first. -/
def Before (a b : Occurrence) : Prop := List.Lex (· < ·) a.place b.place

theorem not_lex_append (p q : Place) : ¬ List.Lex (· < ·) (p ++ q) p := by
  induction p with
  | nil => intro h; cases h
  | cons i p ih =>
    intro h
    cases h with
    | cons h => exact ih h
    | rel h => exact Nat.lt_irrefl i h

theorem Before.not_above {a b : Occurrence} (h : Before a b) : ¬ b.place <+: a.place := by
  rintro ⟨q, hq⟩
  rw [Before, ← hq] at h
  exact not_lex_append b.place q h

theorem Before.place_ne {a b : Occurrence} (h : Before a b) : a.place ≠ b.place := by
  intro he
  exact h.not_above (by rw [he])

theorem nodup_of_inOrder {os : List Occurrence} (h : os.Pairwise Before) : os.Nodup := by
  refine h.imp fun {a b} hb he => hb.place_ne ?_
  rw [he]

end Occurrence

namespace Node

open Occurrence (Before)

theorem preorderAll_append (xs ys : List Node) :
    preorderAll (xs ++ ys) = preorderAll xs ++ preorderAll ys := by
  induction xs with
  | nil => rfl
  | cons x xs ih => simp [preorderAll, ih]

/-- The stack holds what is still to be gone through, in order. -/
theorem walk_eq_preorderAll (stack : List Node) : walk stack = preorderAll stack := by
  fun_induction walk stack with
  | case1 => rfl
  | case2 rest l cs ih => rw [ih, preorderAll_append, preorderAll, preorder, List.cons_append]

theorem nodes_eq_preorder (n : Node) : n.nodes = n.preorder := by
  rw [nodes, walk_eq_preorderAll, preorderAll, preorderAll, List.append_nil]

def at? (n : Node) : Place → Option Node
  | [] => some n
  | i :: p => n.children[i]?.bind fun c => c.at? p

theorem at?_append (n : Node) (p q : Place) : n.at? (p ++ q) = (n.at? p).bind (·.at? q) := by
  induction p generalizing n with
  | nil => rfl
  | cons i p ih =>
    simp only [List.cons_append, at?, Option.bind_assoc]
    congr 1
    funext c
    exact ih c

mutual

/-- Every node of a tree at its place: the root, then what stands below it, child by child. -/
def occurrences : Node → List Occurrence
  | mk l cs => ⟨[], mk l cs⟩ :: occurrencesFrom 0 cs

def occurrencesFrom (i : Nat) : List Node → List Occurrence
  | [] => []
  | n :: ns => (occurrences n).map (Occurrence.under [i]) ++ occurrencesFrom (i + 1) ns

end

mutual

theorem map_node_occurrences : ∀ n : Node, n.occurrences.map Occurrence.node = n.preorder
  | mk l cs => by rw [occurrences, preorder, List.map_cons, map_node_occurrencesFrom 0 cs]

theorem map_node_occurrencesFrom : ∀ (i : Nat) (ns : List Node),
    (occurrencesFrom i ns).map Occurrence.node = preorderAll ns
  | _, [] => rfl
  | i, n :: ns => by
    have hunder : Occurrence.node ∘ Occurrence.under [i] = Occurrence.node := rfl
    rw [occurrencesFrom, preorderAll, List.map_append, List.map_map, hunder, map_node_occurrences n,
      map_node_occurrencesFrom (i + 1) ns]

end

theorem mem_occurrencesFrom {i : Nat} {ns : List Node} {o : Occurrence} :
    o ∈ occurrencesFrom i ns ↔
      ∃ (j : Nat) (c : Node), ns[j]? = some c ∧ ∃ q ∈ c.occurrences, o = q.under [i + j] := by
  induction ns generalizing i with
  | nil => simp [occurrencesFrom]
  | cons n ns ih =>
    rw [occurrencesFrom, List.mem_append, ih]
    constructor
    · rintro (h | ⟨j, c, hc, q, hq, rfl⟩)
      · obtain ⟨q, hq, rfl⟩ := List.mem_map.mp h
        exact ⟨0, n, rfl, q, hq, rfl⟩
      · exact ⟨j + 1, c, hc, q, hq, by rw [Nat.add_assoc, Nat.add_comm 1 j]⟩
    · rintro ⟨j, c, hc, q, hq, rfl⟩
      cases j with
      | zero =>
        obtain rfl : n = c := Option.some.inj hc
        exact .inl (List.mem_map_of_mem hq)
      | succ j => exact .inr ⟨j, c, hc, q, hq, by rw [Nat.add_assoc, Nat.add_comm 1 j]⟩

theorem mem_occurrences {n : Node} {o : Occurrence} :
    o ∈ n.occurrences ↔ n.at? o.place = some o.node := by
  obtain ⟨p, m⟩ := o
  induction p generalizing n with
  | nil =>
    obtain ⟨l, cs⟩ := n
    simp [occurrences, mem_occurrencesFrom, at?, Occurrence.under, eq_comm]
  | cons i p ih =>
    obtain ⟨l, cs⟩ := n
    rw [occurrences, List.mem_cons, mem_occurrencesFrom, at?, Option.bind_eq_some_iff]
    constructor
    · rintro (h | ⟨j, c, hc, q, hq, he⟩)
      · cases h
      · obtain ⟨rfl, rfl⟩ := Occurrence.eq_under_singleton.mp he
        exact ⟨c, by rwa [Nat.zero_add], ih.mp hq⟩
    · rintro ⟨c, hc, hm⟩
      refine .inr ⟨i, c, hc, ⟨p, m⟩, ih.mpr hm, ?_⟩
      exact Occurrence.eq_under_singleton.mpr ⟨(Nat.zero_add i).symm, rfl⟩

theorem occurrencesFrom_split {i j : Nat} {ns : List Node} {c : Node} (h : ns[j]? = some c) :
    ∃ before after, occurrencesFrom i ns =
        before ++ c.occurrences.map (Occurrence.under [i + j]) ++ after ∧
      ∀ o ∈ before ++ after, ¬ [i + j] <+: o.place := by
  induction ns generalizing i j with
  | nil => cases h
  | cons n ns ih =>
    cases j with
    | zero =>
      obtain rfl : n = c := Option.some.inj h
      refine ⟨[], occurrencesFrom (i + 1) ns, rfl, fun o ho => ?_⟩
      obtain ⟨k, c, -, q, -, rfl⟩ := mem_occurrencesFrom.mp ho
      rw [Occurrence.place_under, List.singleton_append, List.cons_prefix_cons]
      omega
    | succ j =>
      have hj : i + 1 + j = i + (j + 1) := by omega
      obtain ⟨before, after, he, hout⟩ := ih (i := i + 1) h
      rw [hj] at he hout
      refine ⟨n.occurrences.map (Occurrence.under [i]) ++ before, after, ?_, ?_⟩
      · rw [occurrencesFrom, he]
        simp
      · rw [List.append_assoc, List.forall_mem_append, List.forall_mem_map]
        exact ⟨fun o _ => by simp, hout⟩

theorem occurrences_split {n m : Node} {p : Place} (h : n.at? p = some m) :
    ∃ before after, n.occurrences = before ++ m.occurrences.map (Occurrence.under p) ++ after ∧
      ∀ o ∈ before ++ after, ¬ p <+: o.place := by
  induction p generalizing n with
  | nil =>
    obtain rfl : n = m := Option.some.inj h
    exact ⟨[], [], by simp [Occurrence.under_nil], by simp⟩
  | cons i p ih =>
    obtain ⟨l, cs⟩ := n
    obtain ⟨c, hc, hm⟩ := Option.bind_eq_some_iff.mp h
    obtain ⟨before, after, he, hout⟩ := ih hm
    have hchild : cs[i]? = some c := hc
    obtain ⟨before', after', he', hout'⟩ := occurrencesFrom_split (i := 0) hchild
    rw [Nat.zero_add] at he' hout'
    refine ⟨⟨[], mk l cs⟩ :: before' ++ before.map (Occurrence.under [i]),
      after.map (Occurrence.under [i]) ++ after', ?_, fun o ho => ?_⟩
    · have hunder : Occurrence.under (i :: p) = Occurrence.under [i] ∘ Occurrence.under p := rfl
      rw [occurrences, he', he, hunder]
      simp
    · -- outside the child its number is not the first, and inside it the rest of the place decides
      have hother : ∀ o ∈ before' ++ after', ¬ i :: p <+: o.place := fun o ho hp =>
        hout' o ho ((List.prefix_append [i] p).trans hp)
      have hinner : ∀ o ∈ before ++ after, ¬ i :: p <+: (o.under [i]).place := fun o ho hp =>
        hout o ho (by simpa using hp)
      simp only [List.cons_append, List.mem_cons, List.mem_append, List.mem_map] at ho hother hinner
      rcases ho with rfl | (ho | ⟨q, hq, rfl⟩) | ⟨q, hq, rfl⟩ | ho
      · simp
      · exact hother o (.inl ho)
      · exact hinner q (.inl hq)
      · exact hinner q (.inr hq)
      · exact hother o (.inr ho)

theorem preorder_infix {n m : Node} {p : Place} (h : n.at? p = some m) :
    m.preorder <:+: n.preorder := by
  obtain ⟨before, after, he, -⟩ := occurrences_split h
  refine ⟨before.map Occurrence.node, after.map Occurrence.node, ?_⟩
  rw [← map_node_occurrences, ← map_node_occurrences, he]
  simp

theorem filter_occurrences {n m : Node} {p : Place} (h : n.at? p = some m) (f : Node → Bool) :
    (n.occurrences.filter fun o => p <+: o.place ∧ f o.node) =
      (m.occurrences.filter fun o => f o.node).map (Occurrence.under p) := by
  obtain ⟨before, after, he, hout⟩ := occurrences_split h
  rw [List.forall_mem_append] at hout
  have hbefore : before.filter (fun o => p <+: o.place ∧ f o.node) = [] := by
    simpa using fun o ho hp => absurd hp (hout.1 o ho)
  have hafter : after.filter (fun o => p <+: o.place ∧ f o.node) = [] := by
    simpa using fun o ho hp => absurd hp (hout.2 o ho)
  rw [he, List.filter_append, List.filter_append, hbefore, hafter, List.filter_map]
  simp [Function.comp_def]

mutual

theorem pairwise_occurrences : ∀ n : Node, n.occurrences.Pairwise Before
  | mk l cs => by
    rw [occurrences, List.pairwise_cons]
    refine ⟨fun o ho => ?_, pairwise_occurrencesFrom 0 cs⟩
    obtain ⟨j, c, -, q, -, rfl⟩ := mem_occurrencesFrom.mp ho
    exact .nil

theorem pairwise_occurrencesFrom : ∀ (i : Nat) (ns : List Node),
    (occurrencesFrom i ns).Pairwise Before
  | _, [] => .nil
  | i, n :: ns => by
    rw [occurrencesFrom, List.pairwise_append, List.pairwise_map]
    refine ⟨(pairwise_occurrences n).imp fun h => .cons h, pairwise_occurrencesFrom (i + 1) ns,
      fun a ha b hb => ?_⟩
    obtain ⟨q, -, rfl⟩ := List.mem_map.mp ha
    obtain ⟨j, c, -, r, -, rfl⟩ := mem_occurrencesFrom.mp hb
    exact .rel (by omega)

end

/-- `os` are the nodes of the tree with `φ`, each once and in pre-order. -/
structure Lists (root : Node) (φ : Occurrence → Prop) (os : List Occurrence) : Prop where
  inOrder : os.Pairwise Before
  mem_iff : ∀ o, o ∈ os ↔ o ∈ root.occurrences ∧ φ o

theorem lists_filter (root : Node) {f : Occurrence → Bool} {φ : Occurrence → Prop}
    (h : ∀ o, f o = true ↔ φ o) : root.Lists φ (root.occurrences.filter f) where
  inOrder := (pairwise_occurrences root).filter f
  mem_iff := fun o => by rw [List.mem_filter, h]

end Node

namespace Occurrence

def children (o : Occurrence) : List Occurrence :=
  o.node.children.zipIdx.map fun c => ⟨o.place ++ [c.2], c.1⟩

theorem map_node_children (o : Occurrence) : o.children.map node = o.node.children := by
  rw [children, List.map_map]
  exact List.zipIdx_map_fst 0 o.node.children

theorem mem_children {o c : Occurrence} :
    c ∈ o.children ↔ ∃ i, o.node.children[i]? = some c.node ∧ c.place = o.place ++ [i] := by
  obtain ⟨p, m⟩ := c
  simp only [children, List.mem_map, Prod.exists, mk.injEq, List.mem_zipIdx_iff_getElem?]
  grind

theorem pairwise_children (o : Occurrence) : o.children.Pairwise Before := by
  have hnumbers : (o.node.children.zipIdx.map Prod.snd).Pairwise (· < ·) := by
    rw [List.zipIdx_map_snd]
    exact List.pairwise_lt_range'
  rw [children, List.pairwise_map]
  exact (List.pairwise_map.mp hnumbers).imp fun h => List.append_left_lt (.rel h)

theorem mem_occurrences_of_mem_children {root : Node} {o c : Occurrence}
    (ho : o ∈ root.occurrences) (hc : c ∈ o.children) : c ∈ root.occurrences := by
  obtain ⟨i, hi, hp⟩ := mem_children.mp hc
  rw [Node.mem_occurrences] at ho ⊢
  rw [hp, Node.at?_append, ho]
  simpa [Node.at?] using hi

end Occurrence

end JavaSurvey
