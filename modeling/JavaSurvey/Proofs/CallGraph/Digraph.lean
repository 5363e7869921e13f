import JavaSurvey.CallGraph.Digraph
import JavaSurvey.Proofs.CallGraph.FirstUse

/-!
The digraph of a call graph. It is filled in two rounds, with the members as nodes and then with the
calls as edges. Every call finds both its ends among the nodes, so that the second round puts in no node
and leaves the flags as they are; after each call the successors are the callees in the graph of the
calls so far.
-/

set_option autoImplicit false

namespace JavaSurvey

namespace Digraph

def names (d : Digraph) : List String := d.nodes.map Prod.fst

theorem addNode_of_not_mem {d : Digraph} {n : String} (h : n ∉ d.names) (caller : Bool) :
    d.addNode n caller = d.put n (some caller) := if_neg h

theorem touch_of_mem {d : Digraph} {n : String} (h : n ∈ d.names) : d.touch n = d := if_pos h

theorem foldl_addNode (flag : String → Bool) {ms : List String} (hms : ms.Nodup) {d : Digraph}
    (hd : ∀ m ∈ ms, m ∉ d.names) :
    ms.foldl (fun d m => d.addNode m (flag m)) d =
      ⟨d.nodes ++ ms.map fun m => (m, some (flag m)), d.successors ++ ms.map fun m => (m, [])⟩ := by
  induction ms generalizing d with
  | nil => simp
  | cons m ms ih =>
    rw [List.nodup_cons] at hms
    rw [List.forall_mem_cons] at hd
    have hnew : ∀ n ∈ ms, n ∉ (d.addNode m (flag m)).names := by
      intro n hn
      have hne : n ≠ m := fun he => hms.1 (he ▸ hn)
      rw [addNode_of_not_mem hd.1, names, put, List.map_append, List.mem_append, not_or]
      exact ⟨hd.2 n hn, by simpa using hne⟩
    rw [List.foldl_cons, ih hms.2 hnew, addNode_of_not_mem hd.1]
    simp [put]

/-- The nodes `ms` with their flags, each with its callees in `g` as successors. -/
def ofCallees (ms : List String) (flag : String → Bool) (g : CallGraph) : Digraph :=
  ⟨ms.map fun m => (m, some (flag m)), ms.map fun m => (m, g.callees m)⟩

section OfCallees

variable {ms : List String} {flag : String → Bool} {g : CallGraph}

theorem names_ofCallees (ms : List String) (flag : String → Bool) (g : CallGraph) :
    (ofCallees ms flag g).names = ms := by
  rw [names, ofCallees, List.map_map]
  exact List.map_id ms

theorem addEdge_ofCallees {a b : String} (ha : a ∈ ms) (hb : b ∈ ms) :
    (ofCallees ms flag g).addEdge a b = ofCallees ms flag (g.addCall a b) := by
  rw [← names_ofCallees ms flag g] at ha hb
  simp only [addEdge, touch_of_mem ha, touch_of_mem hb]
  simp only [ofCallees, List.map_map]
  congr 1
  refine List.map_congr_left fun m _ => ?_
  simp only [Function.comp, CallGraph.callees_addCall]
  by_cases hm : m = a
  · subst hm
    by_cases hbm : b ∈ g.callees m <;> simp [hbm]
  · simp [hm]

theorem foldl_addEdge_ofCallees {calls : List (String × String)} (h : ∀ e ∈ calls, e.1 ∈ ms ∧ e.2 ∈ ms) :
    calls.foldl (fun d e => d.addEdge e.1 e.2) (ofCallees ms flag g) =
      ofCallees ms flag (g.addCalls calls) := by
  induction calls generalizing g with
  | nil => rfl
  | cons e calls ih =>
    rw [List.forall_mem_cons] at h
    rw [List.foldl_cons, addEdge_ofCallees h.1.1 h.1.2, ih h.2]
    rfl

end OfCallees

/-- The digraph `d` has the members of `g` as its nodes, each flagged as a caller or as none, and the
calls of `g` as its edges, both in their order. -/
structure Depicts (d : Digraph) (g : CallGraph) : Prop where
  nodes : d.nodes.map Prod.fst = g.members
  nodes_nodup : (d.nodes.map Prod.fst).Nodup
  flags : ∀ m flag, (m, flag) ∈ d.nodes →
    ∃ caller, flag = some caller ∧ (caller = true ↔ g.callees m ≠ [])
  sources : d.successors.map Prod.fst = d.nodes.map Prod.fst
  edges : d.edges = g.edges
  rebuilt : CallGraph.ofCalls d.edges = g

end Digraph

namespace CallGraph

open JavaSurvey.Digraph

theorem ends_mem_members {g : CallGraph} : ∀ e ∈ g.edges, e.1 ∈ g.members ∧ e.2 ∈ g.members :=
  fun e he => ⟨mem_members_iff.mpr ⟨e.2, .inl he⟩, mem_members_iff.mpr ⟨e.1, .inr he⟩⟩

theorem digraphAfter_eq (g : CallGraph) (k : Nat) :
    g.digraphAfter k = ofCallees g.members (· ∈ g.callers) (ofCalls (g.edges.take k)) := by
  have hnodes : g.members.foldl (fun d m => d.addNode m (m ∈ g.callers)) Digraph.empty =
      ofCallees g.members (· ∈ g.callers) empty :=
    foldl_addNode (· ∈ g.callers) (nodup_members g) (by simp [names, Digraph.empty])
  rw [digraphAfter, hnodes, ofCalls]
  exact foldl_addEdge_ofCallees fun e he => ends_mem_members e (List.mem_of_mem_take he)

theorem toDigraph_eq (g : CallGraph) : g.toDigraph = ofCallees g.members (· ∈ g.callers) g := by
  rw [toDigraph, digraphAfter_eq, List.take_length, ofCalls_edges]

theorem edges_ofCallees (g : CallGraph) (flag : String → Bool) :
    (ofCallees g.members flag g).edges = g.edges := by
  have hothers : (fresh g.callers (g.rows.flatMap Prod.snd)).flatMap
      (fun m => (g.callees m).map fun b => (m, b)) = [] := by
    refine List.flatMap_eq_nil_iff.mpr fun m hm => ?_
    rw [callees_of_not_caller (mem_fresh.mp hm).2, List.map_nil]
  rw [Digraph.edges, ofCallees, List.flatMap_map, members, List.flatMap_append, hothers,
    List.append_nil, edges_eq]

theorem mem_callers_iff_callees {g : CallGraph} {m : String} :
    m ∈ g.callers ↔ g.callees m ≠ [] := by
  constructor
  · intro hm hnil
    exact length_callees_ne_zero hm (List.length_eq_zero_iff.mpr hnil)
  · exact fun hne => Decidable.by_contra fun hm => hne (callees_of_not_caller hm)

/-- The digraph of a graph depicts it, and has its nodes and their flags before the first edge. -/
theorem toDigraph_depicts (g : CallGraph) :
    g.toDigraph.Depicts g ∧ g.toDigraph = g.digraphAfter g.edges.length ∧
      ∀ k, (g.digraphAfter k).nodes = g.toDigraph.nodes := by
  have hnames : g.toDigraph.nodes.map Prod.fst = g.members := by
    rw [toDigraph_eq]
    exact names_ofCallees _ _ _
  have hedges : g.toDigraph.edges = g.edges := by
    rw [toDigraph_eq, edges_ofCallees]
  refine ⟨⟨hnames, hnames ▸ nodup_members g, ?_, ?_, hedges, ?_⟩, rfl, fun k => ?_⟩
  · intro m flag hm
    rw [toDigraph_eq] at hm
    obtain ⟨n, -, he⟩ := List.mem_map.mp hm
    obtain ⟨rfl, rfl⟩ := Prod.mk.inj he
    exact ⟨_, rfl, by rw [decide_eq_true_iff, mem_callers_iff_callees]⟩
  · rw [hnames, toDigraph_eq, ofCallees, List.map_map]
    exact List.map_id _
  · rw [hedges, ofCalls_edges]
  · rw [digraphAfter_eq, toDigraph_eq]
    rfl

end CallGraph

end JavaSurvey
