import JavaSurvey.Proofs.CallGraph.FirstUse
import Mathlib.Algebra.BigOperators.Group.Finset.Basic
import Mathlib.Algebra.Order.BigOperators.Group.List
import Mathlib.Algebra.Order.Ring.Nat

set_option autoImplicit false

namespace JavaSurvey.CallGraph

theorem length_filter_end (f : String × String → String) (calls : List (String × String))
    (m : String) : (calls.filter (f · = m)).length = (calls.map f).count m := by
  rw [← List.countP_eq_length_filter, List.count_eq_countP, List.countP_map]
  rfl

theorem length_callees (g : CallGraph) (m : String) :
    (g.callees m).length = (g.edges.map Prod.fst).count m := by
  rw [← edges_of_caller, List.length_map, length_filter_end]

theorem callersOf_perm_edges (g : CallGraph) (m : String) :
    (g.callersOf m).Perm ((g.edges.filter (·.2 = m)).map Prod.fst) := by
  -- among the calls of one name the caller tells them apart, so that none is there twice
  have hinj : ∀ e ∈ g.edges.filter (·.2 = m), ∀ f ∈ g.edges.filter (·.2 = m),
      e.1 = f.1 → e = f := by
    intro e he f hf h
    simp only [List.mem_filter, decide_eq_true_eq] at he hf
    exact Prod.ext h (he.2.trans hf.2.symm)
  have hn : ((g.edges.filter (·.2 = m)).map Prod.fst).Nodup :=
    ((nodup_edges g).filter _).map_on hinj
  refine (List.perm_ext_iff_of_nodup (nodup_callersOf g m) hn).mpr fun a => ?_
  simp [mem_callersOf, Calls]

theorem length_callersOf (g : CallGraph) (m : String) :
    (g.callersOf m).length = (g.edges.map Prod.snd).count m := by
  rw [(callersOf_perm_edges g m).length_eq, List.length_map, length_filter_end]

theorem sum_count_members {g : CallGraph} {names : List String} (h : ∀ m ∈ names, m ∈ g.members) :
    (g.members.map fun m => names.count m).sum = names.length := by
  have hcount := Multiset.sum_count_eq_card (s := g.members.toFinset) (m := (names : Multiset String))
    fun m hm => List.mem_toFinset.mpr (h m hm)
  simp only [Multiset.coe_count, Multiset.coe_card] at hcount
  rw [← List.sum_toFinset _ (nodup_members g), hcount]

theorem sum_callees (g : CallGraph) :
    (g.members.map fun m => (g.callees m).length).sum = g.edgeCount := by
  have hends : ∀ m ∈ g.edges.map Prod.fst, m ∈ g.members :=
    List.forall_mem_map.mpr fun e he => mem_members_iff.mpr ⟨e.2, .inl he⟩
  simp only [length_callees]
  rw [sum_count_members hends, List.length_map, length_edges]

theorem sum_callersOf (g : CallGraph) :
    (g.members.map fun m => (g.callersOf m).length).sum = g.edgeCount := by
  have hends : ∀ m ∈ g.edges.map Prod.snd, m ∈ g.members :=
    List.forall_mem_map.mpr fun e he => mem_members_iff.mpr ⟨e.1, .inr he⟩
  simp only [length_callersOf]
  rw [sum_count_members hends, List.length_map, length_edges]

theorem edgeCount_le {g : CallGraph} {n : Nat} (h : ∀ m ∈ g.members, (g.callersOf m).length ≤ n) :
    g.edgeCount ≤ n * g.members.length := by
  have hsum : (g.members.map fun m => (g.callersOf m).length).sum ≤ g.members.length * n := by
    simpa using List.sum_le_card_nsmul (g.members.map fun m => (g.callersOf m).length) n
      (List.forall_mem_map.mpr h)
  rwa [sum_callersOf, Nat.mul_comm] at hsum

/-- The calls that a graph was built from, read off callees and off callers. Neither has a name twice,
so that their lengths are numbers of names. -/
structure FromBothEnds (g : CallGraph) (calls : List (String × String)) : Prop where
  mem_callees : ∀ a b, b ∈ g.callees a ↔ (a, b) ∈ calls
  mem_callersOf : ∀ a b, a ∈ g.callersOf b ↔ (a, b) ∈ calls
  callees_nodup : ∀ m, (g.callees m).Nodup
  callersOf_nodup : ∀ m, (g.callersOf m).Nodup
  members_nodup : g.members.Nodup
  sum_callees : (g.members.map fun m => (g.callees m).length).sum = g.edgeCount
  sum_callersOf : (g.members.map fun m => (g.callersOf m).length).sum = g.edgeCount
  length_edges : g.edges.length = g.edgeCount

theorem ofCalls_from_both_ends (calls : List (String × String)) :
    (ofCalls calls).FromBothEnds calls where
  mem_callees := fun a b => by rw [← calls_iff, calls_ofCalls]
  mem_callersOf := fun a b => by rw [CallGraph.mem_callersOf, calls_ofCalls]
  callees_nodup := nodup_callees _
  callersOf_nodup := nodup_callersOf _
  members_nodup := nodup_members _
  sum_callees := CallGraph.sum_callees _
  sum_callersOf := CallGraph.sum_callersOf _
  length_edges := CallGraph.length_edges _

end JavaSurvey.CallGraph
