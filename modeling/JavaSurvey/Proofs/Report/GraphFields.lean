import JavaSurvey.Proofs.CallGraph.MostCalled
import JavaSurvey.Report.Basic

set_option autoImplicit false

namespace JavaSurvey

namespace Report

/-- The report shows the graph `g`. -/
structure Shows (r : Report) (g : CallGraph) : Prop where
  depth : r.maxCallDepth = g.maxDepth
  most : r.mostCalledMethod = g.mostCalled
  callers : r.mostCalledCallers = g.callersOfMostCalled
  edges : r.callGraphEdges = g.rows.map fun row => (row.1, sortNames row.2)

end Report

theorem Survey.shows_of_report {s : Survey} {v : Given} {r : Report} (h : s.report v = .ok r) :
    r.Shows s.calls := by
  unfold report at h
  cases hover : s.overThreshold v <;> cases hm : s.inventory.averageMethodsPerClass <;>
    cases hl : s.inventory.averageLinesPerMethod <;>
      cases ha : s.inventory.averageAttributesPerClass <;>
        simp [hover, hm, hl, ha, bind, Except.bind, Except.mapError, pure, Except.pure] at h
  subst h
  exact ⟨rfl, rfl, rfl, rfl⟩

namespace Report

def listersOf (r : Report) (m : Option String) : List String :=
  (r.callGraphEdges.filter fun e => m ∈ e.2.map some).map Prod.fst

namespace Shows

variable {r : Report} {g : CallGraph}

theorem keys_eq (h : r.Shows g) : r.callGraphEdges.map Prod.fst = g.callers := by
  rw [h.edges, List.map_map]
  rfl

theorem forall_edges (h : r.Shows g) {p : String × List String → Prop}
    (hp : ∀ row ∈ g.rows, p (row.1, sortNames row.2)) : ∀ e ∈ r.callGraphEdges, p e := by
  rw [h.edges]
  exact List.forall_mem_map.mpr hp

theorem mem_edges_iff (h : r.Shows g) (a c : String) :
    (∃ cs, (a, cs) ∈ r.callGraphEdges ∧ c ∈ cs) ↔ (a, c) ∈ g.edges := by
  constructor
  · rintro ⟨cs, he, hc⟩
    rw [h.edges] at he
    obtain ⟨row, hrow, he⟩ := List.mem_map.mp he
    obtain ⟨rfl, rfl⟩ := Prod.mk.inj he
    refine CallGraph.calls_iff.mpr ?_
    rw [CallGraph.callees_of_mem_rows hrow]
    exact mem_sortNames.mp hc
  · intro hac
    have hc : c ∈ g.callees a := CallGraph.calls_iff.mp hac
    refine ⟨sortNames (g.callees a), ?_, mem_sortNames.mpr hc⟩
    rw [h.edges]
    exact List.mem_map.mpr ⟨_, CallGraph.mem_rows_of_mem_callees hc, rfl⟩

theorem sum_lengths (h : r.Shows g) : (r.callGraphEdges.map fun e => e.2.length).sum = g.edgeCount := by
  rw [h.edges, CallGraph.edgeCount]
  induction g.rows with
  | nil => rfl
  | cons row rows ih => simp only [List.map_cons, List.sum_cons, ih, length_sortNames, List.foldr_cons]

theorem listersOf_some (h : r.Shows g) (m : String) : r.listersOf (some m) = g.callersOf m := by
  rw [listersOf, h.edges, List.filter_map, List.map_map, CallGraph.callersOf]
  simp only [Function.comp_def, List.mem_map_of_injective (Option.some_injective _), mem_sortNames]

theorem edges_eq_nil_iff (h : r.Shows g) : r.callGraphEdges = [] ↔ g.isEmpty = true := by
  rw [h.edges, List.map_eq_nil_iff, CallGraph.isEmpty, List.isEmpty_iff]

theorem mostCalledCallers_eq (h : r.Shows g) :
    r.mostCalledCallers = sortNames (r.listersOf r.mostCalledMethod) := by
  rw [h.callers, CallGraph.callersOfMostCalled]
  cases hm : g.mostCalled with
  | none =>
    have hnil : r.callGraphEdges = [] :=
      h.edges_eq_nil_iff.mpr (CallGraph.mostCalled_eq_none_iff.mp hm)
    rw [h.most, hm, listersOf, hnil, CallGraph.sortedCallersOf]
    exact (sortNames_eq_nil_iff.mpr rfl).symm
  | some m => rw [h.most, hm, h.listersOf_some, CallGraph.sortedCallersOf]

theorem nodup_listersOf (h : r.Shows g) (m : Option String) : (r.listersOf m).Nodup := by
  have hkeys : (r.callGraphEdges.map Prod.fst).Nodup := h.keys_eq ▸ g.callers_nodup
  exact hkeys.sublist (List.filter_sublist.map Prod.fst)

theorem length_listersOf_le (h : r.Shows g) (c : String) :
    (r.listersOf (some c)).length ≤ (r.listersOf r.mostCalledMethod).length := by
  rw [h.listersOf_some]
  by_cases hc : c ∈ g.members
  · -- there is a member, hence a most called one
    obtain ⟨hnil, -⟩ | ⟨m, hm, hfirst⟩ := CallGraph.mostCalled_cases g
    · simp [hnil] at hc
    · rw [h.most, hm, h.listersOf_some]
      exact hfirst.callers_le hc
  · have hnone : g.callersOf c = [] := List.eq_nil_iff_forall_not_mem.mpr fun a ha =>
      hc (CallGraph.mem_members_iff.mpr ⟨a, .inr (CallGraph.mem_callersOf.mp ha)⟩)
    simp [hnone]

end Shows

/-- The report has the calls of `g`, and says of the most called name what they say. -/
structure BearsOut (r : Report) (g : CallGraph) : Prop where
  keys : r.callGraphEdges.map Prod.fst = g.callers
  keys_nodup : (r.callGraphEdges.map Prod.fst).Nodup
  lists_ne_nil : ∀ e ∈ r.callGraphEdges, e.2 ≠ []
  lists_increase : ∀ e ∈ r.callGraphEdges, e.2.Pairwise (· < ·)
  mem_lists : ∀ a c, (∃ cs, (a, cs) ∈ r.callGraphEdges ∧ c ∈ cs) ↔ (a, c) ∈ g.edges
  sum_lengths : (r.callGraphEdges.map fun e => e.2.length).sum = g.edgeCount
  most_eq_none : r.mostCalledMethod = none ↔ r.callGraphEdges = []
  /-- The callers of the most called name are those whose lists it is in, sorted. -/
  callers_perm : r.mostCalledCallers.Perm (r.listersOf r.mostCalledMethod)
  callers_increase : r.mostCalledCallers.Pairwise (· < ·)
  most : ∀ c, (r.listersOf (some c)).length ≤ (r.listersOf r.mostCalledMethod).length

end Report

/-- Whatever is reported of the calls can be read off the copy of the graph in the report. -/
theorem Survey.report_bears_out {s : Survey} {v : Given} {r : Report} (h : s.report v = .ok r) :
    r.BearsOut s.calls := by
  have hr : r.Shows s.calls := shows_of_report h
  refine
    { keys := hr.keys_eq
      keys_nodup := hr.keys_eq ▸ s.calls.callers_nodup
      lists_ne_nil := hr.forall_edges fun row hrow => ?_
      lists_increase := hr.forall_edges fun row hrow => ?_
      mem_lists := hr.mem_edges_iff
      sum_lengths := hr.sum_lengths
      most_eq_none := ?_
      callers_perm := ?_
      callers_increase := ?_
      most := hr.length_listersOf_le }
  · exact mt sortNames_eq_nil_iff.mp (s.calls.callees_ne_nil row hrow)
  · exact pairwise_lt_sortNames (s.calls.callees_nodup row hrow)
  · rw [hr.most, CallGraph.mostCalled_eq_none_iff, hr.edges_eq_nil_iff]
  · rw [hr.mostCalledCallers_eq]
    exact List.mergeSort_perm _ _
  · rw [hr.mostCalledCallers_eq]
    exact pairwise_lt_sortNames (hr.nodup_listersOf _)

theorem Survey.report_bears_out_of_tie :
    let s : Survey := { calls := .ofCalls [("f", "z"), ("f", "f"), ("g", "z"), ("g", "f")] }
    ∃ r, s.report (.whole 2) = .ok r ∧ r.mostCalledMethod = some "f" ∧
      r.listersOf (some "z") = r.listersOf (some "f") ∧ r.BearsOut s.calls := by
  intro s
  obtain ⟨r, hr⟩ : ∃ r, s.report (.whole 2) = .ok r := ⟨_, rfl⟩
  have hshows : r.Shows s.calls := shows_of_report hr
  refine ⟨r, hr, ?_, ?_, report_bears_out hr⟩
  · rw [hshows.most]
    decide
  · rw [hshows.listersOf_some, hshows.listersOf_some]
    decide

end JavaSurvey
