import JavaSurvey.Proofs.CallGraph.Edges
import Mathlib.Data.List.Basic
import Mathlib.Data.List.Induction

set_option autoImplicit false

namespace JavaSurvey.CallGraph

section FirstOccurrences

variable {α : Type} [BEq α] [LawfulBEq α]

theorem nodup_eraseDups (xs : List α) : xs.eraseDups.Nodup := by
  cases xs with
  | nil => simp
  | cons x xs =>
    rw [List.eraseDups_cons]
    exact List.nodup_cons.mpr ⟨by simp, nodup_eraseDups _⟩
termination_by xs.length
decreasing_by
  have hle := List.length_filter_le (fun b => !b == x) xs
  simp only [List.length_cons]
  omega

theorem filter_ne_of_not_mem {xs : List α} {x : α} (h : x ∉ xs) :
    (xs.filter fun b => !b == x) = xs := by
  refine List.filter_eq_self.mpr fun b hb => ?_
  have hne : b ≠ x := fun he => h (he ▸ hb)
  simpa using hne

theorem eraseDups_of_nodup {xs : List α} (h : xs.Nodup) : xs.eraseDups = xs := by
  induction xs with
  | nil => rfl
  | cons x xs ih =>
    rw [List.nodup_cons] at h
    rw [List.eraseDups_cons, filter_ne_of_not_mem h.1, ih h.2]

theorem eraseDups_concat [DecidableEq α] (xs : List α) (x : α) :
    (xs ++ [x]).eraseDups = if x ∈ xs then xs.eraseDups else xs.eraseDups ++ [x] := by
  rw [List.eraseDups_append]
  by_cases hx : x ∈ xs
  · simp [hx, List.removeAll]
  · simp [hx, List.removeAll, List.eraseDups_cons]

theorem eraseDups_replicate_append {x : α} {xs : List α} (h : x ∉ xs) {n : Nat} (hn : n ≠ 0) :
    (List.replicate n x ++ xs).eraseDups = x :: xs.eraseDups := by
  obtain ⟨k, rfl⟩ := Nat.exists_eq_succ_of_ne_zero hn
  rw [List.replicate_succ, List.cons_append, List.eraseDups_cons, List.filter_append,
    filter_ne_of_not_mem h]
  simp

theorem eraseDups_runs {xs : List α} (hn : xs.Nodup) {f : α → Nat} (hf : ∀ x ∈ xs, f x ≠ 0) :
    (xs.flatMap fun x => List.replicate (f x) x).eraseDups = xs := by
  induction xs with
  | nil => rfl
  | cons x xs ih =>
    rw [List.nodup_cons] at hn
    rw [List.forall_mem_cons] at hf
    have hx : x ∉ xs.flatMap fun x => List.replicate (f x) x := by
      simp only [List.mem_flatMap, List.mem_replicate, not_exists, not_and]
      rintro y hy - rfl
      exact hn.1 hy
    rw [List.flatMap_cons, eraseDups_replicate_append hx hf.1, ih hn.2 hf.2]

end FirstOccurrences

theorem callers_addCall (g : CallGraph) (a b : String) :
    (g.addCall a b).callers = if a ∈ g.callers then g.callers else g.callers ++ [a] :=
  CallRow.map_fst_insert a b g.rows

theorem ofCalls_concat (calls : List (String × String)) (c : String × String) :
    ofCalls (calls ++ [c]) = (ofCalls calls).addCall c.1 c.2 := addCalls_append _ _ _

theorem callers_ofCalls (calls : List (String × String)) :
    (ofCalls calls).callers = (calls.map Prod.fst).eraseDups := by
  induction calls using List.reverseRecOn with
  | nil => rfl
  | append_singleton calls c ih =>
    rw [ofCalls_concat, callers_addCall, ih, List.map_append, List.map_singleton, eraseDups_concat]
    simp only [List.mem_eraseDups]

theorem callees_ofCalls (calls : List (String × String)) (a : String) :
    (ofCalls calls).callees a = ((calls.filter (·.1 = a)).map Prod.snd).eraseDups := by
  induction calls using List.reverseRecOn with
  | nil => rfl
  | append_singleton calls c ih =>
    rw [ofCalls_concat, callees_addCall, List.filter_append, List.map_append]
    by_cases hc : c.1 = a
    · subst hc
      have hlast : [c].filter (·.1 = c.1) = [c] := by simp
      rw [hlast, List.map_singleton, eraseDups_concat, ih]
      simp only [List.mem_eraseDups, true_and, ite_not]
    · have hlast : [c].filter (·.1 = a) = [] := by simp [hc]
      have hne : a ≠ c.1 := fun he => hc he.symm
      simp [hlast, hne, ih]

theorem rows_eq (g : CallGraph) : g.rows = g.callers.map fun a => (a, g.callees a) := by
  have hsame : g.rows.map (fun r => (r.1, g.callees r.1)) = g.rows.map id :=
    List.map_congr_left fun r hr => by rw [callees_of_mem_rows hr, id]
  rw [callers, List.map_map]
  exact (hsame.trans (List.map_id _)).symm

theorem eq_of_callers {g h : CallGraph} (hcallers : g.callers = h.callers)
    (hcallees : ∀ a, g.callees a = h.callees a) : g = h := by
  have hrows : g.rows = h.rows := by
    rw [rows_eq, rows_eq, hcallers]
    exact List.map_congr_left fun a _ => by rw [hcallees]
  cases g
  cases h
  simpa using hrows

theorem edges_eq (g : CallGraph) :
    g.edges = g.callers.flatMap fun a => (g.callees a).map fun b => (a, b) := by
  rw [edges, rows_eq, List.flatMap_map]

theorem addCall_of_calls {g : CallGraph} {a b : String} (h : g.Calls a b) : g.addCall a b = g := by
  refine eq_of_callers ?_ fun x => ?_
  · rw [callers_addCall, if_pos (mem_callers_iff.mpr ⟨b, h⟩)]
  · rw [callees_addCall, if_neg (by simp [calls_iff.mp h])]

theorem length_callees_ne_zero {g : CallGraph} {a : String} (h : a ∈ g.callers) :
    (g.callees a).length ≠ 0 := by
  obtain ⟨b, hb⟩ := mem_callers_iff.mp h
  exact Nat.ne_of_gt (List.length_pos_of_mem (calls_iff.mp hb))

theorem callers_of_edges (g : CallGraph) : (g.edges.map Prod.fst).eraseDups = g.callers := by
  have hfst : g.edges.map Prod.fst =
      g.callers.flatMap fun a => List.replicate (g.callees a).length a := by
    rw [edges_eq, List.map_flatMap]
    refine List.flatMap_congr fun a _ => ?_
    rw [List.map_map, ← List.map_const']
    rfl
  have hn : g.callers.Nodup := g.callers_nodup
  rw [hfst, eraseDups_runs hn fun a ha => length_callees_ne_zero ha]

theorem filter_pairs {as : List String} (hn : as.Nodup) (f : String → List String) (a : String) :
    ((as.flatMap fun c => (f c).map fun b => (c, b)).filter (·.1 = a)).map Prod.snd =
      if a ∈ as then f a else [] := by
  induction as with
  | nil => rfl
  | cons c as ih =>
    rw [List.nodup_cons] at hn
    rw [List.flatMap_cons, List.filter_append, List.map_append, ih hn.2]
    by_cases hc : c = a
    · subst hc
      simp [hn.1, List.filter_map, Function.comp_def]
    · have hne : a ≠ c := fun he => hc he.symm
      simp [hc, hne, List.filter_map, Function.comp_def]

theorem edges_of_caller (g : CallGraph) (a : String) :
    (g.edges.filter (·.1 = a)).map Prod.snd = g.callees a := by
  have hn : g.callers.Nodup := g.callers_nodup
  rw [edges_eq, filter_pairs hn]
  split
  · rfl
  · rename_i ha
    exact (callees_of_not_caller ha).symm

theorem ofCalls_edges (g : CallGraph) : ofCalls g.edges = g := by
  refine eq_of_callers ?_ fun a => ?_
  · rw [callers_ofCalls, callers_of_edges]
  · rw [callees_ofCalls, edges_of_caller, eraseDups_of_nodup (nodup_callees g a)]

theorem fresh_eq (seen bs : List String) : fresh seen bs = (bs.filter (· ∉ seen)).eraseDups := by
  induction bs generalizing seen with
  | nil => rfl
  | cons b bs ih =>
    rw [fresh]
    by_cases hb : b ∈ seen
    · simp [hb, ih]
    · rw [if_neg hb, ih, List.filter_cons_of_pos (by simpa using hb), List.eraseDups_cons,
        List.filter_filter]
      congr 2
      refine List.filter_congr fun c _ => ?_
      simp [Bool.beq_eq_decide_eq]

theorem members_eq (g : CallGraph) :
    g.members = g.callers ++
      ((g.edges.flatMap fun e => [e.1, e.2]).filter (· ∉ g.callers)).eraseDups := by
  have hends : (g.edges.flatMap fun e => [e.1, e.2]).filter (· ∉ g.callers) =
      (g.rows.flatMap Prod.snd).filter (· ∉ g.callers) := by
    have hsnd : g.rows.flatMap Prod.snd = g.edges.flatMap fun e => [e.2] := by
      simp [edges, List.flatMap_assoc, List.flatMap_map]
    rw [hsnd, List.filter_flatMap, List.filter_flatMap]
    refine List.flatMap_congr fun e he => ?_
    have hcaller : e.1 ∈ g.callers := mem_callers_iff.mpr ⟨e.2, he⟩
    simp [hcaller]
  rw [members, fresh_eq, hends]

theorem edgeCount_ofCalls (calls : List (String × String)) :
    (ofCalls calls).edgeCount = calls.eraseDups.length := by
  have hperm : (ofCalls calls).edges.Perm calls.eraseDups := by
    refine (List.perm_ext_iff_of_nodup (nodup_edges _) (nodup_eraseDups calls)).mpr fun e => ?_
    rw [List.mem_eraseDups]
    exact calls_ofCalls
  rw [← length_edges, hperm.length_eq]

/-- What a graph built from a list of calls holds, and in which order. -/
structure InFirstUse (g : CallGraph) (calls : List (String × String)) : Prop where
  /-- Caller by caller in the order of first use, and in that order under each. -/
  edges : g.edges = (calls.map Prod.fst).eraseDups.flatMap fun a =>
    ((calls.filter (·.1 = a)).map Prod.snd).eraseDups.map fun b => (a, b)
  edges_nodup : g.edges.Nodup
  mem_edges : ∀ e, e ∈ g.edges ↔ e ∈ calls
  /-- The callers, then the names that are none as the edges meet them. -/
  members : g.members = (calls.map Prod.fst).eraseDups ++
    ((g.edges.flatMap fun e => [e.1, e.2]).filter (· ∉ calls.map Prod.fst)).eraseDups
  members_nodup : g.members.Nodup
  mem_members : ∀ m, m ∈ g.members ↔ ∃ c ∈ calls, m = c.1 ∨ m = c.2
  edgeCount : g.edgeCount = calls.eraseDups.length
  rebuilt : ofCalls g.edges = g
  unchanged : ∀ a b, (a, b) ∈ calls → g.addCall a b = g

/-- The graph of a list of calls has each pair once, in the order of first use; its edges give it back,
and a pair that is there already changes nothing. -/
theorem ofCalls_in_first_use (calls : List (String × String)) :
    (ofCalls calls).InFirstUse calls where
  edges := by
    rw [edges_eq, callers_ofCalls]
    exact List.flatMap_congr fun a _ => by rw [callees_ofCalls]
  edges_nodup := nodup_edges _
  mem_edges := fun _ => calls_ofCalls
  members := by
    rw [members_eq, callers_ofCalls]
    simp only [List.mem_eraseDups]
  members_nodup := nodup_members _
  mem_members := by
    intro m
    simp only [mem_members_iff, calls_ofCalls, Prod.exists]
    grind
  edgeCount := edgeCount_ofCalls calls
  rebuilt := ofCalls_edges _
  unchanged := fun _ _ h => addCall_of_calls (calls_ofCalls.mpr h)

theorem ofCalls_in_first_use_by_turns :
    let calls := [("a", "z"), ("a", "b"), ("b", "y"), ("a", "x"), ("b", "z"), ("a", "z")]
    let g := ofCalls calls
    g.edges = [("a", "z"), ("a", "b"), ("a", "x"), ("b", "y"), ("b", "z")] ∧
      g.members = ["a", "b", "z", "x", "y"] ∧ g.edgeCount = 5 ∧ ("a", "z") ∈ calls ∧
      g.addCall "a" "z" = g := by
  intro calls g
  have hmem : ("a", "z") ∈ calls := by decide
  have h : g.InFirstUse calls := ofCalls_in_first_use calls
  exact ⟨h.edges.trans (by decide), h.members.trans (by decide), h.edgeCount.trans (by decide), hmem,
    h.unchanged "a" "z" hmem⟩

end JavaSurvey.CallGraph
