import JavaSurvey.Proofs.CallGraph.LongestPath
import JavaSurvey.Proofs.CallGraph.MostCalled

/-!
Graphs with the same calls. Rows and callees may stand in another order, and what depends on the
order is then free to differ: which member is the most called one, or a depth that was cut at a
cycle. Equality, callers, the largest number of callers and, without cycles, the longest chain do
not depend on it.
-/

set_option autoImplicit false

namespace JavaSurvey.CallGraph

def Alike (g h : CallGraph) : Prop := ∀ a b, g.Calls a b ↔ h.Calls a b

namespace Alike

variable {g h : CallGraph}

theorem symm (hc : g.Alike h) : h.Alike g := fun a b => (hc a b).symm

theorem callers_perm (hc : g.Alike h) : g.callers.Perm h.callers := by
  refine (List.perm_ext_iff_of_nodup g.callers_nodup h.callers_nodup).mpr fun a => ?_
  change a ∈ g.callers ↔ a ∈ h.callers
  simp only [mem_callers_iff, hc a]

theorem members_perm (hc : g.Alike h) : g.members.Perm h.members := by
  refine (List.perm_ext_iff_of_nodup (nodup_members g) (nodup_members h)).mpr fun a => ?_
  simp only [mem_members_iff, hc a, fun b => hc b a]

end Alike

theorem Alike.callees_perm {g h : CallGraph} (hc : g.Alike h) (a : String) :
    (g.callees a).Perm (h.callees a) := by
  refine (List.perm_ext_iff_of_nodup (nodup_callees g a) (nodup_callees h a)).mpr fun b => ?_
  rw [← calls_iff, ← calls_iff, hc a b]

theorem lookup_of_mem_callers {g : CallGraph} {a : String} (ha : a ∈ g.callers) :
    g.rows.lookup a = some (g.callees a) := by
  obtain ⟨r, hr, rfl⟩ := List.mem_map.mp ha
  rw [callees_of_mem_rows hr]
  exact lookup_of_mem g.callers_nodup hr

theorem callees_perm_of_same {g h : CallGraph} (hs : g.same h = true) {a : String}
    (ha : a ∈ g.callers) : a ∈ h.callers ∧ (g.callees a).Perm (h.callees a) := by
  simp only [same, Bool.and_eq_true, List.all_eq_true] at hs
  have hr := hs.2 _ (mem_of_lookup (lookup_of_mem_callers ha))
  cases hl : h.rows.lookup a with
  | none => simp [hl] at hr
  | some bs =>
    have hbs : h.callees a = bs := by simp [callees, hl]
    simp only [hl, Bool.and_eq_true, beq_iff_eq, List.all_eq_true, decide_eq_true_eq] at hr
    rw [hbs]
    exact ⟨List.mem_map_of_mem (mem_of_lookup hl),
      ((nodup_callees g a).subperm hr.2).perm_of_length_le (Nat.le_of_eq hr.1.symm)⟩

theorem callers_perm_of_same {g h : CallGraph} (hs : g.same h = true) :
    g.callers.Perm h.callers := by
  have hsub : g.callers ⊆ h.callers := fun a ha => (callees_perm_of_same hs ha).1
  refine (List.Nodup.subperm g.callers_nodup hsub).perm_of_length_le ?_
  simp only [same, Bool.and_eq_true, beq_iff_eq] at hs
  simp [callers, hs.1]

theorem alike_of_same {g h : CallGraph} (hs : g.same h = true) : g.Alike h := by
  intro a b
  rw [calls_iff, calls_iff]
  by_cases ha : a ∈ g.callers
  · exact (callees_perm_of_same hs ha).2.mem_iff
  · have hg : b ∉ g.callees a := fun hb => ha (mem_callers_iff.mpr ⟨b, calls_iff.mpr hb⟩)
    have hh : b ∉ h.callees a := fun hb =>
      ha ((callers_perm_of_same hs).mem_iff.mpr (mem_callers_iff.mpr ⟨b, calls_iff.mpr hb⟩))
    simp [hg, hh]

theorem Alike.same {g h : CallGraph} (hc : g.Alike h) : g.same h = true := by
  have hlength : g.rows.length = h.rows.length := by simpa [callers] using hc.callers_perm.length_eq
  simp only [CallGraph.same, Bool.and_eq_true, beq_iff_eq, List.all_eq_true]
  refine ⟨hlength, fun r hr => ?_⟩
  have hr' : r.1 ∈ h.callers := hc.callers_perm.mem_iff.mp (List.mem_map_of_mem hr)
  have hp := hc.callees_perm r.1
  rw [callees_of_mem_rows hr] at hp
  rw [lookup_of_mem_callers hr']
  simp only [Bool.and_eq_true, beq_iff_eq, List.all_eq_true, decide_eq_true_eq]
  exact ⟨hp.length_eq, fun b hb => hp.mem_iff.mp hb⟩

theorem same_iff_alike {g h : CallGraph} : g.same h = true ↔ g.Alike h :=
  ⟨alike_of_same, Alike.same⟩

theorem Alike.callersOf_perm {g h : CallGraph} (hc : g.Alike h) (m : String) :
    (g.callersOf m).Perm (h.callersOf m) := by
  refine (List.perm_ext_iff_of_nodup (nodup_callersOf g m) (nodup_callersOf h m)).mpr fun a => ?_
  rw [mem_callersOf, mem_callersOf, hc a m]

theorem Alike.edgeCount_eq {g h : CallGraph} (hc : g.Alike h) : g.edgeCount = h.edgeCount := by
  have hperm : g.edges.Perm h.edges :=
    (List.perm_ext_iff_of_nodup (nodup_edges g) (nodup_edges h)).mpr fun e => hc e.1 e.2
  rw [← length_edges, ← length_edges, hperm.length_eq]

theorem Alike.isEmpty_eq {g h : CallGraph} (hc : g.Alike h) : g.isEmpty = h.isEmpty := by
  have hempty : ∀ k : CallGraph, k.isEmpty = k.callers.isEmpty := fun k => by simp [isEmpty, callers]
  rw [hempty, hempty, hc.callers_perm.isEmpty_eq]

theorem alike_ofCalls_iff {calls calls' : List (String × String)} :
    (ofCalls calls).Alike (ofCalls calls') ↔ ∀ c, c ∈ calls ↔ c ∈ calls' := by
  simp only [Alike, calls_ofCalls, Prod.forall]

/-- What can be asked of two graphs without looking at their order. -/
structure Interchangeable (g h : CallGraph) : Prop where
  callees : ∀ m, (g.callees m).Perm (h.callees m)
  callersOf : ∀ m, (g.callersOf m).Perm (h.callersOf m)
  members : g.members.Perm h.members
  edgeCount : g.edgeCount = h.edgeCount
  isEmpty : g.isEmpty = h.isEmpty

/-- Graphs compare equal if they were built from the same set of calls, in whatever order and however
often, and equal graphs answer alike. -/
theorem same_iff_same_calls (calls calls' : List (String × String)) :
    ((ofCalls calls).same (ofCalls calls') = true ↔ ∀ c, c ∈ calls ↔ c ∈ calls') ∧
      ∀ g h : CallGraph, g.same h = true → g.Interchangeable h := by
  refine ⟨same_iff_alike.trans alike_ofCalls_iff, fun g h hs => ?_⟩
  have hc : g.Alike h := same_iff_alike.mp hs
  exact ⟨hc.callees_perm, hc.callersOf_perm, hc.members_perm, hc.edgeCount_eq, hc.isEmpty_eq⟩

theorem same_iff_same_calls_shuffled :
    let g := ofCalls [("a", "b"), ("c", "b"), ("a", "d")]
    let h := ofCalls [("a", "d"), ("c", "b"), ("a", "d"), ("a", "b")]
    g.same h = true ∧ g.Interchangeable h ∧ g.callees "a" = ["b", "d"] ∧ h.callees "a" = ["d", "b"] ∧
      g.same (ofCalls [("a", "b"), ("c", "b")]) = false := by
  intro g h
  have hall := same_iff_same_calls [("a", "b"), ("c", "b"), ("a", "d")]
    [("a", "d"), ("c", "b"), ("a", "d"), ("a", "b")]
  have hs : g.same h = true := hall.1.mpr (by simp; grind)
  exact ⟨hs, hall.2 g h hs, by decide, by decide, by decide⟩

theorem Alike.count_mostCalled {g h : CallGraph} (hc : g.Alike h) :
    (g.mostCalled.map fun m => (g.callersOf m).length) =
      h.mostCalled.map fun m => (h.callersOf m).length := by
  have hcount : ∀ m, (g.callersOf m).length = (h.callersOf m).length :=
    fun m => (hc.callersOf_perm m).length_eq
  rcases mostCalled_cases g with ⟨hg, hgn⟩ | ⟨b, hgb, hb⟩
  · rcases mostCalled_cases h with ⟨-, hhn⟩ | ⟨b', -, hb'⟩
    · rw [hgn, hhn]
      rfl
    · have hmem := hc.members_perm.mem_iff.mpr hb'.mem
      simp [hg] at hmem
  · have hbh : b ∈ h.members := hc.members_perm.mem_iff.mp hb.mem
    rcases mostCalled_cases h with ⟨hh, -⟩ | ⟨b', hhb, hb'⟩
    · simp [hh] at hbh
    · have hle := hb.callers_le (hc.members_perm.mem_iff.mpr hb'.mem)
      have hge := hb'.callers_le hbh
      rw [← hcount b, ← hcount b'] at hge
      rw [hgb, hhb, Option.map_some, Option.map_some, Option.some_inj, ← hcount]
      omega

theorem Alike.maxDepth_le {g h : CallGraph} (hc : g.Alike h) (hac : h.Acyclic) :
    g.maxDepth ≤ h.maxDepth := by
  obtain ⟨path, hlen, hchain, -, -, hhead⟩ := exists_maxDepth_path g
  rw [← hlen]
  refine length_le_maxDepth hac (hchain.imp fun a b => (hc a b).mp) fun m hm => ?_
  exact hc.callers_perm.mem_iff.mp (hhead m hm)

theorem Alike.acyclic {g h : CallGraph} (hc : g.Alike h) (hac : g.Acyclic) : h.Acyclic :=
  fun m hm => hac m (Relation.TransGen.mono (fun a b => (hc a b).mpr) m m hm)

theorem Alike.maxDepth_eq {g h : CallGraph} (hc : g.Alike h) (hac : g.Acyclic) :
    g.maxDepth = h.maxDepth :=
  Nat.le_antisymm (hc.maxDepth_le (hc.acyclic hac)) (hc.symm.maxDepth_le hac)

end JavaSurvey.CallGraph
