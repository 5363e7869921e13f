import JavaSurvey.Proofs.CallGraph.MaxDepth

/-!
Depths by recursion. A name that has a depth keeps it. Any other one joins the names being computed
while its callees are gone through in their order; a callee among those names counts nothing, and the
name gets one more than the greatest depth it met. The search with frames does the same: between a
frame that has a callee to look at and the same frame after it lies the recursive call for that callee,
whatever frames lie below.
-/

set_option autoImplicit false

namespace JavaSurvey.CallGraph

open Descent

def idleCallers (g : CallGraph) (visiting : List String) : List String :=
  g.callers.filter (· ∉ visiting)

theorem idleCallers_cons (g : CallGraph) (m : String) (visiting : List String) :
    g.idleCallers (m :: visiting) = (g.idleCallers visiting).filter (· ≠ m) := by
  simp only [idleCallers, List.filter_filter]
  refine List.filter_congr fun a _ => ?_
  simp

theorem idleCallers_cons_lt {g : CallGraph} {m : String} {visiting : List String}
    (hm : m ∈ g.callers) (hv : m ∉ visiting) :
    (g.idleCallers (m :: visiting)).length < (g.idleCallers visiting).length := by
  rw [idleCallers_cons, List.length_filter_lt_length_iff_exists]
  exact ⟨m, by simp [idleCallers, hm, hv], by simp⟩

theorem idleCallers_cons_of_not_caller {g : CallGraph} {m : String} (hm : m ∉ g.callers)
    (visiting : List String) : g.idleCallers (m :: visiting) = g.idleCallers visiting := by
  rw [idleCallers_cons, List.filter_eq_self]
  intro a ha
  have hne : a ≠ m := fun he => hm (he ▸ (List.mem_filter.mp ha).1)
  simpa using hne

mutual

/-- The depth of `m` while `visiting` are being computed, and the memo after it. -/
def depthFrom (g : CallGraph) (visiting : List String) (memo : Memo) (m : String)
    (_ : m ∉ visiting) : Nat × Memo :=
  match memo.lookup m with
  | some d => (d, memo)
  | none =>
    let r := deepest g (m :: visiting) memo (g.callees m)
    (r.1 + 1, r.2 ++ [(m, r.1 + 1)])
termination_by ((g.idleCallers visiting).length, 1)
decreasing_by
  -- a name that calls nothing leaves the idle callers as they are, but opens no further call
  by_cases hm : m ∈ g.callers
  · exact Prod.Lex.left _ _ (idleCallers_cons_lt hm ‹m ∉ visiting›)
  · rw [idleCallers_cons_of_not_caller hm, callees_of_not_caller hm]
    exact Prod.Lex.right _ (by simp)

/-- The greatest depth among some callees, gone through one by one, and the memo after them. -/
def deepest (g : CallGraph) (visiting : List String) (memo : Memo) : List String → Nat × Memo
  | [] => (0, memo)
  | c :: cs =>
    let first := if busy : c ∈ visiting then (0, memo) else depthFrom g visiting memo c busy
    let rest := deepest g visiting first.2 cs
    (max first.1 rest.1, rest.2)
termination_by cs => ((g.idleCallers visiting).length, 2 * cs.length)

end

/-- `memo'` is `memo` with depths for new names behind it, none of them in `visiting`. -/
def Adds (visiting : List String) (memo memo' : Memo) : Prop :=
  ∃ more, memo' = memo ++ more ∧ (finished more).Nodup ∧
    ∀ m ∈ finished more, m ∉ finished memo ∧ m ∉ visiting

namespace Adds

variable {visiting : List String} {memo memo' memo'' : Memo}

theorem refl (visiting : List String) (memo : Memo) : Adds visiting memo memo :=
  ⟨[], by simp, by simp, by simp⟩

theorem trans (h : Adds visiting memo memo') (h' : Adds visiting memo' memo'') :
    Adds visiting memo memo'' := by
  obtain ⟨more, rfl, hn, hm⟩ := h
  obtain ⟨more', rfl, hn', hm'⟩ := h'
  simp only [finished_append, List.mem_append, not_or] at hm'
  refine ⟨more ++ more', by simp, ?_, ?_⟩
  · rw [finished_append]
    refine List.nodup_append.mpr ⟨hn, hn', fun a ha b hb he => ?_⟩
    exact (hm' b hb).1.2 (he ▸ ha)
  · intro m h
    rw [finished_append, List.mem_append] at h
    rcases h with h | h
    · exact hm m h
    · exact ⟨(hm' m h).1.1, (hm' m h).2⟩

theorem not_finished {m : String} (h : Adds (m :: visiting) memo memo') (hm : m ∉ finished memo) :
    m ∉ finished memo' := by
  obtain ⟨more, rfl, -, hnew⟩ := h
  rw [finished_append, List.mem_append, not_or]
  exact ⟨hm, fun h => (hnew m h).2 (by simp)⟩

theorem close {m : String} (h : Adds (m :: visiting) memo memo') (hm : m ∉ finished memo)
    (hv : m ∉ visiting) (d : Nat) : Adds visiting memo (memo' ++ [(m, d)]) := by
  have hm' : m ∉ finished memo' := h.not_finished hm
  obtain ⟨more, rfl, hn, hnew⟩ := h
  simp only [finished_append, List.mem_append, not_or] at hm'
  refine ⟨more ++ [(m, d)], by simp, ?_, fun a ha => ?_⟩
  · rw [finished_append, finished_singleton]
    exact List.nodup_append.mpr ⟨hn, by simp, by grind⟩
  · rw [mem_finished_snoc] at ha
    rcases ha with ha | rfl
    · exact ⟨(hnew a ha).1, fun hav => (hnew a ha).2 (by simp [hav])⟩
    · exact ⟨hm, hv⟩

end Adds

variable {g : CallGraph}

theorem depthFrom_of_lookup {visiting : List String} {memo : Memo} {m : String}
    (idle : m ∉ visiting) {d : Nat} (h : memo.lookup m = some d) :
    depthFrom g visiting memo m idle = (d, memo) := by
  rw [depthFrom]
  simp [h]

theorem depthFrom_of_not_finished {visiting : List String} {memo : Memo} {m : String}
    (idle : m ∉ visiting) (h : memo.lookup m = none) :
    let r := deepest g (m :: visiting) memo (g.callees m)
    depthFrom g visiting memo m idle = (r.1 + 1, r.2 ++ [(m, r.1 + 1)]) := by
  rw [depthFrom]
  simp [h]

theorem recursion_adds (g : CallGraph) :
    (∀ visiting memo m idle, Adds visiting memo (depthFrom g visiting memo m idle).2) ∧
      ∀ visiting memo cs, Adds visiting memo (deepest g visiting memo cs).2 := by
  refine depthFrom.mutual_induct g _ _ ?_ ?_ ?_ ?_
  · intro visiting memo m idle d known
    rw [depthFrom_of_lookup idle known]
    exact .refl visiting memo
  · intro visiting memo m idle unknown ih
    rw [depthFrom_of_not_finished idle unknown]
    exact ih.close (lookup_eq_none_iff_finished.mp unknown) idle _
  · intro visiting memo
    rw [deepest]
    exact .refl visiting memo
  · intro visiting memo c cs first ihc ihcs
    have hfirst : Adds visiting memo first.2 := by
      by_cases hc : c ∈ visiting
      · simp only [first, hc, ↓reduceDIte]
        exact .refl visiting memo
      · simp only [first, hc, ↓reduceDIte]
        exact ihc hc
    rw [deepest]
    exact hfirst.trans ihcs

theorem lookup_depthFrom (visiting : List String) (memo : Memo) (m : String) (idle : m ∉ visiting) :
    (depthFrom g visiting memo m idle).2.lookup m = some (depthFrom g visiting memo m idle).1 := by
  cases h : memo.lookup m with
  | some d => rwa [depthFrom_of_lookup idle h]
  | none =>
    have hm := ((recursion_adds g).2 (m :: visiting) memo (g.callees m)).not_finished
      (lookup_eq_none_iff_finished.mp h)
    rw [depthFrom_of_not_finished idle h, List.lookup_append, lookup_eq_none_iff_finished.mpr hm]
    simp

namespace Descent

def Moves (g : CallGraph) : Descent → Descent → Prop := Relation.ReflTransGen (Move g)

theorem Move.step_eq {w w' : Descent} (hm : Move g w w') : w.stack ≠ [] ∧ w.step g = w' := by
  cases hm with
  | @close memo visiting u best below => cases below <;> exact ⟨by simp, rfl⟩
  | skip busy => exact ⟨by simp, by simp [step, busy]⟩
  | reuse idle known => exact ⟨by simp, by simp [step, idle, known]⟩
  | enter idle unknown => exact ⟨by simp, by simp [step, idle, unknown]⟩

theorem Moves.run_eq {w w' : Descent} (h : Moves g w w') (hend : w'.stack = []) {n : Nat}
    (hrun : (w.run g n).stack = []) : w.run g n = w' := by
  induction n generalizing w with
  | zero =>
    rcases Relation.ReflTransGen.cases_head h with rfl | ⟨v, hm, -⟩
    · rfl
    · exact absurd hrun hm.step_eq.1
  | succ n ih =>
    rcases Relation.ReflTransGen.cases_head h with rfl | ⟨v, hm, hv⟩
    · simp [run, hend]
    · obtain ⟨hne, hstep⟩ := hm.step_eq
      simp only [run, hne, ↓reduceIte, hstep] at hrun ⊢
      exact ih hv hrun

end Descent

/-- A frame with a callee to look at comes to the frame after it with the memo and the depth of the
recursive call, and a frame with callees left comes to the end of them. -/
theorem recursion_moves (g : CallGraph) :
    (∀ visiting memo m idle, ∀ (u : String) (cs : List String) (best : Nat) (below : List Frame),
      Moves g ⟨memo, visiting, ⟨u, m :: cs, best⟩ :: below⟩
        ⟨(depthFrom g visiting memo m idle).2, visiting,
          ⟨u, cs, max best (depthFrom g visiting memo m idle).1⟩ :: below⟩) ∧
      ∀ visiting memo cs, ∀ (u : String) (best : Nat) (below : List Frame),
        Moves g ⟨memo, visiting, ⟨u, cs, best⟩ :: below⟩
          ⟨(deepest g visiting memo cs).2, visiting,
            ⟨u, [], max best (deepest g visiting memo cs).1⟩ :: below⟩ := by
  refine depthFrom.mutual_induct g _ _ ?_ ?_ ?_ ?_
  · intro visiting memo m idle d known u cs best below
    rw [depthFrom_of_lookup idle known]
    exact .single (.reuse idle known)
  · -- the frame of `m` is opened, its callees are gone through, and it hands its depth down
    intro visiting memo m idle unknown ih u cs best below
    have hopen := ih m 0 (⟨u, cs, best⟩ :: below)
    rw [Nat.zero_max] at hopen
    have hclose := hopen.tail .close
    rw [List.erase_cons_head] at hclose
    rw [depthFrom_of_not_finished idle unknown]
    exact .head (.enter idle unknown) hclose
  · intro visiting memo u best below
    rw [deepest, Nat.max_zero]
    exact .refl
  · intro visiting memo c cs first ihc ihcs u best below
    have hfirst : Moves g ⟨memo, visiting, ⟨u, c :: cs, best⟩ :: below⟩
        ⟨first.2, visiting, ⟨u, cs, max best first.1⟩ :: below⟩ := by
      by_cases hc : c ∈ visiting
      · simp only [first, hc, ↓reduceDIte, Nat.max_zero]
        exact .single (.skip hc)
      · simp only [first, hc, ↓reduceDIte]
        exact ihc hc u cs best below
    rw [deepest, ← Nat.max_assoc]
    exact hfirst.trans (ihcs u (max best first.1) below)

theorem start_moves {memo : Memo} {root : String} (h : memo.lookup root = none) :
    Moves g (start g memo root) ⟨(depthFrom g [] memo root List.not_mem_nil).2, [], []⟩ := by
  have hopen := (recursion_moves g).2 [root] memo (g.callees root) root 0 []
  rw [Nat.zero_max] at hopen
  have hclose := hopen.tail .close
  rw [List.erase_cons_head] at hclose
  rw [depthFrom_of_not_finished List.not_mem_nil h]
  exact hclose

/-- Exploring a root over any memo is the recursion: it comes to an end, leaves the same memo and gives
the same depth. The memo only grows, by names it did not have. -/
theorem explore_eq_recursion (g : CallGraph) (memo : Memo) (root : String) :
    let r := depthFrom g [] memo root List.not_mem_nil
    explore g memo root = r.2 ∧ (explore g memo root).lookup root = some r.1 ∧
      (root ∈ finished memo ∨ ((start g memo root).run g g.budget).stack = []) ∧
      ∃ more, r.2 = memo ++ more ∧ (finished more).Nodup ∧
        (finished more).Disjoint (finished memo) := by
  intro r
  have hsame : explore g memo root = r.2 ∧
      (root ∈ finished memo ∨ ((start g memo root).run g g.budget).stack = []) := by
    cases h : memo.lookup root with
    | some d =>
      have hr : r = (d, memo) := depthFrom_of_lookup List.not_mem_nil h
      rw [explore_of_finished (mem_finished_of_lookup h), hr]
      exact ⟨rfl, .inl (mem_finished_of_lookup h)⟩
    | none =>
      have hn : root ∉ finished memo := lookup_eq_none_iff_finished.mp h
      have hend := run_stack (w := start g memo root) rfl (load_start_le hn)
      rw [explore_of_not_finished hn, (start_moves h).run_eq rfl hend]
      exact ⟨rfl, .inr rfl⟩
  obtain ⟨more, hmore, hnodup, hnew⟩ := (recursion_adds g).1 [] memo root List.not_mem_nil
  rw [hsame.1]
  exact ⟨rfl, lookup_depthFrom [] memo root List.not_mem_nil, hsame.2, more, hmore, hnodup,
    fun m hm => (hnew m hm).1⟩

end JavaSurvey.CallGraph
