import JavaSurvey.Proofs.CallGraph.Alike

set_option autoImplicit false

namespace JavaSurvey.CallGraph

/-- Of the paths with `P` the longest have `k` names: one of them meets no name twice, and no chain of
calls with `P` has more. -/
structure LongestPath (g : CallGraph) (P : List String → Prop) (k : Nat) : Prop where
  attained : ∃ path, P path ∧ path.IsChain g.Calls ∧ path.Nodup ∧ path.length = k
  greatest : ∀ path, P path → path.IsChain g.Calls → path.length ≤ k

theorem LongestPath.unique {g : CallGraph} {P : List String → Prop} {k l : Nat}
    (hk : g.LongestPath P k) (hl : g.LongestPath P l) : k = l := by
  obtain ⟨p, hp, hpc, -, hplen⟩ := hk.attained
  obtain ⟨q, hq, hqc, -, hqlen⟩ := hl.attained
  have hle := hl.greatest p hp hpc
  have hge := hk.greatest q hq hqc
  omega

variable {g : CallGraph}

theorem Settled.longestPath {memo : Memo} (hs : Settled g memo) {n : String}
    (hn : n ∈ finished memo) (hc : g.CycleFree n) :
    g.LongestPath (·.head? = some n) (depthIn memo n) where
  attained := by
    obtain ⟨path, hlen, hchain, hnodup, -⟩ := hs.exists_path hn
    exact ⟨n :: path, rfl, hchain, hnodup, hlen⟩
  greatest := by
    intro path hhead hchain
    cases path with
    | nil => cases hhead
    | cons u path =>
      obtain rfl : u = n := Option.some.inj hhead
      exact hs.length_le_depthIn hn hc hchain

theorem lookup_of_finished {memo : Memo} {n : String} (hn : n ∈ finished memo) :
    memo.lookup n = some (depthIn memo n) := by
  cases hl : memo.lookup n with
  | none => exact absurd hn (lookup_eq_none_iff_finished.mp hl)
  | some d => rw [depthIn_of_lookup hl]

theorem explore_foldl_settled {roots : List String} (hr : ∀ r ∈ roots, r ∈ g.members) {memo : Memo}
    (hs : Settled g memo) : Settled g (roots.foldl (explore g) memo) := by
  induction roots generalizing memo with
  | nil => exact hs
  | cons r roots ih =>
    rw [List.forall_mem_cons] at hr
    exact ih hr.2 (explore_settled hs hr.1).1

theorem longestPath_maxDepth (hac : g.Acyclic) :
    g.LongestPath (∀ m ∈ ·, m ∈ g.members) g.maxDepth where
  attained := by
    obtain ⟨path, hlen, hchain, hnodup, hmem, -⟩ := exists_maxDepth_path g
    exact ⟨path, hmem, hchain, hnodup, hlen⟩
  greatest := by
    intro path hmem hchain
    match path with
    | [] => exact Nat.zero_le _
    | [m] =>
      -- a name alone may call nothing, but then something calls it
      have hedges : g.edges ≠ [] := by
        obtain ⟨a, hc | hc⟩ := mem_members_iff.mp (hmem m (by simp)) <;> exact List.ne_nil_of_mem hc
      have hpos : g.maxDepth ≠ 0 := fun hz => hedges ((maxDepth_eq_zero_iff g).mp hz)
      rw [List.length_singleton]
      omega
    | u :: v :: path =>
      have hu : u ∈ g.callers := mem_callers_iff.mpr ⟨v, hchain.rel⟩
      exact length_le_maxDepth hac hchain fun m hm => Option.some.inj hm ▸ hu

theorem alike_ofCalls {calls calls' : List (String × String)} (h : ∀ c, c ∈ calls ↔ c ∈ calls') :
    (ofCalls calls).Alike (ofCalls calls') := alike_ofCalls_iff.mpr h

/-- Where no cycle can be reached the depth of a name is the length of the longest path from it, and
any names may be explored before. Without a cycle the answer is the length of the longest path of the
graph, and only the set of calls matters. -/
theorem depth_eq_longest_path (g : CallGraph) :
    (∀ n ∈ g.members, g.CycleFree n →
      ∃ k, (exploreAll g).1.lookup n = some k ∧ g.LongestPath (·.head? = some n) k ∧
        ∀ roots : List String, (∀ r ∈ roots, r ∈ g.members) →
          (explore g (roots.foldl (explore g) []) n).lookup n = some k) ∧
    (g.Acyclic → g.LongestPath (∀ m ∈ ·, m ∈ g.members) g.maxDepth) ∧
    (g.edges = [] → g.maxDepth = 0) ∧
    ∀ calls calls' : List (String × String), (∀ c, c ∈ calls ↔ c ∈ calls') →
      (ofCalls calls).Acyclic → (ofCalls calls).maxDepth = (ofCalls calls').maxDepth := by
  refine ⟨fun n hn hc => ?_, longestPath_maxDepth, (maxDepth_eq_zero_iff g).mpr,
    fun calls calls' h hac => (alike_ofCalls h).maxDepth_eq hac⟩
  have hs : Settled g (exploreAll g).1 := (exploreAll_settled g).1
  have hf : n ∈ finished (exploreAll g).1 := mem_finished_exploreAll.mpr hn
  have hlongest := hs.longestPath hf hc
  refine ⟨_, lookup_of_finished hf, hlongest, fun roots hr => ?_⟩
  obtain ⟨hs', hf'⟩ := explore_settled (explore_foldl_settled hr .nil) hn
  rw [lookup_of_finished hf', (hs'.longestPath hf' hc).unique hlongest]

theorem depth_eq_longest_path_beside_cycle :
    let g := ofCalls [("a", "b"), ("b", "a"), ("b", "c"), ("c", "e"), ("c", "d"), ("d", "e")]
    let chain := [("c", "e"), ("c", "d"), ("d", "e")]
    let shuffled := [("d", "e"), ("c", "d"), ("c", "e"), ("d", "e")]
    "c" ∈ g.members ∧ g.CycleFree "c" ∧ ¬ g.Acyclic ∧ (exploreAll g).1.lookup "c" = some 3 ∧
      g.LongestPath (·.head? = some "c") 3 ∧ (ofCalls chain).Acyclic ∧
      (ofCalls chain).LongestPath (∀ m ∈ ·, m ∈ (ofCalls chain).members) 3 ∧
      (ofCalls shuffled).maxDepth = 3 := by
  intro g chain shuffled
  have hmem : "c" ∈ g.members := by decide
  let rank := fun m => if m = "c" then 2 else if m = "d" then 1 else 0
  have hfree : g.CycleFree "c" :=
    cycleFree_of_rank (fun m => m ∈ ["c", "d", "e"]) rank (by decide) (by decide)
  have hcycle : ¬ g.Acyclic := by
    have hab : g.Calls "a" "b" := calls_ofCalls.mpr (by decide)
    have hba : g.Calls "b" "a" := calls_ofCalls.mpr (by decide)
    exact fun hac => hac "a" (.tail (.single hab) hba)
  have hac : (ofCalls chain).Acyclic := acyclic_of_rank rank (by decide)
  have hdepth : (ofCalls chain).maxDepth = 3 := by decide
  obtain ⟨k, hk, hlongest, -⟩ := (depth_eq_longest_path g).1 "c" hmem hfree
  have hk3 : (exploreAll g).1.lookup "c" = some 3 := by decide
  obtain rfl : k = 3 := Option.some.inj (hk.symm.trans hk3)
  obtain ⟨-, hwhole, -, hsame⟩ := depth_eq_longest_path (ofCalls chain)
  refine ⟨hmem, hfree, hcycle, hk3, hlongest, hac, hdepth ▸ hwhole hac, ?_⟩
  rw [← hsame chain shuffled (by simp [chain, shuffled]; grind) hac, hdepth]

end JavaSurvey.CallGraph
