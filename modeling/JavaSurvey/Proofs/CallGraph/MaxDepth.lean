import JavaSurvey.Proofs.CallGraph.Descent
import Mathlib.Data.List.Perm.Subperm

/-!
The longest chain of calls. One memo serves all callers, and depths that were found while a cycle was
cut are used again from other callers. The order in which names were finished still gives every depth
a meaning: it counts callees that were finished earlier, and only calls that close a cycle are left
out. So the answer is the length of a path that meets no name twice.
-/

set_option autoImplicit false

namespace JavaSurvey.CallGraph

open Descent

def Earlier (memo : Memo) (v u : String) : Prop :=
  (finished memo).idxOf v < (finished memo).idxOf u

instance (memo : Memo) (v u : String) : Decidable (Earlier memo v u) :=
  inferInstanceAs (Decidable (_ < _))

theorem earlier_iff {before after : Memo} {u : String} {d : Nat} (h : u ∉ finished before)
    (v : String) : Earlier (before ++ (u, d) :: after) v u ↔ v ∈ finished before := by
  have hf : finished (before ++ (u, d) :: after) = finished before ++ u :: finished after := by
    simp [finished]
  have hu : (finished before ++ u :: finished after).idxOf u = (finished before).length := by
    simp [List.idxOf_append, h]
  rw [Earlier, hf, hu, List.idxOf_append]
  constructor
  · intro hlt
    by_contra hv
    rw [if_neg hv] at hlt
    omega
  · intro hv
    rw [if_pos hv]
    exact List.idxOf_lt_length_of_mem hv

namespace Settled

variable {g : CallGraph} {memo : Memo} {u v : String}

theorem depthIn_eq (h : Settled g memo) (hu : u ∈ finished memo) :
    depthIn memo u = 1 + highest memo ((g.callees u).filter fun v => Earlier memo v u) := by
  obtain ⟨before, after, he, hn, -⟩ := h.split hu
  have hfilter : ((g.callees u).filter fun v => Earlier memo v u) =
      (g.callees u).filter (· ∈ finished before) := by
    refine List.filter_congr fun v _ => ?_
    rw [he, decide_eq_decide]
    exact earlier_iff hn v
  have hsame : highest memo ((g.callees u).filter (· ∈ finished before)) =
      highest before ((g.callees u).filter (· ∈ finished before)) := by
    refine highest_congr fun v hv => ?_
    rw [he]
    exact depthIn_append_of_finished (by simpa using (List.mem_filter.mp hv).2) _
  rw [hfilter, hsame, highest_filter_finished, he, depthIn_append_self hn, Nat.add_comm]

theorem reaches_of_not_earlier (h : Settled g memo) (hu : u ∈ finished memo) (hc : g.Calls u v)
    (hn : ¬ Earlier memo v u) : g.Reaches v u := by
  obtain ⟨before, after, he, hb, back⟩ := h.split hu
  rw [he, earlier_iff hb] at hn
  exact back v hc hn

theorem depthIn_lt_of_earlier (h : Settled g memo) (hu : u ∈ finished memo) (hc : g.Calls u v)
    (he : Earlier memo v u) : depthIn memo v < depthIn memo u := by
  have hv : v ∈ (g.callees u).filter fun v => Earlier memo v u := by
    simpa using ⟨calls_iff.mp hc, he⟩
  have hle : depthIn memo v ≤ highest memo _ := le_highest hv
  rw [h.depthIn_eq hu]
  omega

end Settled

variable {g : CallGraph}

theorem coherent_start {memo : Memo} {root : String} (hs : Settled g memo)
    (hr : root ∈ g.members) (hn : root ∉ finished memo) : Coherent g (start g memo root) where
  settled := hs
  nested := ⟨⟨[], by simp, rfl, by simp⟩, trivial⟩
  visiting := rfl
  nodup := by simp [start]
  unfinished := by simpa [start] using hn
  members := by simpa [start] using hr

theorem load_start_le {memo : Memo} {root : String} (hn : root ∉ finished memo) :
    load g (start g memo root) ≤ g.budget := by
  have hsplit := callsFrom_unmet_cons (g := g) (List.not_mem_nil (a := root)) hn
  have hle := callsFrom_le_edgeCount (unmet memo []) g
  simp only [load, start, stackLoad, budget]
  omega

theorem explore_of_finished {memo : Memo} {root : String} (h : root ∈ finished memo) :
    explore g memo root = memo := by
  unfold explore
  cases hl : memo.lookup root with
  | none => exact absurd h (lookup_eq_none_iff_finished.mp hl)
  | some d => rfl

theorem explore_of_not_finished {memo : Memo} {root : String} (h : root ∉ finished memo) :
    explore g memo root = ((start g memo root).run g g.budget).memo := by
  simp [explore, lookup_eq_none_iff_finished.mpr h]

theorem explore_isPrefix (memo : Memo) (root : String) : memo <+: explore g memo root := by
  by_cases h : root ∈ finished memo
  · simp [explore_of_finished h]
  · rw [explore_of_not_finished h]
    refine run_keeps (P := fun w => memo <+: w.memo) (fun w w' hm hw => ?_) _ ?_
    · exact hw.trans hm.memo_isPrefix
    · exact List.prefix_refl _

theorem explore_settled {memo : Memo} {root : String} (hs : Settled g memo)
    (hr : root ∈ g.members) :
    Settled g (explore g memo root) ∧ root ∈ finished (explore g memo root) := by
  by_cases h : root ∈ finished memo
  · rw [explore_of_finished h]
    exact ⟨hs, h⟩
  · rw [explore_of_not_finished h]
    have hc := coherent_start hs hr h
    refine ⟨(hc.run _).settled, ?_⟩
    -- the root was met at the start, and the empty stack leaves only the memo to hold it
    have hseen : root ∈ nodes ((start g memo root).run g g.budget).stack ∨
        root ∈ finished ((start g memo root).run g g.budget).memo :=
      run_keeps (P := fun w => root ∈ nodes w.stack ∨ root ∈ finished w.memo)
        (fun _ _ hm hw => hm.seen hw) _ (.inl (by simp [start]))
    rw [run_stack hc.visiting (load_start_le h)] at hseen
    simpa using hseen

theorem depthIn_of_isPrefix {memo memo' : Memo} (h : memo <+: memo') {m : String}
    (hm : m ∈ finished memo) : depthIn memo' m = depthIn memo m := by
  obtain ⟨more, rfl⟩ := h
  exact depthIn_append_of_finished hm more

theorem exploreAll_foldl (ms : List String) (hms : ∀ m ∈ ms, m ∈ g.members) (memo : Memo)
    (best : Nat) (hs : Settled g memo) :
    ∃ memo', ms.foldl (fun (memo, best) m =>
        let memo := explore g memo m
        (memo, max best (depthIn memo m))) (memo, best) = (memo', max best (highest memo' ms)) ∧
      Settled g memo' ∧ memo <+: memo' ∧ ∀ m ∈ ms, m ∈ finished memo' := by
  induction ms generalizing memo best with
  | nil => exact ⟨memo, by simp, hs, List.prefix_refl _, by simp⟩
  | cons m ms ih =>
    obtain ⟨hs', hm⟩ := explore_settled hs (hms m (by simp))
    obtain ⟨memo', he, hsettled, hpre, hfin⟩ := ih (fun n hn => hms n (by simp [hn]))
      (explore g memo m) (max best (depthIn (explore g memo m) m)) hs'
    refine ⟨memo', ?_, hsettled, (explore_isPrefix memo m).trans hpre, fun n hn => ?_⟩
    · rw [List.foldl_cons, he, highest_cons, depthIn_of_isPrefix hpre hm, Nat.max_assoc]
    · rcases List.mem_cons.mp hn with rfl | hn
      · exact (hpre.map Prod.fst).subset hm
      · exact hfin n hn

theorem exploreAll_settled (g : CallGraph) :
    Settled g (exploreAll g).1 ∧ g.maxDepth = highest (exploreAll g).1 g.callers ∧
      ∀ m ∈ g.callers, m ∈ finished (exploreAll g).1 := by
  obtain ⟨memo, he, hs, -, hf⟩ :=
    exploreAll_foldl g.callers (fun _ => mem_members_of_mem_callers) [] 0 .nil
  rw [Nat.zero_max] at he
  unfold maxDepth exploreAll
  rw [he]
  exact ⟨hs, rfl, hf⟩

theorem mem_finished_exploreAll {m : String} :
    m ∈ finished (exploreAll g).1 ↔ m ∈ g.members := by
  obtain ⟨hs, -, hcallers⟩ := exploreAll_settled g
  refine ⟨hs.mem_members, fun hm => ?_⟩
  obtain ⟨a, hc | hc⟩ := mem_members_iff.mp hm
  · exact hcallers m (mem_callers_iff.mpr ⟨a, hc⟩)
  · -- a callee that was not finished before its caller leads back to it, so it is a caller itself
    have ha : a ∈ g.callers := mem_callers_iff.mpr ⟨m, hc⟩
    obtain ⟨before, after, he, -, back⟩ := hs.split (hcallers a ha)
    by_cases hb : m ∈ finished before
    · rw [he, finished_append]
      exact List.mem_append_left _ hb
    · exact hcallers m ((back m hc hb).mem_callers ha)

theorem callers_eq_nil_iff : g.callers = [] ↔ g.edges = [] := by
  simp only [List.eq_nil_iff_forall_not_mem, mem_callers_iff, Calls, Prod.forall]
  grind

theorem exists_maxDepth_path (g : CallGraph) :
    ∃ path : List String, path.length = g.maxDepth ∧ path.IsChain g.Calls ∧ path.Nodup ∧
      (∀ m ∈ path, m ∈ g.members) ∧ ∀ m ∈ path.head?, m ∈ g.callers := by
  obtain ⟨hs, hmax, hcallers⟩ := exploreAll_settled g
  by_cases hz : g.maxDepth = 0
  · exact ⟨[], hz.symm, .nil, by simp, by simp, by simp⟩
  · rw [hmax] at hz ⊢
    obtain ⟨a, ha, hd⟩ := exists_highest hz
    obtain ⟨path, hlen, hchain, hnodup, hmem⟩ := hs.exists_path (hcallers a ha)
    refine ⟨a :: path, hlen.trans hd, hchain, hnodup, fun m hm => hs.mem_members (hmem m hm), ?_⟩
    simpa using ha

theorem maxDepth_le_members (g : CallGraph) : g.maxDepth ≤ g.members.length := by
  obtain ⟨path, hlen, -, hnodup, hmem, -⟩ := exists_maxDepth_path g
  rw [← hlen]
  exact (hnodup.subperm hmem).length_le

theorem depthIn_le_maxDepth {a : String} (ha : a ∈ g.callers) :
    0 < depthIn (exploreAll g).1 a ∧ depthIn (exploreAll g).1 a ≤ g.maxDepth := by
  obtain ⟨hs, hmax, hcallers⟩ := exploreAll_settled g
  rw [hmax]
  exact ⟨hs.depthIn_pos (hcallers a ha), le_highest ha⟩

theorem maxDepth_eq_zero_iff (g : CallGraph) : g.maxDepth = 0 ↔ g.edges = [] := by
  rw [← callers_eq_nil_iff]
  constructor
  · intro hz
    refine List.eq_nil_iff_forall_not_mem.mpr fun a ha => ?_
    have := depthIn_le_maxDepth ha
    omega
  · intro hnil
    rw [(exploreAll_settled g).2.1, hnil, highest_nil]

theorem eq_of_calls_of_maxDepth_le_one (h : g.maxDepth ≤ 1) {u v : String} (hc : g.Calls u v) :
    u = v := by
  obtain ⟨hs, -, hcallers⟩ := exploreAll_settled g
  -- depths of 1 leave no callee finished before its caller, so the order only grows along calls;
  -- a call closes a cycle, and the order goes back along it
  have hlate : ∀ {a b : String}, g.Calls a b → ¬ Earlier (exploreAll g).1 b a := by
    intro a b hab he
    have ha : a ∈ g.callers := mem_callers_iff.mpr ⟨b, hab⟩
    have hlt := hs.depthIn_lt_of_earlier (hcallers a ha) hab he
    have hpos := hs.depthIn_pos (mem_finished_exploreAll.mpr (mem_members_iff.mpr ⟨a, .inr hab⟩))
    have hle := (depthIn_le_maxDepth ha).2
    omega
  have hmono : ∀ {a b : String}, g.Reaches a b →
      (finished (exploreAll g).1).idxOf a ≤ (finished (exploreAll g).1).idxOf b := by
    intro a b hab
    induction hab with
    | refl => exact Nat.le_refl _
    | tail _ hbc ih => exact ih.trans (Nat.le_of_not_lt (hlate hbc))
  have hu : u ∈ finished (exploreAll g).1 := hcallers u (mem_callers_iff.mpr ⟨v, hc⟩)
  have hback := hmono (hs.reaches_of_not_earlier hu hc (hlate hc))
  have hforth := hmono (.single hc)
  exact (List.idxOf_inj hu).mp (Nat.le_antisymm hforth hback)

theorem maxDepth_le_one_of_calls (h : ∀ a b, g.Calls a b → a = b) : g.maxDepth ≤ 1 := by
  obtain ⟨path, hlen, hchain, hnodup, -, -⟩ := exists_maxDepth_path g
  rw [← hlen]
  match path with
  | [] => simp
  | [a] => simp
  | a :: b :: rest =>
    have hab : a = b := h a b hchain.rel
    simp [hab] at hnodup

theorem maxDepth_eq_one_iff (g : CallGraph) :
    g.maxDepth = 1 ↔ g.edges ≠ [] ∧ ∀ a b, g.Calls a b → a = b := by
  have hz := maxDepth_eq_zero_iff g
  constructor
  · intro h
    exact ⟨fun he => by simp [hz.mpr he] at h,
      fun a b => eq_of_calls_of_maxDepth_le_one (Nat.le_of_eq h)⟩
  · rintro ⟨hne, h⟩
    have hle := maxDepth_le_one_of_calls h
    have hpos : g.maxDepth ≠ 0 := fun he => hne (hz.mp he)
    omega

/-- Every member is finished once. Its depth is one more than the greatest depth among the callees
finished before it, and each of its other calls closes a cycle. The answer is the length of a path
without repeats from a caller. -/
theorem depths_in_finish_order (g : CallGraph) :
    let memo := (exploreAll g).1
    (finished memo).Nodup ∧ (∀ m, m ∈ finished memo ↔ m ∈ g.members) ∧
      (∀ u ∈ g.members,
        depthIn memo u = 1 + highest memo ((g.callees u).filter fun v => Earlier memo v u) ∧
        ∀ v, g.Calls u v → ¬ Earlier memo v u → g.Reaches v u) ∧
      (∃ path : List String, path.length = g.maxDepth ∧ path.IsChain g.Calls ∧ path.Nodup ∧
        ∀ m ∈ path.head?, m ∈ g.callers) ∧
      g.members.Nodup ∧ g.maxDepth ≤ g.members.length ∧
      (g.maxDepth = 0 ↔ g.edges = []) ∧
      (g.maxDepth = 1 ↔ g.edges ≠ [] ∧ ∀ a b, g.Calls a b → a = b) := by
  intro memo
  have hs : Settled g memo := (exploreAll_settled g).1
  refine ⟨hs.nodup, fun m => mem_finished_exploreAll, fun u hu => ?_, ?_,
    nodup_members g, maxDepth_le_members g, maxDepth_eq_zero_iff g, maxDepth_eq_one_iff g⟩
  · have hf : u ∈ finished memo := mem_finished_exploreAll.mpr hu
    exact ⟨hs.depthIn_eq hf, fun v hc hn => hs.reaches_of_not_earlier hf hc hn⟩
  · obtain ⟨path, hlen, hchain, hnodup, -, hhead⟩ := exists_maxDepth_path g
    exact ⟨path, hlen, hchain, hnodup, hhead⟩

end JavaSurvey.CallGraph
