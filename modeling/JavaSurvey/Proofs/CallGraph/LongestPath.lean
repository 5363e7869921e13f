import JavaSurvey.Proofs.CallGraph.MaxDepth

set_option autoImplicit false

namespace JavaSurvey.CallGraph

def Acyclic (g : CallGraph) : Prop := ∀ m, ¬ Relation.TransGen g.Calls m m

/-- No cycle can be reached from `n`. -/
def CycleFree (g : CallGraph) (n : String) : Prop :=
  ∀ m, g.Reaches n m → ¬ Relation.TransGen g.Calls m m

variable {g : CallGraph}

theorem cycleFree_of_rank (S : String → Prop) (rank : String → Nat)
    (h : ∀ e ∈ g.edges, S e.1 → S e.2 ∧ rank e.2 < rank e.1) {n : String} (hn : S n) :
    g.CycleFree n := by
  have hreach : ∀ {a b : String}, S a → g.Reaches a b → S b := by
    intro a b ha hab
    induction hab with
    | refl => exact ha
    | tail _ hc ih => exact (h _ hc ih).1
  have hfall : ∀ {a b : String}, S a → Relation.TransGen g.Calls a b → rank b < rank a := by
    intro a b ha hab
    induction hab with
    | single hc => exact (h _ hc ha).2
    | tail hac hc ih => exact (h _ hc (hreach ha hac.to_reflTransGen)).2.trans ih
  exact fun m hm hcycle => Nat.lt_irrefl _ (hfall (hreach hn hm) hcycle)

theorem acyclic_of_rank (rank : String → Nat) (h : ∀ e ∈ g.edges, rank e.2 < rank e.1) :
    g.Acyclic :=
  fun m => cycleFree_of_rank (fun _ => True) rank (fun e he _ => ⟨trivial, h e he⟩) trivial m .refl

theorem mem_finished_of_earlier {memo : Memo} {v u : String} (h : Earlier memo v u) :
    v ∈ finished memo := by
  by_contra hv
  rw [Earlier, List.idxOf_eq_length hv] at h
  have hle : (finished memo).idxOf u ≤ (finished memo).length := List.idxOf_le_length
  omega

theorem Settled.earlier_of_calls {memo : Memo} (hs : Settled g memo) {u v : String}
    (hu : u ∈ finished memo) (hac : ¬ Relation.TransGen g.Calls u u) (hc : g.Calls u v) :
    Earlier memo v u := by
  by_contra hn
  exact hac (.head' hc (hs.reaches_of_not_earlier hu hc hn))

theorem Settled.length_le_depthIn {memo : Memo} (hs : Settled g memo) {u : String}
    (hu : u ∈ finished memo) (hac : g.CycleFree u)
    {path : List String} (hp : (u :: path).IsChain g.Calls) :
    (u :: path).length ≤ depthIn memo u := by
  induction path generalizing u with
  | nil => exact hs.depthIn_pos hu
  | cons v path ih =>
    have hc : g.Calls u v := hp.rel
    have he : Earlier memo v u := hs.earlier_of_calls hu (hac u .refl) hc
    have hlt := hs.depthIn_lt_of_earlier hu hc he
    have hle := ih (mem_finished_of_earlier he) (fun m hm => hac m (.head hc hm)) hp.tail
    rw [List.length_cons]
    omega

theorem length_le_maxDepth (hac : g.Acyclic) {path : List String} (hp : path.IsChain g.Calls)
    (hhead : ∀ m ∈ path.head?, m ∈ g.callers) : path.length ≤ g.maxDepth := by
  cases path with
  | nil => exact Nat.zero_le _
  | cons u path =>
    have hu : u ∈ g.callers := hhead u rfl
    obtain ⟨hs, -, hcallers⟩ := exploreAll_settled g
    exact (hs.length_le_depthIn (hcallers u hu) (fun m _ => hac m) hp).trans
      (depthIn_le_maxDepth hu).2

end JavaSurvey.CallGraph
