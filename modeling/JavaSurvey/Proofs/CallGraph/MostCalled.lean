import JavaSurvey.Proofs.CallGraph.Degrees
import JavaSurvey.Proofs.Sorting
import JavaSurvey.Statistics.Metrics

set_option autoImplicit false

namespace JavaSurvey.CallGraph

/-- Of `names`, those before `m` have fewer callers than `m` and those after it have no more. -/
def FirstMost (g : CallGraph) (names : List String) (m : String) : Prop :=
  ∃ before after, names = before ++ m :: after ∧
    (∀ c ∈ before, (g.callersOf c).length < (g.callersOf m).length) ∧
    ∀ c ∈ after, (g.callersOf c).length ≤ (g.callersOf m).length

namespace FirstMost

variable {g : CallGraph} {names : List String} {b m x : String}

theorem mem (h : g.FirstMost names m) : m ∈ names := by
  obtain ⟨before, after, rfl, -, -⟩ := h
  simp

theorem callers_le (h : g.FirstMost names m) {c : String} (hc : c ∈ names) :
    (g.callersOf c).length ≤ (g.callersOf m).length := by
  obtain ⟨before, after, rfl, hbefore, hafter⟩ := h
  rcases List.mem_append.mp hc with hc | hc
  · exact Nat.le_of_lt (hbefore c hc)
  · rcases List.mem_cons.mp hc with rfl | hc
    · exact Nat.le_refl _
    · exact hafter c hc

theorem give_up (h : g.FirstMost (x :: names) m)
    (hb : (g.callersOf b).length < (g.callersOf x).length) : g.FirstMost (b :: x :: names) m := by
  have hx : (g.callersOf x).length ≤ (g.callersOf m).length := h.callers_le (by simp)
  obtain ⟨before, after, he, hbefore, hafter⟩ := h
  refine ⟨b :: before, after, by rw [he, List.cons_append], ?_, hafter⟩
  exact List.forall_mem_cons.mpr ⟨by omega, hbefore⟩

theorem pass_over (h : g.FirstMost (b :: names) m)
    (hx : (g.callersOf x).length ≤ (g.callersOf b).length) : g.FirstMost (b :: x :: names) m := by
  obtain ⟨before, after, he, hbefore, hafter⟩ := h
  cases before with
  | nil =>
    obtain ⟨rfl, rfl⟩ := List.cons_eq_cons.mp he
    exact ⟨[], x :: names, rfl, by simp, List.forall_mem_cons.mpr ⟨hx, hafter⟩⟩
  | cons c before =>
    obtain ⟨rfl, rfl⟩ := List.cons_eq_cons.mp he
    obtain ⟨hb, hbefore⟩ := List.forall_mem_cons.mp hbefore
    refine ⟨b :: x :: before, after, rfl, ?_, hafter⟩
    exact List.forall_mem_cons.mpr ⟨hb, List.forall_mem_cons.mpr ⟨by omega, hbefore⟩⟩

end FirstMost

theorem mostCalledAmong_cons_cons (g : CallGraph) (b x : String) (names : List String) :
    g.mostCalledAmong (b :: x :: names) =
      if (g.callersOf b).length < (g.callersOf x).length then g.mostCalledAmong (x :: names)
      else g.mostCalledAmong (b :: names) := by
  simp only [mostCalledAmong, List.foldl_cons]
  split <;> rfl

theorem exists_mostCalledAmong (g : CallGraph) (b : String) (names : List String) :
    ∃ m, g.mostCalledAmong (b :: names) = some (m, (g.callersOf m).length) ∧
      g.FirstMost (b :: names) m := by
  induction names generalizing b with
  | nil => exact ⟨b, rfl, [], [], rfl, by simp, by simp⟩
  | cons x names ih =>
    -- one comparison: either `x` takes the place of `b`, or it is passed over
    rw [mostCalledAmong_cons_cons]
    split
    · rename_i hlt
      obtain ⟨m, he, hm⟩ := ih x
      exact ⟨m, he, hm.give_up hlt⟩
    · rename_i hle
      obtain ⟨m, he, hm⟩ := ih b
      exact ⟨m, he, hm.pass_over (Nat.not_lt.mp hle)⟩

theorem mostCalled_cases (g : CallGraph) :
    (g.members = [] ∧ g.mostCalled = none) ∨
      ∃ m, g.mostCalled = some m ∧ g.FirstMost g.members m := by
  rw [mostCalled]
  cases g.members with
  | nil => exact .inl ⟨rfl, rfl⟩
  | cons b names =>
    obtain ⟨m, he, hm⟩ := exists_mostCalledAmong g b names
    exact .inr ⟨m, by rw [he]; rfl, hm⟩

theorem firstMost_of_mostCalled {g : CallGraph} {m : String} (h : g.mostCalled = some m) :
    g.FirstMost g.members m := by
  rcases mostCalled_cases g with ⟨-, hnone⟩ | ⟨b, hsome, hb⟩
  · simp [hnone] at h
  · rwa [Option.some_inj.mp (h.symm.trans hsome)]

theorem isEmpty_iff_members {g : CallGraph} : g.isEmpty = true ↔ g.members = [] := by
  constructor
  · intro h
    have hrows : g.rows = [] := List.isEmpty_iff.mp h
    simp [members, callers, hrows, fresh]
  · intro h
    have hcallers : g.callers = [] := (List.append_eq_nil_iff.mp h).1
    simpa [callers, isEmpty] using hcallers

theorem mostCalled_eq_none_iff {g : CallGraph} : g.mostCalled = none ↔ g.isEmpty = true := by
  rw [isEmpty_iff_members]
  rcases mostCalled_cases g with ⟨hnil, hnone⟩ | ⟨m, hsome, hm⟩
  · simp [hnil, hnone]
  · simp [hsome, List.ne_nil_of_mem hm.mem]

theorem FirstMost.called {g : CallGraph} {m : String} (h : g.FirstMost g.members m) :
    g.callersOf m ≠ [] := by
  obtain ⟨x, hx⟩ := mem_members_iff.mp h.mem
  obtain ⟨a, b, hab⟩ : ∃ a b, g.Calls a b := hx.elim (fun hx => ⟨m, x, hx⟩) fun hx => ⟨x, m, hx⟩
  have hpos : 0 < (g.callersOf b).length := List.length_pos_of_mem (mem_callersOf.mpr hab)
  have hle := h.callers_le (mem_members_iff.mpr ⟨a, .inr hab⟩)
  exact List.ne_nil_of_length_pos (by omega)

structure MostCalled (g : CallGraph) (m : String) (callers : List String) : Prop where
  called : g.callersOf m ≠ []
  most : ∀ c ∈ g.members, (g.callersOf c).length ≤ (g.callersOf m).length
  first : ∃ before after, g.members = before ++ m :: after ∧
    ∀ c ∈ before, (g.callersOf c).length < (g.callersOf m).length
  callers_increase : callers.Pairwise (· < ·)
  mem_callers : ∀ a, a ∈ callers ↔ (a, m) ∈ g.edges
  edgeCount_le : g.edgeCount ≤ callers.length * g.members.length

/-- There is a most called name unless the graph is empty. It is called, and it is the first member
with the most callers; they are listed in order, at least as many as there are calls for each member. -/
theorem mostCalled_is_first_most (g : CallGraph) :
    (g.mostCalled = none ↔ g.isEmpty = true) ∧
      ∀ m, g.mostCalled = some m → g.MostCalled m g.callersOfMostCalled := by
  refine ⟨mostCalled_eq_none_iff, fun m hm => ?_⟩
  have hfirst := firstMost_of_mostCalled hm
  have hcallers : g.callersOfMostCalled = sortNames (g.callersOf m) := by
    rw [callersOfMostCalled, hm, sortedCallersOf]
  have hmost : ∀ c ∈ g.members, (g.callersOf c).length ≤ (g.callersOf m).length :=
    fun c hc => hfirst.callers_le hc
  refine
    { called := hfirst.called
      most := hmost
      first := ?_
      callers_increase := ?_
      mem_callers := ?_
      edgeCount_le := ?_ }
  · obtain ⟨before, after, he, hbefore, -⟩ := hfirst
    exact ⟨before, after, he, hbefore⟩
  · rw [hcallers]
    exact pairwise_lt_sortNames (nodup_callersOf g m)
  · intro a
    rw [hcallers, mem_sortNames]
    exact mem_callersOf
  · rw [hcallers, length_sortNames]
    exact edgeCount_le hmost

theorem mostCalled_is_first_most_in_tie :
    let g := ofCalls [("b", "y"), ("b", "z"), ("a", "z"), ("a", "y")]
    g.mostCalled = some "y" ∧ g.MostCalled "y" g.callersOfMostCalled ∧
      g.members = ["b", "a", "y", "z"] ∧ (g.callersOf "z").length = 2 := by
  intro g
  have hmost : g.mostCalled = some "y" := by decide
  exact ⟨hmost, (mostCalled_is_first_most g).2 "y" hmost, by decide, by decide⟩

end JavaSurvey.CallGraph
