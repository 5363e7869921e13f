import JavaSurvey.Proofs.CallGraph.FinishOrder

/-!
The search for depths, step by step. `Move` says once what a step can do; `Coherent` is what every
step keeps, and `load` is what every step lowers. A run whose budget covers its load therefore ends
with an empty stack over a settled memo.
-/

set_option autoImplicit false

namespace JavaSurvey.CallGraph

def nodes (stack : List Frame) : List String := stack.map Frame.node

@[simp] theorem nodes_nil : nodes [] = [] := rfl

@[simp] theorem nodes_cons (f : Frame) (below : List Frame) :
    nodes (f :: below) = f.node :: nodes below := rfl

def handDown (d : Nat) : List Frame → List Frame
  | [] => []
  | p :: rest => p.raise d :: rest

@[simp] theorem nodes_handDown (d : Nat) (stack : List Frame) :
    nodes (handDown d stack) = nodes stack := by cases stack <;> rfl

/-- The four things a step can do. -/
inductive Descent.Move (g : CallGraph) : Descent → Descent → Prop
  | close {memo : Memo} {visiting : List String} {u : String} {best : Nat} {below : List Frame} :
      Move g ⟨memo, visiting, ⟨u, [], best⟩ :: below⟩
        ⟨memo ++ [(u, best + 1)], visiting.erase u, handDown (best + 1) below⟩
  | skip {memo : Memo} {visiting : List String} {u c : String} {cs : List String} {best : Nat}
      {below : List Frame} (busy : c ∈ visiting) :
      Move g ⟨memo, visiting, ⟨u, c :: cs, best⟩ :: below⟩ ⟨memo, visiting, ⟨u, cs, best⟩ :: below⟩
  | reuse {memo : Memo} {visiting : List String} {u c : String} {cs : List String}
      {best d : Nat} {below : List Frame} (idle : c ∉ visiting) (known : memo.lookup c = some d) :
      Move g ⟨memo, visiting, ⟨u, c :: cs, best⟩ :: below⟩
        ⟨memo, visiting, ⟨u, cs, max best d⟩ :: below⟩
  | enter {memo : Memo} {visiting : List String} {u c : String} {cs : List String} {best : Nat}
      {below : List Frame} (idle : c ∉ visiting) (unknown : memo.lookup c = none) :
      Move g ⟨memo, visiting, ⟨u, c :: cs, best⟩ :: below⟩
        ⟨memo, c :: visiting, ⟨c, g.callees c, 0⟩ :: ⟨u, cs, best⟩ :: below⟩

theorem Descent.move_step (g : CallGraph) (w : Descent) (h : w.stack ≠ []) :
    Move g w (w.step g) := by
  obtain ⟨memo, visiting, stack⟩ := w
  cases stack with
  | nil => exact absurd rfl h
  | cons f below =>
    obtain ⟨u, pending, best⟩ := f
    cases pending with
    | nil => cases below <;> exact .close
    | cons c cs =>
      by_cases hc : c ∈ visiting
      · simpa [step, hc] using Move.skip hc
      · cases hl : memo.lookup c with
        | none => simpa [step, hc, hl] using Move.enter hc hl
        | some d => simpa [step, hc, hl] using Move.reuse hc hl

/-- What the frames of a stack hold over a memo. The callees of a frame are those already looked at,
the name whose frame lies on top of it, and those still pending. A callee that was looked at is
finished or was open at that time, and then its frame lies at or below this one. -/
def Nested (g : CallGraph) (memo : Memo) : Option String → List Frame → Prop
  | _, [] => True
  | above, f :: below =>
    (∃ seen, g.callees f.node = seen ++ above.toList ++ f.pending ∧ f.best = highest memo seen ∧
      ∀ m ∈ seen, m ∈ finished memo ∨ m ∈ nodes (f :: below)) ∧
    Nested g memo (some f.node) below

namespace Nested

variable {g : CallGraph} {memo : Memo}

theorem reaches {above : Option String} {stack : List Frame} (h : Nested g memo above stack)
    {u : String} (hu : above = some u) {m : String} (hm : m ∈ nodes stack) : g.Reaches m u := by
  induction stack generalizing above u with
  | nil => simp at hm
  | cons f below ih =>
    obtain ⟨⟨seen, hs, -, -⟩, hbelow⟩ := h
    have hcall : g.Calls f.node u := by
      rw [calls_iff, hs, hu]
      simp
    rw [nodes_cons, List.mem_cons] at hm
    rcases hm with rfl | hm
    · exact .single hcall
    · exact .tail (ih hbelow rfl hm) hcall

theorem grow {above : Option String} {stack : List Frame} (h : Nested g memo above stack)
    {u : String} (hf : u ∉ finished memo) (hn : u ∉ nodes stack) (d : Nat) :
    Nested g (memo ++ [(u, d)]) above stack := by
  induction stack generalizing above with
  | nil => trivial
  | cons f below ih =>
    obtain ⟨⟨seen, hs, hb, hm⟩, hbelow⟩ := h
    have hne : ∀ m ∈ seen, m ≠ u := by
      rintro m hms rfl
      exact (hm m hms).elim hf hn
    refine ⟨⟨seen, hs, ?_, fun m hms => ?_⟩, ih hbelow fun hu => hn (by simp [hu])⟩
    · rw [hb]
      exact highest_congr fun m hms => (depthIn_append_of_ne (hne m hms) d).symm
    · rcases hm m hms with h | h
      · exact .inl (by simp [h])
      · exact .inr h

theorem close {u : String} {stack : List Frame} (h : Nested g memo (some u) stack)
    (hf : u ∉ finished memo) (hn : u ∉ nodes stack) (d : Nat) :
    Nested g (memo ++ [(u, d)]) none (handDown d stack) := by
  cases stack with
  | nil => trivial
  | cons p rest =>
    obtain ⟨⟨seen, hs, hb, hm⟩, hrest⟩ := h.grow hf hn d
    refine ⟨⟨seen ++ [u], by simpa [Frame.raise] using hs, ?_, fun m hms => ?_⟩, hrest⟩
    · simp only [Frame.raise]
      rw [hb, highest_append, highest_cons, depthIn_append_self hf, highest_nil]
      omega
    · rcases List.mem_append.mp hms with hms | hms
      · exact hm m hms
      · simp only [List.mem_singleton] at hms
        simp [hms]

theorem advance {u c : String} {cs : List String} {best : Nat} {below : List Frame}
    (h : Nested g memo none (⟨u, c :: cs, best⟩ :: below))
    (hc : c ∈ finished memo ∨ c ∈ nodes (⟨u, cs, best⟩ :: below)) :
    Nested g memo none (⟨u, cs, max best (depthIn memo c)⟩ :: below) := by
  obtain ⟨⟨seen, hs, hb, hm⟩, hbelow⟩ := h
  refine ⟨⟨seen ++ [c], by simpa using hs, ?_, fun m hms => ?_⟩, hbelow⟩
  · rw [highest_append, highest_cons, highest_nil]
    simp only at hb ⊢
    omega
  · rcases List.mem_append.mp hms with hms | hms
    · exact hm m hms
    · simp only [List.mem_singleton] at hms
      exact hms ▸ hc

theorem enter {u c : String} {cs : List String} {best : Nat} {below : List Frame}
    (h : Nested g memo none (⟨u, c :: cs, best⟩ :: below)) :
    Nested g memo none (⟨c, g.callees c, 0⟩ :: ⟨u, cs, best⟩ :: below) := by
  obtain ⟨⟨seen, hs, hb, hm⟩, hbelow⟩ := h
  exact ⟨⟨[], by simp, rfl, by simp⟩, ⟨seen, by simpa using hs, hb, hm⟩, hbelow⟩

end Nested

/-- What holds between any two steps of a search. -/
structure Descent.Coherent (g : CallGraph) (w : Descent) : Prop where
  settled : Settled g w.memo
  nested : Nested g w.memo none w.stack
  visiting : w.visiting = nodes w.stack
  nodup : (nodes w.stack).Nodup
  unfinished : ∀ m ∈ nodes w.stack, m ∉ finished w.memo
  members : ∀ m ∈ nodes w.stack, m ∈ g.members

namespace Descent

variable {g : CallGraph} {w w' : Descent}

theorem Coherent.move (h : Coherent g w) (hm : Move g w w') : Coherent g w' := by
  obtain ⟨settled, nested, visiting, nodup, unfinished, members⟩ := h
  cases hm with
  | @close memo vs u best below =>
    simp only [nodes_cons, List.nodup_cons] at nodup
    simp only at visiting
    have hu : u ∉ finished memo := unfinished u (by simp)
    obtain ⟨⟨seen, hs, hb, hseen⟩, hbelow⟩ := id nested
    simp only [Option.toList_none, List.append_nil] at hs
    simp only at hb
    refine ⟨?_, hbelow.close hu nodup.1 _, by simp [visiting], by simpa using nodup.2, ?_, ?_⟩
    · rw [hb, ← hs]
      refine settled.snoc (members u (by simp)) hu fun v hv hn => ?_
      rw [calls_iff, hs] at hv
      have hopen := (hseen v hv).resolve_left hn
      rw [nodes_cons, List.mem_cons] at hopen
      rcases hopen with rfl | hopen
      · exact .refl
      · exact hbelow.reaches rfl hopen
    · intro m hm
      simp only [nodes_handDown] at hm
      have hne : m ≠ u := fun he => nodup.1 (he ▸ hm)
      simp [unfinished m (by simp [hm]), hne]
    · intro m hm
      simp only [nodes_handDown] at hm
      exact members m (by simp [hm])
  | @skip memo vs u c cs best below busy =>
    simp only at visiting
    rw [visiting] at busy
    have hz : depthIn memo c = 0 := depthIn_of_not_finished (unfinished c busy)
    have hadv := nested.advance (.inr busy)
    rw [hz, Nat.max_zero] at hadv
    exact ⟨settled, hadv, visiting, nodup, unfinished, members⟩
  | @reuse memo vs u c cs best d below idle known =>
    have hadv := nested.advance (.inl (mem_finished_of_lookup known))
    rw [depthIn_of_lookup known] at hadv
    exact ⟨settled, hadv, visiting, nodup, unfinished, members⟩
  | @enter memo vs u c cs best below idle unknown =>
    simp only at visiting
    have hc : c ∈ g.members := by
      obtain ⟨⟨seen, hs, -, -⟩, -⟩ := id nested
      refine mem_members_iff.mpr ⟨u, .inr (calls_iff.mpr ?_)⟩
      simp only at hs
      simp [hs]
    refine ⟨settled, nested.enter, by simp [visiting], ?_, ?_, ?_⟩
    · exact List.nodup_cons.mpr ⟨by rwa [visiting] at idle, nodup⟩
    · intro m hm
      rcases List.mem_cons.mp hm with rfl | hm
      · exact lookup_eq_none_iff_finished.mp unknown
      · exact unfinished m hm
    · intro m hm
      rcases List.mem_cons.mp hm with rfl | hm
      · exact hc
      · exact members m hm

theorem Move.seen (hm : Move g w w') {m : String} (h : m ∈ nodes w.stack ∨ m ∈ finished w.memo) :
    m ∈ nodes w'.stack ∨ m ∈ finished w'.memo := by
  cases hm with
  | close =>
    simp only [nodes_cons, List.mem_cons, nodes_handDown, finished_append, finished_singleton,
      List.mem_append] at h ⊢
    grind
  | skip | reuse => exact h
  | enter =>
    simp only [nodes_cons, List.mem_cons] at h ⊢
    grind

theorem Move.memo_isPrefix (hm : Move g w w') : w.memo <+: w'.memo := by
  cases hm with
  | close => exact List.prefix_append _ _
  | skip | reuse | enter => exact List.prefix_refl _

end Descent

def callsFrom (p : String → Bool) : List CallRow → Nat
  | [] => 0
  | r :: rows => (if p r.1 then r.2.length else 0) + callsFrom p rows

theorem callsFrom_le_edgeCount (p : String → Bool) (g : CallGraph) :
    callsFrom p g.rows ≤ g.edgeCount := by
  unfold edgeCount
  induction g.rows with
  | nil => simp [callsFrom]
  | cons r rows ih =>
    simp only [callsFrom, List.foldr_cons]
    split <;> omega

theorem callsFrom_of_not_mem {p q : String → Bool} {c : String} {rows : List CallRow}
    (hc : c ∉ rows.map Prod.fst) (h : ∀ m, m ≠ c → p m = q m) :
    callsFrom p rows = callsFrom q rows := by
  induction rows with
  | nil => rfl
  | cons r rows ih =>
    simp only [List.map_cons, List.mem_cons, not_or] at hc
    simp only [callsFrom, h r.1 fun he => hc.1 he.symm, ih hc.2]

theorem callsFrom_split {p q : String → Bool} {c : String} {rows : List CallRow}
    (hn : (rows.map Prod.fst).Nodup) (hp : p c = true) (hq : q c = false)
    (h : ∀ m, m ≠ c → p m = q m) :
    callsFrom p rows = ((rows.lookup c).getD []).length + callsFrom q rows := by
  induction rows with
  | nil => rfl
  | cons r rows ih =>
    obtain ⟨a, bs⟩ := r
    simp only [List.map_cons, List.nodup_cons] at hn
    by_cases hc : c = a
    · subst hc
      simp [callsFrom, hp, hq, callsFrom_of_not_mem hn.1 h]
    · have hb : (c == a) = false := beq_eq_false_iff_ne.mpr hc
      simp only [callsFrom, List.lookup_cons, hb, h a fun he => hc he.symm, ih hn.2]
      omega

/-- What the open frames still cost: two for every pending callee, to look at it and to close what it
may open, and one to close the frame. -/
def stackLoad : List Frame → Nat
  | [] => 0
  | f :: below => 2 * f.pending.length + 1 + stackLoad below

theorem stackLoad_handDown (d : Nat) (stack : List Frame) :
    stackLoad (handDown d stack) = stackLoad stack := by cases stack <;> rfl

namespace Descent

variable {g : CallGraph} {w w' : Descent}

def unmet (memo : Memo) (visiting : List String) (m : String) : Bool :=
  m ∉ visiting ∧ m ∉ finished memo

def load (g : CallGraph) (w : Descent) : Nat :=
  stackLoad w.stack + 2 * callsFrom (unmet w.memo w.visiting) g.rows

theorem callsFrom_unmet_cons {memo : Memo} {visiting : List String} {c : String}
    (idle : c ∉ visiting) (hc : c ∉ finished memo) :
    callsFrom (unmet memo visiting) g.rows =
      (g.callees c).length + callsFrom (unmet memo (c :: visiting)) g.rows := by
  refine callsFrom_split g.callers_nodup (by simp [unmet, idle, hc]) (by simp [unmet]) fun m hm => ?_
  simp [unmet, hm]

/-- The open names stay those of the frames, whatever the memo holds. -/
theorem Move.visiting_eq (hm : Move g w w') (h : w.visiting = nodes w.stack) :
    w'.visiting = nodes w'.stack := by
  cases hm with
  | close =>
    simp only at h
    simp [h]
  | skip | reuse => exact h
  | enter =>
    simp only at h
    simp [h]

/-- A name that is closed goes from the open names to the finished ones, so that the names not met stay
the same. -/
theorem unmet_close (memo : Memo) (u : String) (d : Nat) (below : List String) :
    unmet (memo ++ [(u, d)]) below = unmet memo (u :: below) := by
  funext m
  simp only [unmet, finished_append, finished_singleton, List.mem_cons, List.mem_append,
    decide_eq_decide]
  grind

theorem Move.load_lt (hm : Move g w w') (visiting : w.visiting = nodes w.stack) :
    load g w' < load g w := by
  cases hm with
  | close =>
    simp only at visiting
    simp only [load, visiting, nodes_cons, List.erase_cons_head, unmet_close, stackLoad_handDown,
      stackLoad, List.length_nil]
    omega
  | skip =>
    simp only [load, stackLoad, List.length_cons]
    omega
  | reuse =>
    simp only [load, stackLoad, List.length_cons]
    omega
  | @enter memo vs u c cs best below idle unknown =>
    have hc : c ∉ finished memo := lookup_eq_none_iff_finished.mp unknown
    simp only [load, callsFrom_unmet_cons idle hc, stackLoad, List.length_cons]
    omega

theorem eq_nil_of_load_eq_zero (h : load g w = 0) : w.stack = [] := by
  cases hs : w.stack with
  | nil => rfl
  | cons f below =>
    simp only [load, hs, stackLoad] at h
    omega

theorem run_keeps {P : Descent → Prop} (hP : ∀ w w', Move g w w' → P w → P w') (n : Nat)
    {w : Descent} (h : P w) : P (w.run g n) := by
  induction n generalizing w with
  | zero => exact h
  | succ n ih =>
    simp only [run]
    split
    · exact h
    · rename_i hs
      exact ih (hP w _ (move_step g w hs) h)

theorem Coherent.run (h : Coherent g w) (n : Nat) : Coherent g (w.run g n) :=
  run_keeps (fun _ _ hm hw => hw.move hm) n h

theorem run_stack (h : w.visiting = nodes w.stack) {n : Nat} (hl : load g w ≤ n) :
    (w.run g n).stack = [] := by
  induction n generalizing w with
  | zero => exact eq_nil_of_load_eq_zero (Nat.le_zero.mp hl)
  | succ n ih =>
    simp only [Descent.run]
    split
    · assumption
    · rename_i hs
      have hm := move_step g w hs
      have hlt := hm.load_lt h
      exact ih (hm.visiting_eq h) (by omega)

end Descent

end JavaSurvey.CallGraph
