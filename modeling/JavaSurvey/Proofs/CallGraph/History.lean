import JavaSurvey.Proofs.CallGraph.FirstUse
import JavaSurvey.Proofs.CallGraph.MaxDepth

/-!
The search for depths over all callers, turn by turn. A turn is one step of a search, or the start of the
search from the next caller that has no depth yet. What is still to be done is written down as a list:
the names that were not met, and the calls that were not looked at. Every turn takes off such a list
what it does itself, so that over the whole history each name is opened once and each call is looked at
once.
-/

set_option autoImplicit false

namespace JavaSurvey.CallGraph

open Descent

/-! ### States -/

structure Descent.Upright (g : CallGraph) (w : Descent) : Prop where
  distinct : (nodes w.stack).Nodup
  /-- Each frame was opened by a call from the one below it. -/
  joined : (nodes w.stack).IsChain fun u v => g.Calls v u
  visiting : w.visiting = nodes w.stack
  unfinished : ∀ m ∈ nodes w.stack, m ∉ finished w.memo
  /-- Callees that a frame has gone past have a depth or a frame. -/
  passed : ∀ f ∈ w.stack, ∃ seen, g.callees f.node = seen ++ f.pending ∧
    ∀ m ∈ seen, m ∈ finished w.memo ∨ m ∈ nodes w.stack

namespace Nested

variable {g : CallGraph} {memo : Memo}

theorem calls_above {u : String} {f : Frame} {below : List Frame}
    (h : Nested g memo (some u) (f :: below)) : g.Calls f.node u := by
  obtain ⟨⟨seen, hs, -, -⟩, -⟩ := h
  rw [calls_iff, hs]
  simp

theorem joined {above : Option String} {stack : List Frame} (h : Nested g memo above stack) :
    (nodes stack).IsChain fun u v => g.Calls v u := by
  induction stack generalizing above with
  | nil => exact .nil
  | cons f below ih =>
    obtain ⟨-, hbelow⟩ := h
    cases below with
    | nil => exact .singleton _
    | cons p rest => exact (ih hbelow).cons_cons hbelow.calls_above

theorem passed {above : Option String} {stack : List Frame} (h : Nested g memo above stack)
    {f : Frame} (hf : f ∈ stack) :
    ∃ seen, g.callees f.node = seen ++ f.pending ∧
      ∀ m ∈ seen, m ∈ finished memo ∨ m ∈ above.toList ++ nodes stack := by
  induction stack generalizing above with
  | nil => simp at hf
  | cons p below ih =>
    obtain ⟨⟨seen, hs, -, hseen⟩, hbelow⟩ := h
    rcases List.mem_cons.mp hf with rfl | hf
    · refine ⟨seen ++ above.toList, hs, fun m hm => ?_⟩
      rcases List.mem_append.mp hm with hm | hm
      · exact (hseen m hm).imp_right fun hn => List.mem_append_right _ hn
      · exact .inr (List.mem_append_left _ hm)
    · obtain ⟨seen, hs, hseen⟩ := ih hbelow hf
      exact ⟨seen, hs, fun m hm => (hseen m hm).imp_right fun hn => List.mem_append_right _ hn⟩

end Nested

theorem Descent.Coherent.upright {g : CallGraph} {w : Descent} (h : Coherent g w) : Upright g w where
  distinct := h.nodup
  joined := h.nested.joined
  visiting := h.visiting
  unfinished := h.unfinished
  passed := fun _ hf => h.nested.passed hf

/-! ### Turns -/

/-- Between two searches nothing is being computed. -/
def idle (memo : Memo) : Descent := ⟨memo, [], []⟩

/-- A state of the search and the one that comes next. -/
structure Turn where
  before : Descent
  after : Descent

namespace Turn

def opened (t : Turn) : List String :=
  nodes (t.after.stack.take (t.after.stack.length - t.before.stack.length))

def looked (t : Turn) : List (String × String) :=
  match t.before.stack with
  | ⟨u, c :: _, _⟩ :: _ => [(u, c)]
  | _ => []

def written (t : Turn) : Memo := t.after.memo.drop t.before.memo.length

/-- A turn is a step of a search, or the start of one from a caller without a depth. -/
inductive Legal (g : CallGraph) : Turn → Prop
  | step {w w' : Descent} (move : Move g w w') : Legal g ⟨w, w'⟩
  | root {memo : Memo} {m : String} (caller : m ∈ g.callers) (unknown : m ∉ finished memo) :
      Legal g ⟨idle memo, start g memo m⟩

end Turn

def Descent.turns (g : CallGraph) : Nat → Descent → List Turn
  | 0, _ => []
  | n + 1, w => if w.stack = [] then [] else ⟨w, w.step g⟩ :: turns g n (w.step g)

def exploreTurns (g : CallGraph) (memo : Memo) (m : String) : List Turn :=
  match memo.lookup m with
  | some _ => []
  | none => ⟨idle memo, start g memo m⟩ :: (start g memo m).turns g g.budget

def turnsFrom (g : CallGraph) : Memo → List String → List Turn
  | _, [] => []
  | memo, m :: ms => exploreTurns g memo m ++ turnsFrom g (explore g memo m) ms

/-- The turns of all searches, for one caller after another. -/
def history (g : CallGraph) : List Turn := turnsFrom g [] g.callers

/-- Turns that lead from one state to another, each from where the one before it has come to. -/
inductive Course (g : CallGraph) : Descent → List Turn → Descent → Prop
  | nil (w : Descent) : Course g w [] w
  | cons {w w' v : Descent} {ts : List Turn} (legal : Turn.Legal g ⟨w, w'⟩) (rest : Course g w' ts v) :
      Course g w (⟨w, w'⟩ :: ts) v

variable {g : CallGraph}

theorem Course.append {w w' v : Descent} {ts us : List Turn} (h : Course g w ts w')
    (h' : Course g w' us v) : Course g w (ts ++ us) v := by
  induction h with
  | nil w => exact h'
  | cons legal _ ih => exact .cons legal (ih h')

theorem course_turns (g : CallGraph) (n : Nat) (w : Descent) :
    Course g w (w.turns g n) (w.run g n) := by
  induction n generalizing w with
  | zero => exact .nil w
  | succ n ih =>
    simp only [turns, run]
    split
    · exact .nil w
    · rename_i hs
      exact .cons (.step (move_step g w hs)) (ih (w.step g))

theorem run_start_eq_idle {memo : Memo} {m : String} (h : m ∉ finished memo) :
    (start g memo m).run g g.budget = idle (explore g memo m) := by
  have hstack : ((start g memo m).run g g.budget).stack = [] := run_stack rfl (load_start_le h)
  have hvisiting : ((start g memo m).run g g.budget).visiting =
      nodes ((start g memo m).run g g.budget).stack :=
    run_keeps (P := fun w => w.visiting = nodes w.stack) (fun _ _ hm hw => hm.visiting_eq hw) _ rfl
  -- the open names are those of the frames, and no frame is left
  rw [hstack] at hvisiting
  rw [explore_of_not_finished h]
  generalize (start g memo m).run g g.budget = w at hstack hvisiting
  obtain ⟨memo', visiting, stack⟩ := w
  simp only at hstack hvisiting
  rw [hstack, hvisiting]
  rfl

theorem course_explore {m : String} (hm : m ∈ g.callers) (memo : Memo) :
    Course g (idle memo) (exploreTurns g memo m) (idle (explore g memo m)) := by
  by_cases h : m ∈ finished memo
  · have hnone : exploreTurns g memo m = [] := by
      rw [exploreTurns]
      cases hl : memo.lookup m with
      | none => exact absurd h (lookup_eq_none_iff_finished.mp hl)
      | some d => rfl
    rw [hnone, explore_of_finished h]
    exact .nil _
  · rw [exploreTurns, lookup_eq_none_iff_finished.mpr h, ← run_start_eq_idle h]
    exact .cons (.root hm h) (course_turns g g.budget (start g memo m))

theorem course_turnsFrom {ms : List String} (hms : ∀ m ∈ ms, m ∈ g.callers) (memo : Memo) :
    Course g (idle memo) (turnsFrom g memo ms) (idle (ms.foldl (explore g) memo)) := by
  induction ms generalizing memo with
  | nil => exact .nil _
  | cons m ms ih =>
    rw [List.forall_mem_cons] at hms
    exact (course_explore hms.1 memo).append (ih hms.2 (explore g memo m))

theorem fst_exploreAll (g : CallGraph) : (exploreAll g).1 = g.callers.foldl (explore g) [] :=
  (List.foldl_hom Prod.fst fun _ _ => rfl).symm

theorem course_history (g : CallGraph) :
    Course g (idle []) g.history (idle (exploreAll g).1) := by
  rw [fst_exploreAll]
  exact course_turnsFrom (fun _ hm => hm) []

/-! ### What a course keeps, and what it spends -/

theorem coherent_idle {memo : Memo} (h : Settled g memo) : Coherent g (idle memo) where
  settled := h
  nested := trivial
  visiting := rfl
  nodup := .nil
  unfinished := by simp [idle]
  members := by simp [idle]

theorem Turn.Legal.coherent {t : Turn} (h : t.Legal g) (hw : Coherent g t.before) :
    Coherent g t.after := by
  cases h with
  | step move => exact hw.move move
  | root caller unknown => exact coherent_start hw.settled (mem_members_of_mem_callers caller) unknown

theorem Course.coherent {w v : Descent} {ts : List Turn} (h : Course g w ts v) (hw : Coherent g w) :
    ∀ t ∈ ts, t.Legal g ∧ Coherent g t.before ∧ Coherent g t.after := by
  induction h with
  | nil w => simp
  | cons legal _ ih =>
    have hw' := legal.coherent hw
    exact List.forall_mem_cons.mpr ⟨⟨legal, hw, hw'⟩, ih hw'⟩

theorem Course.spends {α : Type} {spent : Turn → List α} {owed : Descent → List α}
    (hturn : ∀ t : Turn, t.Legal g → Coherent g t.before →
      (owed t.before).Perm (spent t ++ owed t.after))
    {w v : Descent} {ts : List Turn} (h : Course g w ts v) (hw : Coherent g w) :
    (owed w).Perm (ts.flatMap spent ++ owed v) := by
  induction h with
  | nil w => exact .refl _
  | @cons w w' v ts legal rest ih =>
    have hrest := ih (legal.coherent hw)
    rw [List.flatMap_cons, List.append_assoc]
    exact (hturn ⟨w, w'⟩ legal hw).trans (hrest.append_left _)

/-! ### Names and calls still to come -/

theorem filter_unmet_cons {α : Type} {memo : Memo} {visiting : List String} {c : String}
    (idle : c ∉ visiting) (hc : c ∉ finished memo) (key : α → String) (xs : List α) :
    (xs.filter (unmet memo visiting <| key ·)).Perm
      (xs.filter (key · = c) ++ xs.filter (unmet memo (c :: visiting) <| key ·)) := by
  have hsplit := List.filter_append_perm (key · = c) (xs.filter (unmet memo visiting <| key ·))
  have hmet : (xs.filter (unmet memo visiting <| key ·)).filter (key · = c) =
      xs.filter (key · = c) := by
    rw [List.filter_filter]
    refine List.filter_congr fun x _ => ?_
    by_cases hx : key x = c
    · simp [hx, unmet, idle, hc]
    · simp [hx]
  have hleft : (xs.filter (unmet memo visiting <| key ·)).filter (fun x => ! decide (key x = c)) =
      xs.filter (unmet memo (c :: visiting) <| key ·) := by
    rw [List.filter_filter]
    refine List.filter_congr fun x _ => ?_
    simp [unmet, Bool.and_assoc]
  rw [hmet, hleft] at hsplit
  exact hsplit.symm

def namesOwed (g : CallGraph) (w : Descent) : List String :=
  g.members.filter (unmet w.memo w.visiting ·)

/-- The calls that were not looked at: those that frames have pending, and those of callers not met. -/
def callsOwed (g : CallGraph) (w : Descent) : List (String × String) :=
  w.stack.flatMap (fun f => f.pending.map (f.node, ·)) ++
    g.edges.filter (unmet w.memo w.visiting ·.1)

theorem namesOwed_cons {memo : Memo} {visiting : List String} {c : String} (hm : c ∈ g.members)
    (idle : c ∉ visiting) (hc : c ∉ finished memo) :
    (g.members.filter (unmet memo visiting ·)).Perm
      (c :: g.members.filter (unmet memo (c :: visiting) ·)) := by
  have hone : g.members.filter (· = c) = [c] := by
    rw [List.filter_eq, List.count_eq_one_of_mem (nodup_members g) hm]
    rfl
  have hleave := filter_unmet_cons idle hc (fun m => m) g.members
  rwa [hone] at hleave

theorem filter_edges (g : CallGraph) (c : String) :
    g.edges.filter (·.1 = c) = (g.callees c).map (c, ·) := by
  have hfirst : ∀ e ∈ g.edges.filter (·.1 = c), (c, e.2) = e := by
    intro e he
    simp only [List.mem_filter, decide_eq_true_eq] at he
    rw [← he.2]
  rw [← edges_of_caller, List.map_map]
  exact ((List.map_congr_left hfirst).trans (List.map_id _)).symm

theorem callsOwed_cons {memo : Memo} {visiting : List String} {c : String}
    (idle : c ∉ visiting) (hc : c ∉ finished memo) :
    (g.edges.filter (unmet memo visiting ·.1)).Perm
      ((g.callees c).map (c, ·) ++ g.edges.filter (unmet memo (c :: visiting) ·.1)) := by
  rw [← filter_edges]
  exact filter_unmet_cons idle hc Prod.fst g.edges

theorem length_handDown (d : Nat) (stack : List Frame) :
    (handDown d stack).length = stack.length := by cases stack <;> rfl

theorem pending_handDown (d : Nat) (stack : List Frame) :
    (handDown d stack).flatMap (fun f => f.pending.map (f.node, ·)) =
      stack.flatMap (fun f => f.pending.map (f.node, ·)) := by cases stack <;> rfl

theorem Turn.Legal.spends_names {t : Turn} (h : t.Legal g) (hw : Coherent g t.before) :
    (namesOwed g t.before).Perm (t.opened ++ namesOwed g t.after) := by
  have hafter := h.coherent hw
  have hvisiting := hw.visiting
  cases h with
  | step move =>
    cases move with
    | close =>
      simp only at hvisiting
      simp [namesOwed, opened, hvisiting, unmet_close, length_handDown]
    | skip busy => simp [namesOwed, opened]
    | reuse idle known => simp [namesOwed, opened]
    | @enter memo vs u c cs best below idle unknown =>
      have hnew := namesOwed_cons (hafter.members c (by simp)) idle
        (lookup_eq_none_iff_finished.mp unknown)
      simpa [namesOwed, opened] using hnew
  | root caller unknown =>
    exact namesOwed_cons (mem_members_of_mem_callers caller) List.not_mem_nil unknown

theorem Turn.Legal.spends_calls {t : Turn} (h : t.Legal g) (hw : Coherent g t.before) :
    (callsOwed g t.before).Perm (t.looked ++ callsOwed g t.after) := by
  have hvisiting := hw.visiting
  cases h with
  | step move =>
    cases move with
    | close =>
      simp only at hvisiting
      simp [callsOwed, looked, hvisiting, unmet_close, pending_handDown]
    | skip busy => simp [callsOwed, looked]
    | reuse idle known => simp [callsOwed, looked]
    | @enter memo vs u c cs best below idle unknown =>
      have hnew := callsOwed_cons (g := g) idle (lookup_eq_none_iff_finished.mp unknown)
      -- the calls of `c` were owed because `c` was not met, and now because its frame has them pending
      simp only [callsOwed, looked, List.flatMap_cons, List.map_cons, List.cons_append,
        List.nil_append]
      refine List.Perm.cons (u, c) ((hnew.append_left _).trans ?_)
      rw [List.append_assoc ((g.callees c).map _)]
      exact List.perm_append_comm_assoc _ _ _
  | root caller unknown =>
    simpa [callsOwed, looked, idle, start] using callsOwed_cons (g := g) List.not_mem_nil unknown

theorem Turn.Legal.memo_eq {t : Turn} (h : t.Legal g) :
    t.after.memo = t.before.memo ++ t.written := by
  cases h with
  | step move =>
    obtain ⟨more, hmore⟩ := move.memo_isPrefix
    simp [written, ← hmore]
  | root => simp [written, idle, start]

theorem Turn.Legal.one_each {t : Turn} (h : t.Legal g) :
    t.looked.length + t.written.length = if t.before.stack = [] then 0 else 1 := by
  cases h with
  | step move => cases move <;> simp [looked, written]
  | root => simp [looked, written, idle, start]

theorem Course.memo_eq {w v : Descent} {ts : List Turn} (h : Course g w ts v) :
    v.memo = w.memo ++ ts.flatMap Turn.written := by
  induction h with
  | nil w => simp
  | cons legal _ ih => rw [ih, legal.memo_eq, List.flatMap_cons, List.append_assoc]

theorem Course.length_steps {w v : Descent} {ts : List Turn} (h : Course g w ts v) :
    ts.countP (·.before.stack ≠ []) =
      (ts.flatMap Turn.looked).length + (ts.flatMap Turn.written).length := by
  induction h with
  | nil w => rfl
  | @cons w w' v ts legal _ ih =>
    have hone := legal.one_each
    by_cases hs : w.stack = []
    · simp only [hs, ↓reduceIte] at hone
      simp only [List.countP_cons, List.flatMap_cons, List.length_append, ih, hs, ne_eq,
        not_true_eq_false, decide_false, Bool.false_eq_true, ↓reduceIte]
      omega
    · simp only [hs, ↓reduceIte] at hone
      simp only [List.countP_cons, List.flatMap_cons, List.length_append, ih, hs, ne_eq,
        not_false_eq_true, decide_true, ↓reduceIte]
      omega

/-! ### The whole history -/

theorem namesOwed_idle_nil (g : CallGraph) : namesOwed g (idle []) = g.members := by
  simp [namesOwed, idle, unmet]

theorem callsOwed_idle_nil (g : CallGraph) : callsOwed g (idle []) = g.edges := by
  simp [callsOwed, idle, unmet]

theorem namesOwed_exploreAll (g : CallGraph) : namesOwed g (idle (exploreAll g).1) = [] := by
  rw [namesOwed, List.filter_eq_nil_iff]
  intro m hm
  simp [idle, unmet, mem_finished_exploreAll.mpr hm]

theorem callsOwed_exploreAll (g : CallGraph) : callsOwed g (idle (exploreAll g).1) = [] := by
  rw [callsOwed, idle, List.flatMap_nil, List.nil_append, List.filter_eq_nil_iff]
  intro e he
  have hm : e.1 ∈ finished (exploreAll g).1 :=
    mem_finished_exploreAll.mpr (mem_members_iff.mpr ⟨e.2, .inl he⟩)
  simp [unmet, hm]

theorem finished_exploreAll_perm (g : CallGraph) : (finished (exploreAll g).1).Perm g.members :=
  (List.perm_ext_iff_of_nodup (exploreAll_settled g).1.nodup (nodup_members g)).mpr fun _ =>
    mem_finished_exploreAll

/-- Turns that do everything once. -/
structure OnceEach (g : CallGraph) (ts : List Turn) (memo : Memo) : Prop where
  /-- From an empty memo to the end of the last search, which leaves no frame open. -/
  course : Course g (idle []) ts (idle memo)
  upright : ∀ t ∈ ts, t.before.Upright g ∧ t.after.Upright g
  members_nodup : g.members.Nodup
  opened : (ts.flatMap Turn.opened).Perm g.members
  edges_nodup : g.edges.Nodup
  looked : (ts.flatMap Turn.looked).Perm g.edges
  /-- A depth is given to a name that has none, and all other depths stay. -/
  written : ∀ t ∈ ts, t.after.memo = t.before.memo ++ t.written ∧
    ∀ m ∈ finished t.written, m ∉ finished t.before.memo
  /-- One step looks at a call or closes a frame. -/
  steps : ts.countP (·.before.stack ≠ []) = g.edgeCount + g.members.length

/-- The search over all callers comes to its end in any graph, with one step for each call and one for
each member. Its frames are upright in every state, whether the innermost name has just been opened, has
been come back to or is in the middle of its callees. No member is opened twice, no call is looked at
twice, and no depth is given twice. -/
theorem history_once_each (g : CallGraph) : OnceEach g g.history (exploreAll g).1 := by
  have hcourse := course_history g
  have hidle : Coherent g (idle []) := coherent_idle .nil
  have hopened := hcourse.spends (fun _ legal hw => legal.spends_names hw) hidle
  have hlooked := hcourse.spends (fun _ legal hw => legal.spends_calls hw) hidle
  rw [namesOwed_idle_nil, namesOwed_exploreAll, List.append_nil] at hopened
  rw [callsOwed_idle_nil, callsOwed_exploreAll, List.append_nil] at hlooked
  refine
    { course := hcourse
      upright := fun t ht => ?_
      members_nodup := nodup_members g
      opened := hopened.symm
      edges_nodup := nodup_edges g
      looked := hlooked.symm
      written := fun t ht => ?_
      steps := ?_ }
  · obtain ⟨-, hbefore, hafter⟩ := hcourse.coherent hidle t ht
    exact ⟨hbefore.upright, hafter.upright⟩
  · obtain ⟨legal, -, hafter⟩ := hcourse.coherent hidle t ht
    have hnodup := hafter.settled.nodup
    rw [legal.memo_eq, finished_append] at hnodup
    exact ⟨legal.memo_eq, fun m hm hold => List.disjoint_of_nodup_append hnodup hold hm⟩
  · have hmemo : (exploreAll g).1 = g.history.flatMap Turn.written := hcourse.memo_eq
    have hlength := (finished_exploreAll_perm g).length_eq
    rw [finished, List.length_map, hmemo] at hlength
    rw [hcourse.length_steps, ← hlooked.length_eq, hlength, length_edges]

/-- The second call of `a` is looked at last, when `b` has its depth already. -/
example :
    let g := ofCalls [("a", "c"), ("a", "b"), ("b", "a"), ("c", "b")]
    g.history.flatMap Turn.opened = ["a", "c", "b"] ∧
      g.history.flatMap Turn.looked = [("a", "c"), ("c", "b"), ("b", "a"), ("a", "b")] ∧
      g.history.flatMap Turn.written = [("b", 1), ("c", 2), ("a", 3)] := by decide

end JavaSurvey.CallGraph
