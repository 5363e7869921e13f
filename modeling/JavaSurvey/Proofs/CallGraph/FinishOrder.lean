import JavaSurvey.CallGraph.Depth
import JavaSurvey.Proofs.CallGraph.Edges
import Mathlib.Data.List.Chain

/-!
Memos in the order in which their names were finished. A memo is `Settled` if every depth in it is one
more than the greatest depth among the callees that were finished before, and every other callee
leads back to its caller. Nothing in this module runs the search: it says what such a memo means.
A settled depth counts the names of a path without repeats, because the path only goes to names that
were finished earlier.
-/

set_option autoImplicit false

namespace JavaSurvey.CallGraph

/-- The names of a memo, the one finished first at the head. -/
def finished (memo : Memo) : List String := memo.map Prod.fst

@[simp] theorem finished_nil : finished [] = [] := rfl

@[simp] theorem finished_append (memo more : Memo) :
    finished (memo ++ more) = finished memo ++ finished more := by simp [finished]

@[simp] theorem finished_singleton (m : String) (d : Nat) : finished [(m, d)] = [m] := rfl

theorem mem_finished_snoc {memo : Memo} {m u : String} {d : Nat} :
    m ∈ finished (memo ++ [(u, d)]) ↔ m ∈ finished memo ∨ m = u := by simp

theorem lookup_eq_none_iff_finished {memo : Memo} {m : String} :
    memo.lookup m = none ↔ m ∉ finished memo := by
  simp only [List.lookup_eq_none_iff, finished, List.mem_map, not_exists, not_and]
  constructor
  · intro h p hp he
    simpa [he] using h p hp
  · intro h p hp
    exact bne_iff_ne.mpr fun he => h p hp he.symm

theorem mem_finished_of_lookup {memo : Memo} {m : String} {d : Nat} (h : memo.lookup m = some d) :
    m ∈ finished memo := List.mem_map_of_mem (mem_of_lookup h)

theorem depthIn_of_lookup {memo : Memo} {m : String} {d : Nat} (h : memo.lookup m = some d) :
    depthIn memo m = d := by simp [depthIn, h]

theorem depthIn_of_not_finished {memo : Memo} {m : String} (h : m ∉ finished memo) :
    depthIn memo m = 0 := by
  simp [depthIn, lookup_eq_none_iff_finished.mpr h]

theorem depthIn_append_of_finished {memo : Memo} {m : String} (h : m ∈ finished memo)
    (more : Memo) : depthIn (memo ++ more) m = depthIn memo m := by
  cases hl : memo.lookup m with
  | none => exact absurd h (lookup_eq_none_iff_finished.mp hl)
  | some d => simp [depthIn, List.lookup_append, hl]

theorem depthIn_append_self {memo : Memo} {u : String} (h : u ∉ finished memo) (d : Nat)
    (more : Memo) : depthIn (memo ++ (u, d) :: more) u = d := by
  simp [depthIn, List.lookup_append, lookup_eq_none_iff_finished.mpr h]

theorem depthIn_append_of_ne {memo : Memo} {u m : String} (h : m ≠ u) (d : Nat) :
    depthIn (memo ++ [(u, d)]) m = depthIn memo m := by
  have hb : (m == u) = false := beq_eq_false_iff_ne.mpr h
  simp [depthIn, List.lookup_append, List.lookup_cons, hb]

/-- The greatest depth that a memo has for some names; one that it lacks counts nothing. -/
def highest (memo : Memo) (ms : List String) : Nat :=
  ms.foldr (fun m n => max (depthIn memo m) n) 0

@[simp] theorem highest_nil (memo : Memo) : highest memo [] = 0 := rfl

@[simp] theorem highest_cons (memo : Memo) (m : String) (ms : List String) :
    highest memo (m :: ms) = max (depthIn memo m) (highest memo ms) := rfl

theorem highest_append (memo : Memo) (ms ns : List String) :
    highest memo (ms ++ ns) = max (highest memo ms) (highest memo ns) := by
  induction ms with
  | nil => simp
  | cons m ms ih => simp [ih, Nat.max_assoc]

theorem highest_congr {memo memo' : Memo} {ms : List String}
    (h : ∀ m ∈ ms, depthIn memo m = depthIn memo' m) : highest memo ms = highest memo' ms := by
  induction ms with
  | nil => rfl
  | cons m ms ih =>
    rw [highest_cons, highest_cons, h m (by simp), ih fun n hn => h n (by simp [hn])]

theorem le_highest {memo : Memo} {ms : List String} {m : String} (h : m ∈ ms) :
    depthIn memo m ≤ highest memo ms := by
  induction ms with
  | nil => simp at h
  | cons n ms ih =>
    rw [highest_cons]
    rcases List.mem_cons.mp h with rfl | h
    · omega
    · have := ih h
      omega

theorem exists_highest {memo : Memo} {ms : List String} (h : highest memo ms ≠ 0) :
    ∃ m ∈ ms, depthIn memo m = highest memo ms := by
  induction ms with
  | nil => simp at h
  | cons n ms ih =>
    rw [highest_cons] at h ⊢
    by_cases hle : highest memo ms ≤ depthIn memo n
    · exact ⟨n, by simp, by omega⟩
    · obtain ⟨m, hm, he⟩ := ih (by omega)
      exact ⟨m, by simp [hm], by omega⟩

theorem highest_filter_finished (memo : Memo) (ms : List String) :
    highest memo (ms.filter (· ∈ finished memo)) = highest memo ms := by
  induction ms with
  | nil => rfl
  | cons m ms ih =>
    by_cases hm : m ∈ finished memo
    · simp [hm, ih]
    · simp [hm, ih, depthIn_of_not_finished hm]

/-- Memos that a search can leave behind. -/
inductive Settled (g : CallGraph) : Memo → Prop
  | nil : Settled g []
  | snoc {memo : Memo} {u : String} (before : Settled g memo) (member : u ∈ g.members)
      (unfinished : u ∉ finished memo)
      (back : ∀ v, g.Calls u v → v ∉ finished memo → g.Reaches v u) :
      Settled g (memo ++ [(u, highest memo (g.callees u) + 1)])

namespace Settled

variable {g : CallGraph} {memo : Memo}

theorem nodup (h : Settled g memo) : (finished memo).Nodup := by
  induction h with
  | nil => simp
  | snoc before member unfinished back ih =>
    rw [finished_append, finished_singleton]
    exact List.nodup_append.mpr ⟨ih, by simp, by grind⟩

theorem mem_members (h : Settled g memo) {m : String} (hm : m ∈ finished memo) :
    m ∈ g.members := by
  induction h with
  | nil => simp at hm
  | snoc before member unfinished back ih =>
    rw [mem_finished_snoc] at hm
    rcases hm with hm | rfl
    · exact ih hm
    · exact member

/-- What was known when a name was finished is what stands before it in the memo. -/
theorem split (h : Settled g memo) {u : String} (hu : u ∈ finished memo) :
    ∃ before after, memo = before ++ (u, highest before (g.callees u) + 1) :: after ∧
      u ∉ finished before ∧ ∀ v, g.Calls u v → v ∉ finished before → g.Reaches v u := by
  induction h with
  | nil => simp at hu
  | @snoc memo w before member unfinished back ih =>
    rw [mem_finished_snoc] at hu
    rcases hu with hu | rfl
    · obtain ⟨pre, post, he, hpre⟩ := ih hu
      refine ⟨pre, post ++ [(w, highest memo (g.callees w) + 1)], ?_, hpre⟩
      rw [← List.cons_append, ← List.append_assoc, ← he]
    · exact ⟨memo, [], rfl, unfinished, back⟩

theorem depthIn_pos (h : Settled g memo) {u : String} (hu : u ∈ finished memo) :
    0 < depthIn memo u := by
  obtain ⟨before, after, he, hn, -⟩ := h.split hu
  rw [he, depthIn_append_self hn]
  omega

theorem exists_path (h : Settled g memo) {u : String} (hu : u ∈ finished memo) :
    ∃ path : List String, (u :: path).length = depthIn memo u ∧ (u :: path).IsChain g.Calls ∧
      (u :: path).Nodup ∧ ∀ m ∈ u :: path, m ∈ finished memo := by
  induction h generalizing u with
  | nil => simp at hu
  | @snoc memo w before member unfinished back ih =>
    rw [mem_finished_snoc] at hu
    rcases hu with hu | rfl
    · obtain ⟨path, hlen, hchain, hnodup, hmem⟩ := ih hu
      refine ⟨path, ?_, hchain, hnodup, fun m hm => ?_⟩
      · rw [hlen, depthIn_append_of_finished hu]
      · simp [hmem m hm]
    · -- the path keeps to names finished before `u`, so that `u` cannot come back on it
      rw [depthIn_append_self unfinished]
      by_cases hz : highest memo (g.callees u) = 0
      · exact ⟨[], by simp [hz], .singleton u, by simp, by simp⟩
      · obtain ⟨v, hv, hd⟩ := exists_highest hz
        have hvf : v ∈ finished memo := by
          by_contra hn
          rw [depthIn_of_not_finished hn] at hd
          exact hz hd.symm
        obtain ⟨path, hlen, hchain, hnodup, hmem⟩ := ih hvf
        refine ⟨v :: path, ?_, ?_, ?_, fun m hm => ?_⟩
        · rw [List.length_cons, hlen, hd]
        · exact hchain.cons_cons (calls_iff.mpr hv)
        · exact List.nodup_cons.mpr ⟨fun hm => unfinished (hmem u hm), hnodup⟩
        · rcases List.mem_cons.mp hm with rfl | hm
          · simp
          · simp [hmem m hm]

end Settled

end JavaSurvey.CallGraph
