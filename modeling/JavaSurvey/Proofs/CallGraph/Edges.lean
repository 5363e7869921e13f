import JavaSurvey.CallGraph.Basic
import Mathlib.Data.List.Nodup
import Mathlib.Logic.Relation

set_option autoImplicit false

namespace JavaSurvey.CallGraph

def Calls (g : CallGraph) (a b : String) : Prop := (a, b) ∈ g.edges

/-- There is a chain of calls from `a` to `b`, which has no call in it if they are one. -/
def Reaches (g : CallGraph) : String → String → Prop := Relation.ReflTransGen g.Calls

theorem mem_of_lookup {α : Type} {rows : List (String × α)} {a : String} {x : α}
    (h : rows.lookup a = some x) : (a, x) ∈ rows := by
  obtain ⟨before, after, he, _⟩ := List.lookup_eq_some_iff.mp h
  simp [he]

theorem lookup_of_mem {α : Type} {rows : List (String × α)} (hn : (rows.map Prod.fst).Nodup)
    {a : String} {x : α} (h : (a, x) ∈ rows) : rows.lookup a = some x := by
  obtain ⟨before, after, rfl⟩ := List.append_of_mem h
  refine List.lookup_eq_some_iff.mpr ⟨before, after, rfl, fun p hp => ?_⟩
  rw [List.map_append] at hn
  have hne : p.1 ≠ a := (List.nodup_append.mp hn).2.2 _ (List.mem_map_of_mem hp) a (by simp)
  simpa using hne.symm

theorem callees_of_mem_rows {g : CallGraph} {r : CallRow} (h : r ∈ g.rows) :
    g.callees r.1 = r.2 := by
  rw [callees, lookup_of_mem g.callers_nodup h]
  rfl

theorem mem_rows_of_mem_callees {g : CallGraph} {a b : String} (h : b ∈ g.callees a) :
    (a, g.callees a) ∈ g.rows := by
  unfold callees at h ⊢
  cases hl : g.rows.lookup a with
  | none => simp [hl] at h
  | some bs => exact mem_of_lookup hl

theorem calls_iff {g : CallGraph} {a b : String} : g.Calls a b ↔ b ∈ g.callees a := by
  simp only [Calls, edges, List.mem_flatMap, List.mem_map, Prod.mk.injEq]
  constructor
  · rintro ⟨r, hr, c, hc, rfl, rfl⟩
    rwa [callees_of_mem_rows hr]
  · intro h
    exact ⟨_, mem_rows_of_mem_callees h, b, h, rfl, rfl⟩

theorem mem_callers_iff {g : CallGraph} {a : String} : a ∈ g.callers ↔ ∃ b, g.Calls a b := by
  simp only [callers, List.mem_map, calls_iff]
  constructor
  · rintro ⟨r, hr, rfl⟩
    rw [callees_of_mem_rows hr]
    exact List.exists_mem_of_ne_nil _ (g.callees_ne_nil r hr)
  · rintro ⟨b, h⟩
    exact ⟨_, mem_rows_of_mem_callees h, rfl⟩

theorem callees_of_not_caller {g : CallGraph} {m : String} (hm : m ∉ g.callers) :
    g.callees m = [] := by
  refine List.eq_nil_iff_forall_not_mem.mpr fun b hb => hm ?_
  exact mem_callers_iff.mpr ⟨b, calls_iff.mpr hb⟩

theorem nodup_callees (g : CallGraph) (a : String) : (g.callees a).Nodup := by
  rw [callees]
  cases hl : g.rows.lookup a with
  | none => exact .nil
  | some bs => exact g.callees_nodup _ (mem_of_lookup hl)

theorem mem_callersOf {g : CallGraph} {a m : String} : a ∈ g.callersOf m ↔ g.Calls a m := by
  simp only [callersOf, List.mem_map, List.mem_filter, decide_eq_true_eq, calls_iff]
  constructor
  · rintro ⟨r, ⟨hr, hm⟩, rfl⟩
    rwa [callees_of_mem_rows hr]
  · intro hm
    exact ⟨_, ⟨mem_rows_of_mem_callees hm, hm⟩, rfl⟩

theorem nodup_callersOf (g : CallGraph) (m : String) : (g.callersOf m).Nodup :=
  g.callers_nodup.sublist (List.filter_sublist.map Prod.fst)

theorem mem_fresh {seen bs : List String} {b : String} :
    b ∈ fresh seen bs ↔ b ∈ bs ∧ b ∉ seen := by
  induction bs generalizing seen with
  | nil => simp [fresh]
  | cons c bs ih =>
    simp only [fresh]
    split
    · rename_i hc
      rw [ih]
      grind
    · rw [List.mem_cons, ih]
      grind

theorem nodup_fresh (seen bs : List String) : (fresh seen bs).Nodup := by
  induction bs generalizing seen with
  | nil => simp [fresh]
  | cons b bs ih =>
    simp only [fresh]
    split
    · exact ih seen
    · have hb : b ∉ fresh (b :: seen) bs := fun h => (mem_fresh.mp h).2 (by simp)
      exact List.nodup_cons.mpr ⟨hb, ih (b :: seen)⟩

theorem nodup_members (g : CallGraph) : g.members.Nodup := by
  refine List.nodup_append.mpr ⟨g.callers_nodup, nodup_fresh _ _, ?_⟩
  rintro a ha b hb rfl
  exact (mem_fresh.mp hb).2 ha

theorem mem_members_iff {g : CallGraph} {m : String} :
    m ∈ g.members ↔ ∃ a, g.Calls m a ∨ g.Calls a m := by
  have hc : m ∈ g.rows.flatMap Prod.snd ↔ ∃ a, g.Calls a m := by
    simp only [Calls, edges, List.mem_flatMap, List.mem_map, Prod.mk.injEq]
    grind
  simp only [members, List.mem_append, mem_fresh, hc, mem_callers_iff]
  grind

theorem mem_members_of_mem_callers {g : CallGraph} {m : String} (h : m ∈ g.callers) :
    m ∈ g.members := List.mem_append_left _ h

theorem Reaches.mem_callers {g : CallGraph} {a b : String} (h : g.Reaches a b)
    (hb : b ∈ g.callers) : a ∈ g.callers := by
  rcases Relation.ReflTransGen.cases_head h with rfl | ⟨c, hc, _⟩
  · exact hb
  · exact mem_callers_iff.mpr ⟨c, hc⟩

theorem lookup_insert (a b x : String) (rows : List CallRow) :
    (CallRow.insert a b rows).lookup x =
      if x = a then
        some (let bs := (rows.lookup a).getD []
          if b ∈ bs then bs else bs ++ [b])
      else rows.lookup x := by
  induction rows with
  | nil =>
    by_cases hx : x = a
    · simp [CallRow.insert, hx]
    · simp [CallRow.insert, List.lookup_cons, hx, beq_eq_false_iff_ne.mpr hx]
  | cons r rows ih =>
    obtain ⟨c, bs⟩ := r
    by_cases hc : c = a
    · subst hc
      by_cases hx : x = c
      · simp [CallRow.insert, hx]
      · simp [CallRow.insert, List.lookup_cons, hx, beq_eq_false_iff_ne.mpr hx]
    · have hac : (a == c) = false := beq_eq_false_iff_ne.mpr fun he => hc he.symm
      simp only [CallRow.insert, hc, ↓reduceIte, List.lookup_cons, ih, hac]
      by_cases hx : x = c
      · subst hx
        simp [hc]
      · simp [beq_eq_false_iff_ne.mpr hx]

theorem callees_addCall (g : CallGraph) (a b x : String) :
    (g.addCall a b).callees x =
      if x = a ∧ b ∉ g.callees a then g.callees a ++ [b] else g.callees x := by
  simp only [callees, addCall, lookup_insert]
  grind

theorem calls_addCall {g : CallGraph} {a b x y : String} :
    (g.addCall a b).Calls x y ↔ g.Calls x y ∨ (x = a ∧ y = b) := by
  simp only [calls_iff, callees_addCall]
  grind

theorem calls_addCalls {g : CallGraph} {calls : List (String × String)} {x y : String} :
    (g.addCalls calls).Calls x y ↔ g.Calls x y ∨ (x, y) ∈ calls := by
  induction calls generalizing g with
  | nil => simp [addCalls]
  | cons c calls ih =>
    obtain ⟨a, b⟩ := c
    rw [addCalls, List.foldl_cons, ← addCalls, ih, calls_addCall]
    grind

theorem calls_ofCalls {calls : List (String × String)} {x y : String} :
    (ofCalls calls).Calls x y ↔ (x, y) ∈ calls := by
  rw [ofCalls, calls_addCalls]
  simp [Calls, edges, empty]

theorem length_edges (g : CallGraph) : g.edges.length = g.edgeCount := by
  rw [edges, edgeCount]
  induction g.rows with
  | nil => rfl
  | cons r rows ih => simp [ih]

theorem nodup_edges (g : CallGraph) : g.edges.Nodup := by
  rw [edges, List.nodup_flatMap]
  refine ⟨fun r hr => ?_, ?_⟩
  · exact (g.callees_nodup r hr).map fun b c h => (Prod.mk.inj h).2
  · refine (List.pairwise_map.mp g.callers_nodup).imp fun {r q} hne e hr hq => hne ?_
    obtain ⟨b, -, rfl⟩ := List.mem_map.mp hr
    obtain ⟨c, -, he⟩ := List.mem_map.mp hq
    exact (Prod.mk.inj he).1.symm

theorem addCalls_append (g : CallGraph) (calls more : List (String × String)) :
    g.addCalls (calls ++ more) = (g.addCalls calls).addCalls more := List.foldl_append

end JavaSurvey.CallGraph
