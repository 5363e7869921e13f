/-!
Call graphs: callers in the order of their first call, each with its callees in the order of their
first call under it. A caller is named `Class.method`, a callee by the simple name at the call, so
that methods of one name are one callee. Cycles are allowed.
-/

set_option autoImplicit false

namespace JavaSurvey

abbrev CallRow := String × List String

namespace CallRow

/-- `b` at the end of the row of `a`, if it is not in it; a new row at the end if there is none. -/
def insert (a b : String) : List CallRow → List CallRow
  | [] => [(a, [b])]
  | (c, bs) :: rows =>
    if c = a then (c, if b ∈ bs then bs else bs ++ [b]) :: rows else (c, bs) :: insert a b rows

theorem mem_insert {a b : String} {rows : List CallRow} {r : CallRow} (h : r ∈ insert a b rows) :
    r ∈ rows ∨ r = (a, [b]) ∨ ∃ bs, (a, bs) ∈ rows ∧ r = (a, if b ∈ bs then bs else bs ++ [b]) := by
  induction rows with
  | nil => simp_all [insert]
  | cons q rows ih =>
    obtain ⟨c, bs⟩ := q
    simp only [insert] at h
    split at h
    · rename_i hc
      subst hc
      rcases List.mem_cons.mp h with rfl | h
      · exact .inr (.inr ⟨bs, by simp, rfl⟩)
      · exact .inl (by simp [h])
    · rcases List.mem_cons.mp h with rfl | h
      · exact .inl (by simp)
      · rcases ih h with h | h | ⟨bs', hb, rfl⟩
        · exact .inl (by simp [h])
        · exact .inr (.inl h)
        · exact .inr (.inr ⟨bs', by simp [hb], rfl⟩)

theorem map_fst_insert (a b : String) (rows : List CallRow) :
    (insert a b rows).map Prod.fst =
      if a ∈ rows.map Prod.fst then rows.map Prod.fst else rows.map Prod.fst ++ [a] := by
  induction rows with
  | nil => simp [insert]
  | cons q rows ih =>
    obtain ⟨c, bs⟩ := q
    simp only [insert]
    by_cases hc : c = a
    · simp [hc]
    · have hc' : ¬ a = c := fun h => hc h.symm
      simp only [hc, ↓reduceIte, List.map_cons, ih, List.mem_cons, hc', false_or]
      split <;> simp

end CallRow

structure CallGraph where
  rows : List CallRow
  callers_nodup : (rows.map Prod.fst).Nodup
  callees_nodup : ∀ r ∈ rows, r.2.Nodup
  callees_ne_nil : ∀ r ∈ rows, r.2 ≠ []

namespace CallGraph

def empty : CallGraph := ⟨[], by simp, by simp, by simp⟩

instance : Inhabited CallGraph := ⟨empty⟩

def addCall (g : CallGraph) (caller callee : String) : CallGraph where
  rows := CallRow.insert caller callee g.rows
  callers_nodup := by
    rw [CallRow.map_fst_insert]
    split
    · exact g.callers_nodup
    · rename_i h
      exact List.nodup_append.mpr ⟨g.callers_nodup, by simp, by
        intro x hx y hy
        simp only [List.mem_singleton] at hy
        subst hy
        exact fun he => h (he ▸ hx)⟩
  callees_nodup := by
    intro r hr
    rcases CallRow.mem_insert hr with h | rfl | ⟨bs, h, rfl⟩
    · exact g.callees_nodup r h
    · simp
    · have hb := g.callees_nodup _ h
      simp only
      split
      · exact hb
      · rename_i hn
        exact List.nodup_append.mpr ⟨hb, by simp, by
          intro x hx y hy
          simp only [List.mem_singleton] at hy
          subst hy
          exact fun he => hn (he ▸ hx)⟩
  callees_ne_nil := by
    intro r hr
    rcases CallRow.mem_insert hr with h | rfl | ⟨bs, h, rfl⟩
    · exact g.callees_ne_nil r h
    · simp
    · have hb := g.callees_ne_nil _ h
      simp only
      split
      · exact hb
      · simp

def addCalls (g : CallGraph) (calls : List (String × String)) : CallGraph :=
  calls.foldl (fun g c => g.addCall c.1 c.2) g

def ofCalls (calls : List (String × String)) : CallGraph := empty.addCalls calls

def callers (g : CallGraph) : List String := g.rows.map Prod.fst

def callees (g : CallGraph) (m : String) : List String := (g.rows.lookup m).getD []

def callersOf (g : CallGraph) (m : String) : List String :=
  (g.rows.filter (m ∈ ·.2)).map Prod.fst

def edges (g : CallGraph) : List (String × String) :=
  g.rows.flatMap fun r => r.2.map fun b => (r.1, b)

def edgeCount (g : CallGraph) : Nat := g.rows.foldr (fun r n => r.2.length + n) 0

def isEmpty (g : CallGraph) : Bool := g.rows.isEmpty

/-- The names of `bs` that are not in `seen`, each once, in order. -/
def fresh (seen : List String) : List String → List String
  | [] => []
  | b :: bs => if b ∈ seen then fresh seen bs else b :: fresh (b :: seen) bs

/-- All names: the callers, then the other callees in the order of their first call. -/
def members (g : CallGraph) : List String :=
  g.callers ++ fresh g.callers (g.rows.flatMap Prod.snd)

/-- The same rows in any order, each with the same callees in any order. -/
def same (g h : CallGraph) : Bool :=
  g.rows.length == h.rows.length &&
    g.rows.all fun r =>
      match h.rows.lookup r.1 with
      | some bs => r.2.length == bs.length && r.2.all (· ∈ bs)
      | none => false

def describe (g : CallGraph) : String :=
  s!"CallGraph(callers={g.rows.length}, edges={g.edgeCount})"

end CallGraph

end JavaSurvey
