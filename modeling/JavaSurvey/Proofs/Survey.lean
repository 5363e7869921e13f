import JavaSurvey.Inventory
import JavaSurvey.Proofs.CallGraph.Edges

/-!
Surveys as two views of the same sheets. The inventory keeps every method, the call graph drops calls
it has already; merging fills both side by side. The main statement is that nothing comes between
them: the graph is the one that the methods of the inventory give, in their order.
-/

set_option autoImplicit false

namespace JavaSurvey

namespace Inventory

def calls (inv : Inventory) : List (String × String) :=
  inv.methods.flatMap fun r => r.method.calls.map fun c => (r.qualifiedName, c.name)

theorem mem_calls {inv : Inventory} {q b : String} :
    (q, b) ∈ inv.calls ↔
      ∃ r ∈ inv.methods, r.qualifiedName = q ∧ ∃ c ∈ r.method.calls, c.name = b := by
  simp only [calls, List.mem_flatMap, List.mem_map, Prod.mk.injEq]
  grind

theorem methods_addClass (inv : Inventory) (info : ClassInfo) (lines : Int) :
    (inv.addClass info lines).methods =
      inv.methods ++ info.methods.map fun m => ⟨info.name, m⟩ := by
  simp [methods, addClass, list]

theorem classes_addPackage (inv : Inventory) (package : Option String) :
    (inv.addPackage package).classes = inv.classes := by
  cases package with
  | none => rfl
  | some p =>
    simp only [addPackage]
    split <;> rfl

theorem methods_addPackage (inv : Inventory) (package : Option String) :
    (inv.addPackage package).methods = inv.methods := by
  rw [methods, classes_addPackage, ← methods]

end Inventory

def Sheet.classes (sheet : Sheet) : List ClassInfo :=
  sheet.types.map fun t => ⟨t.name, t.methods, t.fieldCount, sheet.package⟩

namespace Survey

theorem classes_mergeTypes (package : Option String) (s : Survey) (ts : List TypeFacts) :
    ∃ new : List Listed,
      (ts.foldl (mergeType package) s).inventory.classes = s.inventory.classes ++ new ∧
      new.map Listed.info = ts.map fun t => ⟨t.name, t.methods, t.fieldCount, package⟩ := by
  induction ts generalizing s with
  | nil => exact ⟨[], by simp, rfl⟩
  | cons t ts ih =>
    obtain ⟨new, hnew, hinfo⟩ := ih (s.mergeType package t)
    refine ⟨⟨s.inventory.made, ⟨t.name, t.methods, t.fieldCount, package⟩⟩ :: new, ?_, ?_⟩
    · rw [List.foldl_cons, hnew]
      simp [mergeType, Inventory.addClass, Inventory.list]
    · rw [List.map_cons, List.map_cons, hinfo]

theorem classes_merge (s : Survey) (sheet : Sheet) :
    ∃ new : List Listed, (s.merge sheet).inventory.classes = s.inventory.classes ++ new ∧
      new.map Listed.info = sheet.classes := by
  obtain ⟨new, hnew, hinfo⟩ := classes_mergeTypes sheet.package
    { s with inventory := s.inventory.addPackage sheet.package } sheet.types
  exact ⟨new, by rwa [Inventory.classes_addPackage] at hnew, hinfo⟩

theorem classes_mergeAll (s : Survey) (sheets : List Sheet) :
    ∃ new : List Listed,
      (sheets.foldl merge s).inventory.classes = s.inventory.classes ++ new ∧
      new.map Listed.info = sheets.flatMap Sheet.classes := by
  induction sheets generalizing s with
  | nil => exact ⟨[], by simp, rfl⟩
  | cons sheet sheets ih =>
    obtain ⟨first, hfirst, hinfo⟩ := classes_merge s sheet
    obtain ⟨rest, hrest, hinfo'⟩ := ih (s.merge sheet)
    refine ⟨first ++ rest, ?_, ?_⟩
    · rw [List.foldl_cons, hrest, hfirst, List.append_assoc]
    · rw [List.map_append, hinfo, hinfo', List.flatMap_cons]

theorem calls_mergeType_inventory (package : Option String) (s : Survey) (t : TypeFacts) :
    (s.mergeType package t).inventory.calls = s.inventory.calls ++ callsOf t := by
  simp [mergeType, Inventory.calls, Inventory.methods_addClass, callsOf, List.flatMap_map,
    RankedMethod.qualifiedName]

/-- The graph holds the calls of the methods in the inventory, put in in their order. -/
def InStep (s : Survey) : Prop := s.calls = CallGraph.ofCalls s.inventory.calls

namespace InStep

theorem mergeType {s : Survey} (h : s.InStep) (package : Option String) (t : TypeFacts) :
    (s.mergeType package t).InStep := by
  rw [InStep, calls_mergeType_inventory, CallGraph.ofCalls, CallGraph.addCalls_append,
    ← CallGraph.ofCalls, ← h]
  rfl

theorem mergeTypes {s : Survey} (h : s.InStep) (package : Option String) (ts : List TypeFacts) :
    (ts.foldl (Survey.mergeType package) s).InStep := by
  induction ts generalizing s with
  | nil => exact h
  | cons t ts ih => exact ih (h.mergeType package t)

theorem merge {s : Survey} (h : s.InStep) (sheet : Sheet) : (s.merge sheet).InStep := by
  refine mergeTypes ?_ sheet.package sheet.types
  rw [InStep, Inventory.calls, Inventory.methods_addPackage]
  exact h

theorem mergeAll {s : Survey} (h : s.InStep) (sheets : List Sheet) :
    (sheets.foldl Survey.merge s).InStep := by
  induction sheets generalizing s with
  | nil => exact h
  | cons sheet sheets ih => exact ih (h.merge sheet)

end InStep

/-- The call graph of merged sheets can be read off their inventory. A caller is the qualified name
of a method with a call in it, and under one name stand the calls of all methods of that name. -/
theorem calls_of_merged_sheets (sheets : List Sheet) :
    let s := sheets.foldl merge {}
    s.calls = CallGraph.ofCalls s.inventory.calls ∧
      (∀ q b, b ∈ s.calls.callees q ↔
        ∃ r ∈ s.inventory.methods, r.qualifiedName = q ∧ ∃ c ∈ r.method.calls, c.name = b) ∧
      ∀ q, q ∈ s.calls.callers ↔
        ∃ r ∈ s.inventory.methods, r.qualifiedName = q ∧ r.method.calls ≠ [] := by
  intro s
  have hs : s.calls = CallGraph.ofCalls s.inventory.calls :=
    InStep.mergeAll (s := {}) rfl sheets
  have hcallees : ∀ q b, s.calls.Calls q b ↔
      ∃ r ∈ s.inventory.methods, r.qualifiedName = q ∧ ∃ c ∈ r.method.calls, c.name = b := by
    intro q b
    rw [hs, CallGraph.calls_ofCalls, Inventory.mem_calls]
  refine ⟨hs, fun q b => ?_, fun q => ?_⟩
  · rw [← CallGraph.calls_iff, hcallees]
  · simp only [CallGraph.mem_callers_iff, hcallees]
    constructor
    · rintro ⟨b, r, hr, hq, c, hc, -⟩
      exact ⟨r, hr, hq, List.ne_nil_of_mem hc⟩
    · rintro ⟨r, hr, hq, hne⟩
      obtain ⟨c, hc⟩ := List.exists_mem_of_ne_nil _ hne
      exact ⟨c.name, r, hr, hq, c, hc, rfl⟩

end Survey

end JavaSurvey
