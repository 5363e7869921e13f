import JavaSurvey.Proofs.CallGraph.Alike
import JavaSurvey.Proofs.Totals

set_option autoImplicit false

namespace JavaSurvey

def SameKeys {α : Type} (key : α → Int) (xs ys : List α) : Prop :=
  xs.map key = ys.map key ∧ (xs.map key).Pairwise fun m n => n ≤ m

theorem sameKeys_topDecile {α : Type} {key : α → Int} {xs ys : List α}
    (h : (xs.map key).Perm (ys.map key)) : SameKeys key (topDecile key xs) (topDecile key ys) :=
  ⟨keys_topDecile_eq h, descending_topDecile xs⟩

namespace Inventory

theorem largest_eq_max? (ns : List Int) : largest ns = ns.max?.getD 0 := by cases ns <;> rfl

theorem largest_perm {ms ns : List Int} (h : ms.Perm ns) : largest ms = largest ns := by
  have hmax : ms.max? = ns.max? := by
    refine Option.ext fun n => ?_
    rw [List.max?_eq_some_iff, List.max?_eq_some_iff, h.mem_iff]
    simp only [h.mem_iff]
  rw [largest_eq_max?, largest_eq_max?, hmax]

theorem keys_perm {β : Type} {cs ds : List Listed}
    (h : (cs.map Listed.info).Perm (ds.map Listed.info)) (key : ClassInfo → β) :
    (cs.map fun c => key c.info).Perm (ds.map fun c => key c.info) := by
  have hkeys := h.map key
  rwa [List.map_map, List.map_map] at hkeys

structure Reordered (inv inv' : Inventory) : Prop where
  classes : (inv.classes.map Listed.info).Perm (inv'.classes.map Listed.info)
  packages : inv.packages.Perm inv'.packages
  totalLines : inv.totalLines = inv'.totalLines
  totalMethods : inv.totalMethods = inv'.totalMethods
  totalAttributes : inv.totalAttributes = inv'.totalAttributes

theorem methods_eq_flatMap (inv : Inventory) :
    inv.methods = (inv.classes.map Listed.info).flatMap fun c => c.methods.map fun m => ⟨c.name, m⟩ := by
  rw [List.flatMap_map]
  rfl

namespace Reordered

variable {inv inv' : Inventory}

theorem methods (h : Reordered inv inv') : inv.methods.Perm inv'.methods := by
  rw [methods_eq_flatMap, methods_eq_flatMap]
  exact h.classes.flatMap_right _

theorem classCount (h : Reordered inv inv') : inv.classCount = inv'.classCount := by
  simpa [Inventory.classCount] using h.classes.length_eq

theorem maxParameterCount (h : Reordered inv inv') :
    inv.maxParameterCount = inv'.maxParameterCount :=
  largest_perm (h.methods.map _)

theorem withAtLeast (h : Reordered inv inv') (n : Nat) :
    ((inv.withAtLeast n).map Listed.info).Perm ((inv'.withAtLeast n).map Listed.info) := by
  have hmap : ∀ i : Inventory, (i.withAtLeast n).map Listed.info =
      (i.classes.map Listed.info).filter fun c => decide (n ≤ c.methodCount) := by
    intro i
    rw [List.filter_map]
    rfl
  rw [hmap, hmap]
  exact h.classes.filter _

theorem calls (h : Reordered inv inv') : inv.calls.Perm inv'.calls := h.methods.flatMap_right _

end Reordered

end Inventory

namespace Survey

theorem infos_mergeAll (sheets : List Sheet) :
    (sheets.foldl merge {}).inventory.classes.map Listed.info = sheets.flatMap Sheet.classes := by
  obtain ⟨new, hnew, hinfo⟩ := classes_mergeAll {} sheets
  rw [hnew, ← hinfo]
  rfl

theorem reordered_of_perm {xs ys : List Sheet} (h : xs.Perm ys) :
    (xs.foldl merge {}).inventory.Reordered (ys.foldl merge {}).inventory := by
  have hx := (reached_sheets xs).tallied
  have hy := (reached_sheets ys).tallied
  have hacts : (xs.map Act.sheet).Perm (ys.map Act.sheet) := h.map _
  have hclasses : ((xs.foldl merge {}).inventory.classes.map Listed.info).Perm
      ((ys.foldl merge {}).inventory.classes.map Listed.info) := by
    rw [infos_mergeAll, infos_mergeAll]
    exact h.flatMap_right _
  refine ⟨hclasses, ?_, ?_, ?_, ?_⟩
  · refine (List.perm_ext_iff_of_nodup hx.nodup hy.nodup).mpr fun p => ?_
    rw [hx.mem_packages, hy.mem_packages]
    exact (hacts.flatMap_right Act.packages).mem_iff
  · rw [hx.lines, hy.lines]
    exact (hacts.flatMap_right Act.lines).sum_eq
  · rw [hx.methods, hy.methods]
    exact (Inventory.keys_perm hclasses ClassInfo.methodCount).sum_eq
  · rw [hx.attributes, hy.attributes]
    exact (Inventory.keys_perm hclasses ClassInfo.attributeCount).sum_eq

theorem alike_of_perm {xs ys : List Sheet} (h : xs.Perm ys) :
    (xs.foldl merge {}).calls.Alike (ys.foldl merge {}).calls := by
  intro a b
  rw [InStep.mergeAll (s := {}) rfl xs, InStep.mergeAll (s := {}) rfl ys,
    CallGraph.calls_ofCalls, CallGraph.calls_ofCalls]
  exact (reordered_of_perm h).calls.mem_iff

/-- What two surveys have in common if only the order of their sheets differs. -/
structure Agree (s t : Survey) : Prop where
  packages : s.inventory.packages.Perm t.inventory.packages
  classCount : s.inventory.classCount = t.inventory.classCount
  totalLines : s.inventory.totalLines = t.inventory.totalLines
  totalMethods : s.inventory.totalMethods = t.inventory.totalMethods
  totalAttributes : s.inventory.totalAttributes = t.inventory.totalAttributes
  averageMethodsPerClass :
    s.inventory.averageMethodsPerClass = t.inventory.averageMethodsPerClass
  averageLinesPerMethod :
    s.inventory.averageLinesPerMethod = t.inventory.averageLinesPerMethod
  averageAttributesPerClass :
    s.inventory.averageAttributesPerClass = t.inventory.averageAttributesPerClass
  maxParameterCount : s.inventory.maxParameterCount = t.inventory.maxParameterCount
  classes : (s.inventory.classes.map Listed.info).Perm (t.inventory.classes.map Listed.info)
  same : s.calls.same t.calls = true
  minMethods : ∀ v n, Threshold.parse v = .ok n → ∃ cs ds,
    s.inventory.classesWithMinMethods v = .ok cs ∧ t.inventory.classesWithMinMethods v = .ok ds ∧
      (cs.map Listed.info).Perm (ds.map Listed.info)
  byMethods : SameKeys (fun c : Listed => (c.info.methodCount : Int))
    s.inventory.topClassesByMethods t.inventory.topClassesByMethods
  byAttributes : SameKeys (fun c : Listed => c.info.attributeCount)
    s.inventory.topClassesByAttributes t.inventory.topClassesByAttributes
  byLength : SameKeys (fun m : RankedMethod => m.method.lineCount)
    s.inventory.topMethodsByLength t.inventory.topMethodsByLength
  mostCalled : (s.calls.mostCalled.map fun m => (s.calls.callersOf m).length) =
    t.calls.mostCalled.map fun m => (t.calls.callersOf m).length
  maxDepth : s.calls.Acyclic → s.calls.maxDepth = t.calls.maxDepth

/-- The order of the sheets changes no figure, no key of a ranking and no set. -/
theorem agree_of_perm_sheets {xs ys : List Sheet} (h : xs.Perm ys) :
    (xs.foldl merge {}).Agree (ys.foldl merge {}) := by
  have hinv := reordered_of_perm h
  have hcalls := alike_of_perm h
  have hcount := hinv.classCount
  refine
    { packages := hinv.packages
      classCount := hcount
      totalLines := hinv.totalLines
      totalMethods := hinv.totalMethods
      totalAttributes := hinv.totalAttributes
      averageMethodsPerClass := ?_
      averageLinesPerMethod := ?_
      averageAttributesPerClass := ?_
      maxParameterCount := hinv.maxParameterCount
      classes := hinv.classes
      same := CallGraph.same_iff_alike.mpr hcalls
      minMethods := fun v n hv => ?_
      byMethods := sameKeys_topDecile (Inventory.keys_perm hinv.classes fun c => (c.methodCount : Int))
      byAttributes := sameKeys_topDecile (Inventory.keys_perm hinv.classes ClassInfo.attributeCount)
      byLength := sameKeys_topDecile (hinv.methods.map _)
      mostCalled := hcalls.count_mostCalled
      maxDepth := hcalls.maxDepth_eq }
  · rw [Inventory.averageMethodsPerClass, hinv.totalMethods, hcount]
    rfl
  · rw [Inventory.averageLinesPerMethod, hinv.totalLines, hinv.totalMethods]
    rfl
  · rw [Inventory.averageAttributesPerClass, hinv.totalAttributes, hcount]
    rfl
  · refine ⟨_, _, ?_, ?_, hinv.withAtLeast n⟩
    · rw [Inventory.classesWithMinMethods, hv]
      rfl
    · rw [Inventory.classesWithMinMethods, hv]
      rfl

theorem agree_of_swapped_sheets :
    let a : Sheet := { package := some "p", types :=
      [{ name := "A", methods := [{ name := "f", calls := [{ name := "g" }] }] }] }
    let b : Sheet := { types :=
      [{ name := "B", methods := [{ name := "f", calls := [{ name := "A.f" }] }] }] }
    let s := [a, b].foldl merge {}
    let t := [b, a].foldl merge {}
    [a, b].Perm [b, a] ∧ s.Agree t ∧ s.calls.Acyclic ∧ s.calls.maxDepth = 3 ∧
      t.calls.maxDepth = 3 := by
  intro a b s t
  have hswap : [a, b].Perm [b, a] := .swap b a []
  have hagree : s.Agree t := agree_of_perm_sheets hswap
  have hacyclic : s.calls.Acyclic :=
    CallGraph.acyclic_of_rank (fun m => if m = "B.f" then 2 else if m = "A.f" then 1 else 0)
      (by decide)
  have hdepth : s.calls.maxDepth = 3 := by decide
  exact ⟨hswap, hagree, hacyclic, hdepth, (hagree.maxDepth hacyclic).symm.trans hdepth⟩

end Survey

end JavaSurvey
