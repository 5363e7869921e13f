import JavaSurvey.Proofs.Ranking
import JavaSurvey.Proofs.Survey
import Mathlib.Algebra.Order.Ring.Int
import Mathlib.Data.List.Dedup
import Mathlib.Data.List.Induction

/-!
Running totals. An inventory adds to its totals when a class is listed and never counts again, while
rankings and averages go through the lists. `Reached` are the surveys that can come up as long as no
class grows after it was listed; in all of them both views agree.
-/

set_option autoImplicit false

namespace JavaSurvey

namespace Survey

inductive Act where
  | make (info : ClassInfo) (lines : Int)
  | again (tag : Nat) (lines : Int)
  | package (name : Option String)
  | sheet (sheet : Sheet)
  deriving DecidableEq, Repr

def packageNames (package : Option String) : List String := package.toList.filter (· ≠ "")

namespace Act

def lines : Act → List Int
  | make _ n | again _ n => [n]
  | package _ => []
  | sheet s => s.types.map TypeFacts.lineCount

def packages : Act → List String
  | make _ _ | again _ _ => []
  | package name => packageNames name
  | sheet s => packageNames s.package

/-- For every class that is made, the sheet it comes from. -/
def origins : Act → List (Option Sheet)
  | make _ _ => [none]
  | again _ _ | package _ => []
  | sheet s => s.types.map fun _ => some s

theorem eq_sheet_of_origin {act : Act} {s : Sheet} (h : some s ∈ act.origins) : act = .sheet s := by
  cases act with
  | make | again | package => simp [origins] at h
  | sheet s' => simp_all [origins]

end Act

/-- The surveys that acts can lead to from the empty one. Only a class that is listed already can be
listed again. -/
inductive Reached : List Act → Survey → Prop
  | empty : Reached [] {}
  | make {acts : List Act} {s : Survey} (before : Reached acts s) (info : ClassInfo) (n : Int) :
      Reached (acts ++ [.make info n]) { s with inventory := s.inventory.addClass info n }
  | again {acts : List Act} {s : Survey} (before : Reached acts s) {c : Listed}
      (listed : c ∈ s.inventory.classes) (n : Int) :
      Reached (acts ++ [.again c.tag n]) { s with inventory := s.inventory.addAgain c.tag n }
  | package {acts : List Act} {s : Survey} (before : Reached acts s) (name : Option String) :
      Reached (acts ++ [.package name]) { s with inventory := s.inventory.addPackage name }
  | sheet {acts : List Act} {s : Survey} (before : Reached acts s) (sheet : Sheet) :
      Reached (acts ++ [.sheet sheet]) (s.merge sheet)

theorem reached_sheets (sheets : List Sheet) :
    Reached (sheets.map .sheet) (sheets.foldl Survey.merge {}) := by
  induction sheets using List.reverseRecOn with
  | nil => exact .empty
  | append_singleton sheets sheet ih =>
    rw [List.map_append, List.foldl_append]
    exact ih.sheet sheet

end Survey

open Survey (Act packageNames)

/-- An inventory whose totals are those of the classes in it, of the line counts `lines` and of the
package names `names`. The class of tag `n` was made from `origins[n]`. -/
structure Inventory.Tallied (inv : Inventory) (lines : List Int) (names : List String)
    (origins : List (Option Sheet)) : Prop where
  methods : inv.totalMethods = (inv.classes.map (·.info.methodCount)).sum
  attributes : inv.totalAttributes = (inv.classes.map (·.info.attributeCount)).sum
  lines : inv.totalLines = lines.sum
  nodup : inv.packages.Nodup
  mem_packages : ∀ p, p ∈ inv.packages ↔ p ∈ names
  made : inv.made = origins.length
  tag_lt : ∀ c ∈ inv.classes, c.tag < origins.length
  origin : ∀ c ∈ inv.classes, ∀ sheet, origins[c.tag]? = some (some sheet) → c.info ∈ sheet.classes

namespace Inventory.Tallied

variable {inv : Inventory} {lines : List Int} {names : List String} {origins : List (Option Sheet)}

theorem list (h : inv.Tallied lines names origins) {c : Listed} (hc : c.tag < origins.length)
    (ho : ∀ sheet, origins[c.tag]? = some (some sheet) → c.info ∈ sheet.classes) (n : Int) :
    (inv.list c n).Tallied (lines ++ [n]) names origins where
  methods := by simp [Inventory.list, h.methods]
  attributes := by simp [Inventory.list, h.attributes]
  lines := by simp [Inventory.list, h.lines]
  nodup := h.nodup
  mem_packages := h.mem_packages
  made := h.made
  tag_lt := by
    intro d hd
    rcases List.mem_append.mp hd with hd | hd
    · exact h.tag_lt d hd
    · simpa [List.mem_singleton.mp hd] using hc
  origin := by
    intro d hd
    rcases List.mem_append.mp hd with hd | hd
    · exact h.origin d hd
    · simpa [List.mem_singleton.mp hd] using ho

theorem grow (h : inv.Tallied lines names origins) (o : Option Sheet) :
    ({ inv with made := inv.made + 1 } : Inventory).Tallied lines names (origins ++ [o]) where
  methods := h.methods
  attributes := h.attributes
  lines := h.lines
  nodup := h.nodup
  mem_packages := h.mem_packages
  made := by simp [h.made]
  tag_lt := by
    intro c hc
    have hlt := h.tag_lt c hc
    simp only [List.length_append, List.length_singleton]
    omega
  origin := by
    intro c hc sheet hs
    rw [List.getElem?_append_left (h.tag_lt c hc)] at hs
    exact h.origin c hc sheet hs

theorem addClass (h : inv.Tallied lines names origins) {info : ClassInfo} {o : Option Sheet}
    (ho : ∀ sheet ∈ o, info ∈ sheet.classes) (n : Int) :
    (inv.addClass info n).Tallied (lines ++ [n]) names (origins ++ [o]) := by
  have hgrow := h.grow o
  refine hgrow.list (c := ⟨inv.made, info⟩) ?_ (fun sheet hs => ?_) n
  · simp [h.made]
  · refine ho sheet ?_
    simpa [h.made] using hs

theorem addAgain (h : inv.Tallied lines names origins) {c : Listed} (hc : c ∈ inv.classes)
    (n : Int) : (inv.addAgain c.tag n).Tallied (lines ++ [n]) names origins := by
  have hfind : (inv.classes.find? (·.tag == c.tag)).isSome := by
    rw [List.find?_isSome]
    exact ⟨c, hc, beq_self_eq_true _⟩
  obtain ⟨d, hd⟩ := Option.isSome_iff_exists.mp hfind
  have hmem : d ∈ inv.classes := List.mem_of_find?_eq_some hd
  rw [Inventory.addAgain, hd]
  exact h.list (h.tag_lt d hmem) (h.origin d hmem) n

theorem addPackage (h : inv.Tallied lines names origins) (package : Option String) :
    (inv.addPackage package).Tallied lines (names ++ packageNames package) origins := by
  -- only the packages can change, so that what is left to show is about them
  have hkeep : ∀ ps : List String, ps.Nodup → (∀ p, p ∈ ps ↔ p ∈ names ++ packageNames package) →
      ({ inv with packages := ps } : Inventory).Tallied lines (names ++ packageNames package)
        origins :=
    fun ps hn hm => { h with nodup := hn, mem_packages := hm }
  cases package with
  | none => exact hkeep _ h.nodup (by simp [packageNames, h.mem_packages])
  | some p =>
    by_cases hp : p = "" ∨ p ∈ inv.packages
    · rw [Inventory.addPackage, if_pos hp]
      refine hkeep _ h.nodup fun q => ?_
      have hq := h.mem_packages q
      simp only [packageNames, Option.toList_some, List.mem_append, List.mem_filter,
        List.mem_singleton, decide_eq_true_eq]
      grind
    · rw [Inventory.addPackage, if_neg hp]
      obtain ⟨hne, hnew⟩ := not_or.mp hp
      refine hkeep _ (List.nodup_append.mpr ⟨h.nodup, by simp, by grind⟩) fun q => ?_
      simp [packageNames, hne, h.mem_packages]

theorem mergeTypes {s : Survey} (h : s.inventory.Tallied lines names origins) {sheet : Sheet}
    (ts : List TypeFacts) (hts : ∀ t ∈ ts, t ∈ sheet.types) :
    (ts.foldl (Survey.mergeType sheet.package) s).inventory.Tallied
      (lines ++ ts.map TypeFacts.lineCount) names (origins ++ ts.map fun _ => some sheet) := by
  induction ts generalizing s lines origins with
  | nil => simpa using h
  | cons t ts ih =>
    have hfrom : ∀ o ∈ some sheet,
        (⟨t.name, t.methods, t.fieldCount, sheet.package⟩ : ClassInfo) ∈ o.classes := by
      rintro o ⟨⟩
      exact List.mem_map_of_mem (hts t (by simp))
    have hrest := ih (s := s.mergeType sheet.package t) (h.addClass hfrom t.lineCount)
      fun u hu => hts u (by simp [hu])
    simpa using hrest

theorem merge {s : Survey} (h : s.inventory.Tallied lines names origins) (sheet : Sheet) :
    (s.merge sheet).inventory.Tallied (lines ++ (Act.sheet sheet).lines)
      (names ++ (Act.sheet sheet).packages) (origins ++ (Act.sheet sheet).origins) :=
  mergeTypes (h.addPackage sheet.package) sheet.types fun _ ht => ht

end Inventory.Tallied

theorem Inventory.length_methods (inv : Inventory) :
    inv.methods.length = (inv.classes.map (·.info.methodCount)).sum := by
  simp [methods, List.length_flatMap, ClassInfo.methodCount]

namespace Survey

theorem Reached.tallied {acts : List Act} {s : Survey} (h : Reached acts s) :
    s.inventory.Tallied (acts.flatMap Act.lines) (acts.flatMap Act.packages)
      (acts.flatMap Act.origins) := by
  induction h with
  | empty => exact ⟨rfl, rfl, rfl, .nil, by simp, rfl, by simp, by simp⟩
  | make before info n ih =>
    simpa [Act.lines, Act.packages, Act.origins] using ih.addClass (o := none) (by simp) n
  | again before listed n ih =>
    simpa [Act.lines, Act.packages, Act.origins] using ih.addAgain listed n
  | package before name ih =>
    simpa [Act.lines, Act.packages, Act.origins] using ih.addPackage name
  | sheet before sheet ih => simpa using ih.merge sheet

/-- In every survey that can be reached the totals are those of the classes listed in it and of what
was handed in with them, and so are the length of the ranking of methods and the averages. A class
from a sheet has the package of the sheet, which is among the packages. -/
theorem Reached.totals_eq_sums {acts : List Act} {s : Survey} (h : Reached acts s) :
    let inv := s.inventory
    let methods := (inv.classes.map (·.info.methodCount)).sum
    let attributes := (inv.classes.map (·.info.attributeCount)).sum
    let lines := (acts.flatMap Act.lines).sum
    (inv.totalMethods = methods ∧ inv.totalMethods = inv.methods.length ∧
      inv.totalAttributes = attributes ∧ inv.totalLines = lines) ∧
    inv.packageCount = (acts.flatMap Act.packages).dedup.length ∧
    (∀ c ∈ inv.classes, ∃ origin, (acts.flatMap Act.origins)[c.tag]? = some origin ∧
      ∀ sheet, origin = some sheet → c.info ∈ sheet.classes ∧
        ∀ p, sheet.package = some p → p ≠ "" → c.info.package = some p ∧ p ∈ inv.packages) ∧
    (inv.topMethodsByLength.length : Int) = topDecileSize inv.totalMethods ∧
    inv.averageMethodsPerClass = ratio methods inv.classes.length ∧
    inv.averageLinesPerMethod = ratio lines inv.methods.length ∧
    inv.averageAttributesPerClass = ratio attributes inv.classes.length ∧
    (inv.classes = [] → inv.averageMethodsPerClass = .ok .zero ∧
      inv.averageAttributesPerClass = .ok .zero) ∧
    (inv.methods = [] → inv.averageLinesPerMethod = .ok .zero) := by
  intro inv methods attributes lines
  have ht := h.tallied
  have hmethods : inv.totalMethods = inv.methods.length := by
    rw [Inventory.length_methods]
    exact ht.methods
  have hpackages : inv.packages.Perm (acts.flatMap Act.packages).dedup := by
    rw [List.perm_ext_iff_of_nodup ht.nodup (List.nodup_dedup _)]
    intro p
    rw [List.mem_dedup]
    exact ht.mem_packages p
  have haverage : inv.averageMethodsPerClass = ratio methods inv.classes.length := by
    rw [Inventory.averageMethodsPerClass, ht.methods]
    rfl
  have hlines : inv.averageLinesPerMethod = ratio lines inv.methods.length := by
    rw [Inventory.averageLinesPerMethod, ht.lines, hmethods]
  have hattributes : inv.averageAttributesPerClass = ratio attributes inv.classes.length := by
    rw [Inventory.averageAttributesPerClass, ht.attributes]
    rfl
  refine ⟨⟨ht.methods, hmethods, ht.attributes, ht.lines⟩, hpackages.length_eq, fun c hc => ?_, ?_,
    haverage, hlines, hattributes, fun hnone => ?_, fun hnone => ?_⟩
  · have horigin := List.getElem?_eq_getElem (ht.tag_lt c hc)
    refine ⟨_, horigin, fun sheet hs => ?_⟩
    rw [hs] at horigin
    have hclass : c.info ∈ sheet.classes := ht.origin c hc sheet horigin
    refine ⟨hclass, fun p hp hne => ⟨?_, ?_⟩⟩
    · obtain ⟨t, -, he⟩ := List.mem_map.mp hclass
      rw [← he, ← hp]
    · -- the sheet was handed in by an act, and its package with it
      obtain ⟨act, hact, hmade⟩ := List.mem_flatMap.mp (List.mem_of_getElem? horigin)
      rw [Act.eq_sheet_of_origin hmade] at hact
      refine (ht.mem_packages p).mpr (List.mem_flatMap.mpr ⟨_, hact, ?_⟩)
      simp [Act.packages, packageNames, hp, hne]
  · rw [hmethods]
    exact length_topDecile _
  · rw [haverage, hattributes, hnone]
    exact ⟨rfl, rfl⟩
  · rw [hlines, hnone]
    rfl

theorem Reached.totals_eq_sums_relisted :
    let a : ClassInfo :=
      { name := "A", methods := [{ name := "f", lineCount := 3 }, { name := "g" }] }
    let sheet : Sheet :=
      { package := some "p", types := [{ name := "B", lineCount := 4, methods := [{ name := "h" }] }] }
    let acts : List Act := [.make a 10, .again 0 5, .package (some ""), .sheet sheet]
    ∃ s, Reached acts s ∧ s.inventory.totalMethods = s.inventory.methods.length ∧
      s.inventory.totalLines = 19 ∧ s.inventory.packageCount = 1 ∧
      (s.inventory.topMethodsByLength.length : Int) = topDecileSize s.inventory.totalMethods := by
  intro a sheet acts
  have hreached : Reached acts _ := ((((Reached.empty.make a 10).again
    (c := ⟨0, a⟩) (by simp [Inventory.addClass, Inventory.list]) 5).package (some "")).sheet sheet)
  obtain ⟨⟨-, hmethods, -, hlines⟩, hpackages, -, hlength, -⟩ := hreached.totals_eq_sums
  exact ⟨_, hreached, hmethods, hlines.trans (by decide), hpackages.trans (by decide), hlength⟩

end Survey

end JavaSurvey
