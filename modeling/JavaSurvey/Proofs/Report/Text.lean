import JavaSurvey.Report.Text

set_option autoImplicit false

namespace JavaSurvey

/-! ### What can be made if some numbers can be written -/

theorem bind_eq_ok {ε α β : Type} {x : Except ε α} {f : α → Except ε β} {b : β} :
    x >>= f = .ok b ↔ ∃ a, x = .ok a ∧ f a = .ok b := by
  cases x <;> simp [bind, Except.bind]

theorem pure_eq_ok {ε α : Type} {a b : α} : (pure a : Except ε α) = .ok b ↔ a = b := by
  simp [pure, Except.pure]

/-- `x` is made exactly if all the numbers can be written. -/
def Needs {α : Type} (ns : List Int) (x : Except DigitLimit α) : Prop :=
  (∃ a, x = .ok a) ↔ ∀ n ∈ ns, Writable n

section

variable {α β : Type} {ns ms : List Int}

theorem needs_decimal (n : Int) : Needs [n] (decimal n) := by
  unfold Needs decimal
  split
  · simpa
  · simpa

theorem needs_pure (a : α) : Needs [] (pure a : Except DigitLimit α) := by
  simp [Needs, pure, Except.pure]

theorem Needs.bind {x : Except DigitLimit α} {f : α → Except DigitLimit β} (hx : Needs ns x)
    (hf : ∀ a, Needs ms (f a)) : Needs (ns ++ ms) (x >>= f) := by
  unfold Needs at hx hf ⊢
  simp only [bind_eq_ok, List.mem_append, or_imp, forall_and, ← hx]
  constructor
  · rintro ⟨b, a, ha, hb⟩
    exact ⟨⟨a, ha⟩, (hf a).mp ⟨b, hb⟩⟩
  · rintro ⟨⟨a, ha⟩, hms⟩
    obtain ⟨b, hb⟩ := (hf a).mpr hms
    exact ⟨b, a, ha, hb⟩

theorem needs_mapM {f : α → Except DigitLimit β} {number : α → Int}
    (h : ∀ a, Needs [number a] (f a)) (as : List α) : Needs (as.map number) (as.mapM f) := by
  induction as with
  | nil => exact needs_pure []
  | cons a as ih =>
    rw [List.mapM_cons, List.map_cons, ← List.append_nil (as.map number)]
    exact (h a).bind fun _ => ih.bind fun _ => needs_pure _

theorem Needs.eq_exceeded_iff {x : Except DigitLimit α} (hx : Needs ns x) :
    x = .error .exceeded ↔ ∃ n ∈ ns, ¬ Writable n := by
  have hnot : (∃ n ∈ ns, ¬ Writable n) ↔ ¬ ∃ a, x = .ok a := by
    rw [Needs] at hx
    rw [hx]
    simp
  rw [hnot]
  cases x <;> simp

end

namespace Report

def thresholdNumbers (r : Report) : List Int :=
  match r.threshold, r.classesOverThreshold with
  | some n, some cs => n :: cs.map fun c => (c.info.methodCount : Int)
  | _, _ => []

/-- The whole numbers in the text of a report. -/
def numbers (r : Report) : List Int :=
  r.classCount :: r.totalLines :: r.totalMethods :: r.packageCount ::
    (r.topClassesByMethods.map (fun c => (c.info.methodCount : Int)) ++
      (r.topClassesByAttributes.map (·.info.attributeCount) ++
        (r.thresholdNumbers ++ (r.topMethodsByLength.map (·.method.lineCount) ++
          [r.maxParameterCount, (r.maxCallDepth : Int)]))))

theorem threshold_mem_numbers {r : Report} {n : Nat} {cs : List Listed} (hn : r.threshold = some n)
    (hcs : r.classesOverThreshold = some cs) : (n : Int) ∈ r.numbers := by
  simp [numbers, thresholdNumbers, hn, hcs]

theorem needs_countLine (name : String) (n : Int) (things : String) :
    Needs [n] (countLine name n things) :=
  (needs_decimal n).bind fun _ => needs_pure _

theorem needs_graphText (r : Report) (showGraph : Bool) :
    Needs [(r.maxCallDepth : Int)] (r.graphText showGraph) :=
  (needs_decimal r.maxCallDepth).bind fun _ => needs_pure _

theorem needs_thresholdLines (r : Report) : Needs r.thresholdNumbers r.thresholdLines := by
  unfold thresholdNumbers thresholdLines
  generalize r.threshold = least, r.classesOverThreshold = classes
  match least, classes with
  | some n, some cs =>
    simp only
    rw [← List.append_nil (cs.map _)]
    exact (needs_decimal n).bind fun _ =>
      (needs_mapM (fun _ => needs_countLine _ _ _) cs).bind fun _ => needs_pure _
  | some _, none | none, some _ | none, none => exact needs_pure _

theorem needs_text (r : Report) (showGraph : Bool) : Needs r.numbers (r.text showGraph) := by
  have hlines : Needs r.numbers (r.lines showGraph) :=
    (needs_decimal r.classCount).bind fun _ => (needs_decimal r.totalLines).bind fun _ =>
    (needs_decimal r.totalMethods).bind fun _ => (needs_decimal r.packageCount).bind fun _ =>
    (needs_mapM (fun _ => needs_countLine _ _ _) r.topClassesByMethods).bind fun _ =>
    (needs_mapM (fun _ => needs_countLine _ _ _) r.topClassesByAttributes).bind fun _ =>
    (needs_thresholdLines r).bind fun _ =>
    (needs_mapM (fun _ => needs_countLine _ _ _) r.topMethodsByLength).bind fun _ =>
    (needs_decimal r.maxParameterCount).bind fun _ => (needs_graphText r showGraph).bind fun _ =>
    needs_pure _
  rw [← List.append_nil r.numbers]
  exact hlines.bind fun _ => needs_pure _

theorem exists_intercalate_eq (sep : String) (init : List String) (line : String) :
    ∃ before, sep.intercalate (init ++ [line]) = before ++ line := by
  cases init with
  | nil => exact ⟨"", by simp⟩
  | cons first init =>
    rw [String.intercalate_append_of_ne_nil (by simp) (by simp), String.intercalate_singleton]
    exact ⟨_, rfl⟩

theorem exists_before_graphText {r : Report} {showGraph : Bool} {text : String}
    (h : r.text showGraph = .ok text) :
    ∃ before graph, r.graphText showGraph = .ok graph ∧ text = before ++ graph := by
  simp only [Report.text, lines, bind_eq_ok, pure_eq_ok] at h
  obtain ⟨ls, ⟨_, _, _, _, _, _, _, _, _, _, _, _, _, _, _, _, _, _, graph, hgraph, hls⟩, rfl⟩ := h
  have hlast : ls.getLast? = some graph := by
    rw [← hls, List.getLast?_append]
    rfl
  obtain ⟨init, rfl⟩ := List.getLast?_eq_some_iff.mp hlast
  obtain ⟨before, hbefore⟩ := exists_intercalate_eq "\n" init graph
  exact ⟨before, graph, hgraph, hbefore⟩

end Report

end JavaSurvey
