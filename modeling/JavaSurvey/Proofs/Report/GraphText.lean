import JavaSurvey.Proofs.Report.GraphFields
import JavaSurvey.Proofs.Report.Text
import JavaSurvey.Proofs.Threshold
import Mathlib.Data.List.Basic

/-!
The graph as text says all that the report has of it. Lines end at the first newline and names in a list
at the first comma, since no name has one in it; the lines of the callers end at the first empty line,
and the caller in such a line at its first space.
-/

set_option autoImplicit false

namespace JavaSurvey

section Cuts

variable {α : Type} {c : α}

theorem cut_inj {xs ys xs' ys' : List α} (hx : c ∉ xs) (hy : c ∉ ys)
    (h : xs ++ c :: xs' = ys ++ c :: ys') : xs = ys ∧ xs' = ys' := by
  induction xs generalizing ys with
  | nil =>
    cases ys with
    | nil => exact ⟨rfl, (List.cons.inj h).2⟩
    | cons y ys =>
      obtain ⟨rfl, -⟩ := List.cons.inj h
      simp at hy
  | cons x xs ih =>
    cases ys with
    | nil =>
      obtain ⟨rfl, -⟩ := List.cons.inj h
      simp at hx
    | cons y ys =>
      obtain ⟨rfl, htail⟩ := List.cons.inj h
      obtain ⟨rfl, rfl⟩ := ih (List.not_mem_of_not_mem_cons hx) (List.not_mem_of_not_mem_cons hy) htail
      exact ⟨rfl, rfl⟩

theorem not_mem_intercalate {sep : List α} (hsep : c ∉ sep) {xs : List (List α)}
    (hxs : ∀ x ∈ xs, c ∉ x) : c ∉ sep.intercalate xs := by
  induction xs with
  | nil => simp
  | cons x xs ih =>
    rw [List.forall_mem_cons] at hxs
    cases xs with
    | nil => simpa using hxs.1
    | cons y xs =>
      rw [List.intercalate_cons_cons, List.mem_append, List.mem_append]
      simp only [hxs.1, hsep, ih hxs.2, or_self, not_false_eq_true]

/-- Items that are joined by something that starts with `c` are told apart again if `c` is in none. -/
theorem intercalate_inj {sep : List α} {xs ys : List (List α)} (hx : ∀ x ∈ xs, c ∉ x)
    (hy : ∀ y ∈ ys, c ∉ y) (hxs : xs ≠ []) (hys : ys ≠ [])
    (h : (c :: sep).intercalate xs = (c :: sep).intercalate ys) : xs = ys := by
  induction xs generalizing ys with
  | nil => exact absurd rfl hxs
  | cons x xs ih =>
    cases ys with
    | nil => exact absurd rfl hys
    | cons y ys =>
      rw [List.forall_mem_cons] at hx hy
      cases xs with
      | nil =>
        cases ys with
        | nil => simpa using h
        | cons y' ys =>
          rw [List.intercalate_singleton, List.intercalate_cons_cons] at h
          exact absurd (h ▸ by simp) hx.1
      | cons x' xs =>
        cases ys with
        | nil =>
          rw [List.intercalate_singleton, List.intercalate_cons_cons] at h
          exact absurd (h ▸ by simp) hy.1
        | cons y' ys =>
          rw [List.intercalate_cons_cons, List.intercalate_cons_cons, List.append_assoc,
            List.append_assoc] at h
          obtain ⟨rfl, hrest⟩ := cut_inj hx.1 hy.1 h
          rw [ih hx.2 hy.2 (by simp) (by simp) (List.append_cancel_left hrest)]

end Cuts

theorem joined_inj {c : Char} {sep : List Char} {s : String} (hs : s.toList = c :: sep)
    {xs ys : List String} (hx : ∀ x ∈ xs, c ∉ x.toList) (hy : ∀ y ∈ ys, c ∉ y.toList) (hxs : xs ≠ [])
    (hys : ys ≠ []) (h : s.intercalate xs = s.intercalate ys) : xs = ys := by
  have hchars := congrArg String.toList h
  rw [String.toList_intercalate, String.toList_intercalate, hs] at hchars
  have hmap : xs.map String.toList = ys.map String.toList :=
    intercalate_inj (List.forall_mem_map.mpr hx) (List.forall_mem_map.mpr hy) (by simpa using hxs)
      (by simpa using hys) hchars
  exact List.map_injective_iff.mpr (fun _ _ => String.toList_injective) hmap

/-- A name that has none of the characters in it that stand between names and at the ends of lines. It may
be empty or have brackets in it, which does no harm. -/
def PlainName (name : String) : Prop := ∀ c ∈ ['\n', ' ', ','], c ∉ name.toList

instance (name : String) : Decidable (PlainName name) := List.decidableBAll (fun c => c ∉ name.toList) _

structure PlainRow (e : String × List String) : Prop where
  name : PlainName e.1
  others : ∀ n ∈ e.2, PlainName n
  ne_nil : e.2 ≠ []

namespace PlainRow

variable {e f : String × List String}

theorem not_mem_commaList (he : PlainRow e) : '\n' ∉ (Report.commaList e.2).toList := by
  rw [Report.commaList, String.toList_intercalate]
  exact not_mem_intercalate (by decide)
    (List.forall_mem_map.mpr fun n hn => he.others n hn '\n' (by simp))

theorem eq_of_commaList (he : PlainRow e) (hf : PlainRow f)
    (h : Report.commaList e.2 = Report.commaList f.2) : e.2 = f.2 :=
  joined_inj rfl (fun n hn => he.others n hn ',' (by simp)) (fun n hn => hf.others n hn ',' (by simp))
    he.ne_nil hf.ne_nil h

end PlainRow

namespace CallGraph

variable {g : CallGraph} (hg : ∀ m ∈ g.members, PlainName m)

include hg

theorem plainRow_of_mem_rows {row : CallRow} (hrow : row ∈ g.rows) :
    PlainRow (row.1, sortNames row.2) := by
  have hcaller : row.1 ∈ g.callers := List.mem_map_of_mem hrow
  refine ⟨hg row.1 (List.mem_append_left _ hcaller), fun n hn => ?_, ?_⟩
  · have hcall : g.Calls row.1 n := calls_iff.mpr (callees_of_mem_rows hrow ▸ mem_sortNames.mp hn)
    exact hg n (mem_members_iff.mpr ⟨row.1, .inr hcall⟩)
  · exact mt sortNames_eq_nil_iff.mp (g.callees_ne_nil row hrow)

theorem plainRow_of_mostCalled {m : String} (hm : g.mostCalled = some m) :
    PlainRow (m, g.callersOfMostCalled) := by
  have hfirst := firstMost_of_mostCalled hm
  rw [callersOfMostCalled, hm, sortedCallersOf]
  refine ⟨hg m hfirst.mem, fun a ha => ?_, mt sortNames_eq_nil_iff.mp hfirst.called⟩
  exact hg a (mem_members_iff.mpr ⟨m, .inl (mem_callersOf.mp (mem_sortNames.mp ha))⟩)

end CallGraph

namespace Report

def rowLine (e : String × List String) : String := e.1 ++ " -> [" ++ commaList e.2 ++ "]"

def mostLines : Option String → List String → List String
  | none, _ => ["Most called method: (none)"]
  | some m, callers => ["Most called method: " ++ m, "Called by: " ++ commaList callers]

theorem graphLines_true (r : Report) (depth : String) : r.graphLines true depth =
    "=== CALL GRAPH ===" :: (r.callGraphEdges.map rowLine ++ "" :: ("Max call depth: " ++ depth) ::
      mostLines r.mostCalledMethod r.mostCalledCallers) := by
  simp only [graphLines, ↓reduceIte, List.append_assoc, List.singleton_append]
  cases r.mostCalledMethod <;> rfl

theorem toList_rowLine (e : String × List String) : (rowLine e).toList =
    e.1.toList ++ ' ' :: ("-> [".toList ++ (commaList e.2 ++ "]").toList) := by
  rw [rowLine, String.append_assoc, String.append_assoc, String.toList_append, String.toList_append]
  rfl

theorem rowLine_ne_empty (e : String × List String) : rowLine e ≠ "" := by
  intro h
  have hchars := congrArg String.toList h
  rw [toList_rowLine] at hchars
  simp at hchars

theorem rowLine_inj {e f : String × List String} (he : PlainRow e) (hf : PlainRow f)
    (h : rowLine e = rowLine f) : e = f := by
  have hchars := congrArg String.toList h
  rw [toList_rowLine, toList_rowLine] at hchars
  obtain ⟨hcaller, hlist⟩ := cut_inj (he.name ' ' (by simp)) (hf.name ' ' (by simp)) hchars
  have hcallees : commaList e.2 = commaList f.2 :=
    (String.append_left_inj "]").mp (String.toList_injective (List.append_cancel_left hlist))
  exact Prod.ext (String.toList_injective hcaller) (he.eq_of_commaList hf hcallees)

theorem map_rowLine_inj {es fs : List (String × List String)} (hes : ∀ e ∈ es, PlainRow e)
    (hfs : ∀ f ∈ fs, PlainRow f) (h : es.map rowLine = fs.map rowLine) : es = fs := by
  induction es generalizing fs with
  | nil => exact (List.map_eq_nil_iff.mp h.symm).symm
  | cons e es ih =>
    cases fs with
    | nil => simp at h
    | cons f fs =>
      rw [List.forall_mem_cons] at hes hfs
      obtain ⟨hhead, htail⟩ := List.cons.inj h
      rw [rowLine_inj hes.1 hfs.1 hhead, ih hes.2 hfs.2 htail]

structure Plain (r : Report) : Prop where
  rows : ∀ e ∈ r.callGraphEdges, PlainRow e
  most : ∀ m ∈ r.mostCalledMethod, PlainRow (m, r.mostCalledCallers)
  callers_of_none : r.mostCalledMethod = none → r.mostCalledCallers = []

namespace Plain

variable {r r' : Report}

theorem mostLines_inj (hr : r.Plain) (hr' : r'.Plain)
    (h : mostLines r.mostCalledMethod r.mostCalledCallers =
      mostLines r'.mostCalledMethod r'.mostCalledCallers) :
    r.mostCalledMethod = r'.mostCalledMethod ∧ r.mostCalledCallers = r'.mostCalledCallers := by
  cases hm : r.mostCalledMethod with
  | none =>
    cases hm' : r'.mostCalledMethod with
    | none => exact ⟨rfl, (hr.callers_of_none hm).trans (hr'.callers_of_none hm').symm⟩
    | some m' => simp [hm, hm', mostLines] at h
  | some m =>
    cases hm' : r'.mostCalledMethod with
    | none => simp [hm, hm', mostLines] at h
    | some m' =>
      simp only [hm, hm', mostLines, List.cons.injEq, String.append_right_inj, and_true] at h
      exact ⟨congrArg some h.1, (hr.most m hm).eq_of_commaList (hr'.most m' hm') h.2⟩

theorem not_mem_lines (hr : r.Plain) :
    ∀ line ∈ r.graphLines true (toString r.maxCallDepth), '\n' ∉ line.toList := by
  have hdigits : '\n' ∉ (toString r.maxCallDepth).toList := by
    rw [Nat.toString_eq_repr, Nat.toList_repr]
    exact fun h => absurd (Nat.isDigit_of_mem_toDigits (by decide) (by decide) h) (by decide)
  rw [graphLines_true, List.forall_mem_cons, List.forall_mem_append, List.forall_mem_cons,
    List.forall_mem_cons]
  refine ⟨by decide, List.forall_mem_map.mpr fun e he => ?_, by decide, ?_, ?_⟩
  · have hrow := hr.rows e he
    simp [rowLine, hrow.name '\n' (by simp), hrow.not_mem_commaList]
  · rw [String.toList_append, List.mem_append, not_or]
    exact ⟨by decide, hdigits⟩
  · cases hm : r.mostCalledMethod with
    | none => simp [mostLines]
    | some m =>
      have hmost := hr.most m hm
      simp [mostLines, hmost.name '\n' (by simp), hmost.not_mem_commaList]

end Plain

theorem Shows.plain {r : Report} {g : CallGraph} (h : r.Shows g)
    (hg : ∀ m ∈ g.members, PlainName m) : r.Plain := by
  refine ⟨h.forall_edges fun row hrow => CallGraph.plainRow_of_mem_rows hg hrow, fun m hm => ?_,
    fun hm => ?_⟩
  · rw [h.most] at hm
    exact h.callers ▸ CallGraph.plainRow_of_mostCalled hg hm
  · rw [h.most] at hm
    rw [h.callers, CallGraph.callersOfMostCalled, hm, CallGraph.sortedCallersOf]

structure SameGraph (r r' : Report) : Prop where
  edges : r.callGraphEdges = r'.callGraphEdges
  depth : r.maxCallDepth = r'.maxCallDepth
  most : r.mostCalledMethod = r'.mostCalledMethod
  callers : r.mostCalledCallers = r'.mostCalledCallers

theorem SameGraph.graphText_eq {r r' : Report} (h : r.SameGraph r') (showGraph : Bool) :
    r.graphText showGraph = r'.graphText showGraph := by
  unfold graphText graphLines
  rw [h.edges, h.depth, h.most, h.callers]

theorem graphText_eq_ok {r : Report} {text : String} :
    r.graphText true = .ok text ↔ Writable r.maxCallDepth ∧
      text = "\n".intercalate (r.graphLines true (toString r.maxCallDepth)) := by
  simp only [graphText, bind_eq_ok, pure_eq_ok, decimal]
  split
  · rename_i hdepth
    simp only [Except.ok.injEq, exists_eq_left', hdepth, true_and]
    exact eq_comm
  · rename_i hdepth
    simp [hdepth]

theorem Plain.sameGraph {r r' : Report} (hr : r.Plain) (hr' : r'.Plain) {text : String}
    (h : r.graphText true = .ok text) (h' : r'.graphText true = .ok text) : r.SameGraph r' := by
  have htext := (graphText_eq_ok.mp h).2.symm.trans (graphText_eq_ok.mp h').2
  have hlines : r.graphLines true (toString r.maxCallDepth) =
      r'.graphLines true (toString r'.maxCallDepth) :=
    joined_inj rfl hr.not_mem_lines hr'.not_mem_lines (by simp [graphLines]) (by simp [graphLines])
      htext
  rw [graphLines_true, graphLines_true] at hlines
  have hblank : ∀ es : List (String × List String), "" ∉ es.map rowLine := by
    intro es hmem
    obtain ⟨e, -, he⟩ := List.mem_map.mp hmem
    exact rowLine_ne_empty e he
  -- the callers go up to the first empty line, whatever their number
  obtain ⟨hrows, hrest⟩ := cut_inj (hblank _) (hblank _) (List.cons.inj hlines).2
  obtain ⟨hdepth, hmost⟩ := List.cons.inj hrest
  obtain ⟨hm, hcallers⟩ := hr.mostLines_inj hr' hmost
  rw [String.append_right_inj] at hdepth
  exact ⟨map_rowLine_inj hr.rows hr'.rows hrows, toString_nat_inj.mp hdepth, hm, hcallers⟩

end Report

/-- Two reports on graphs of plain names have the same text of their graphs exactly if they have the same
of them: callers, callees, depth, the most called name and its callers. The text of a report, if all of
its numbers can be written, ends with that of its graph, and else there is none. -/
theorem Survey.graphText_eq_iff_sameGraph {s s' : Survey} {v v' : Given} {r r' : Report}
    (h : s.report v = .ok r) (h' : s'.report v' = .ok r') (hs : ∀ m ∈ s.calls.members, PlainName m)
    (hs' : ∀ m ∈ s'.calls.members, PlainName m) :
    ((∃ text, r.graphText true = .ok text ∧ r'.graphText true = .ok text) ↔
      Writable r.maxCallDepth ∧ r.SameGraph r') ∧
    ∀ q ∈ [r, r'],
      ((∀ n ∈ q.numbers, Writable n) →
        ∃ before graph, q.graphText true = .ok graph ∧ q.text true = .ok (before ++ graph)) ∧
      ((∃ n ∈ q.numbers, ¬ Writable n) → q.text true = .error .exceeded) := by
  have hplain : r.Plain := (shows_of_report h).plain hs
  have hplain' : r'.Plain := (shows_of_report h').plain hs'
  refine ⟨⟨?_, ?_⟩, fun q _ => ⟨fun hall => ?_, (q.needs_text true).eq_exceeded_iff.mpr⟩⟩
  · rintro ⟨text, ht, ht'⟩
    exact ⟨(Report.graphText_eq_ok.mp ht).1, hplain.sameGraph hplain' ht ht'⟩
  · rintro ⟨hdepth, hsame⟩
    have htext := Report.graphText_eq_ok.mpr ⟨hdepth, rfl⟩
    exact ⟨_, htext, hsame.graphText_eq true ▸ htext⟩
  · obtain ⟨text, htext⟩ := (q.needs_text true).mpr hall
    obtain ⟨before, graph, hgraph, rfl⟩ := Report.exists_before_graphText htext
    exact ⟨before, graph, hgraph, htext⟩

/-- Callees in two orders give one text. A name that reads as if there were none gives another text than
no name. -/
theorem Survey.graphText_eq_iff_sameGraph_reordered :
    let s : Survey := { calls := .ofCalls [("A.f", "g"), ("A.f", "B.h"), ("B.h", "A.f")] }
    let t : Survey := { calls := .ofCalls [("A.f", "B.h"), ("A.f", "g"), ("B.h", "A.f")] }
    let u : Survey := { calls := .ofCalls [("f", "(none)")] }
    ∃ rs rt ru re, s.report .nothing = .ok rs ∧ t.report (.whole 1) = .ok rt ∧
      u.report .nothing = .ok ru ∧ ({} : Survey).report .nothing = .ok re ∧
      (∃ text, rs.graphText true = .ok text ∧ rt.graphText true = .ok text) ∧
      ¬ ∃ text, ru.graphText true = .ok text ∧ re.graphText true = .ok text := by
  intro s t u
  obtain ⟨rs, hs⟩ : ∃ r, s.report .nothing = .ok r := ⟨_, rfl⟩
  obtain ⟨rt, ht⟩ : ∃ r, t.report (.whole 1) = .ok r := ⟨_, rfl⟩
  obtain ⟨ru, hu⟩ : ∃ r, u.report .nothing = .ok r := ⟨_, rfl⟩
  obtain ⟨re, he⟩ : ∃ r, ({} : Survey).report .nothing = .ok r := ⟨_, rfl⟩
  refine ⟨rs, rt, ru, re, hs, ht, hu, he, ?_, fun htext => ?_⟩
  · have hshows := shows_of_report hs
    have hshows' := shows_of_report ht
    refine (graphText_eq_iff_sameGraph hs ht (by decide) (by decide)).1.mpr ⟨?_, ?_, ?_, ?_, ?_⟩
    · rw [hshows.depth]
      decide
    · have hrows : s.calls.rows = [("A.f", ["g", "B.h"]), ("B.h", ["A.f"])] := rfl
      have hrows' : t.calls.rows = [("A.f", ["B.h", "g"]), ("B.h", ["A.f"])] := rfl
      rw [hshows.edges, hshows'.edges, hrows, hrows', List.map_cons, sortNames_congr (.swap ..)]
      rfl
    · rw [hshows.depth, hshows'.depth]
      decide
    · rw [hshows.most, hshows'.most]
      decide
    · have hmost : s.calls.mostCalled = some "A.f" := by decide
      have hmost' : t.calls.mostCalled = some "A.f" := by decide
      rw [hshows.callers, hshows'.callers, CallGraph.callersOfMostCalled,
        CallGraph.callersOfMostCalled, hmost, hmost']
      rfl
  · have hsame := ((graphText_eq_iff_sameGraph hu he (by decide) (by decide)).1.mp htext).2
    have hmost := hsame.most
    rw [(shows_of_report hu).most, (shows_of_report he).most] at hmost
    exact absurd hmost (by decide)

/-- There is a report, and a text of its graph, but no text of the report: with a threshold that cannot
be written, and with two classes whose lines can be written for each, but not for both. -/
theorem Survey.no_text_of_long_numbers :
    let bare : Survey := {}
    let two := bare.merge { types := [{ name := "A", lineCount := 10 ^ 4300 - 1 }, { name := "B" }] }
    ∀ q ∈ [(bare, Given.whole (10 ^ 4300 : Nat)), (two, .nothing)], ∃ r, q.1.report q.2 = .ok r ∧
      (∃ graph, r.graphText true = .ok graph) ∧ r.text true = .error .exceeded := by
  intro bare two q hq
  simp only [List.mem_cons, List.not_mem_nil, or_false] at hq
  rcases hq with rfl | rfl
  · have htaken := Threshold.parse_whole (10 ^ 4300)
    obtain ⟨r, hr⟩ : ∃ r, bare.report (.whole (10 ^ 4300 : Nat)) = .ok r := by
      rw [report, overThreshold_of_taken _ htaken]
      exact ⟨_, rfl⟩
    obtain ⟨hthreshold, hclasses⟩ := report_of_taken htaken hr
    refine ⟨r, hr, (r.needs_graphText true).mpr ?_, (r.needs_text true).eq_exceeded_iff.mpr ?_⟩
    · rw [(shows_of_report hr).depth]
      decide
    · refine ⟨_, Report.threshold_mem_numbers hthreshold hclasses, ?_⟩
      rw [Int.natCast_pow]
      exact not_writable_of_pow_le (Nat.le_refl _) (Int.le_refl _)
  · have hmade : ∀ n : Int, ∃ r, (bare.merge { types := [{ name := "A", lineCount := n },
        { name := "B" }] }).report .nothing = .ok r ∧ r.totalLines = 0 + n + 1 :=
      fun n => ⟨_, rfl, rfl⟩
    obtain ⟨r, hr, hlines⟩ := hmade (10 ^ 4300 - 1)
    refine ⟨r, hr, (r.needs_graphText true).mpr ?_, (r.needs_text true).eq_exceeded_iff.mpr ?_⟩
    · rw [(shows_of_report hr).depth]
      decide
    · have hsum : ∀ p : Int, p ≤ 0 + (p - 1) + 1 := by omega
      have hmem : r.totalLines ∈ r.numbers := by simp [Report.numbers]
      exact ⟨_, hmem, not_writable_of_pow_le (Nat.le_refl _) (hlines ▸ hsum (10 ^ 4300))⟩

end JavaSurvey
