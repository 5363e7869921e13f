import JavaSurvey.Proofs.Json.RoundTrip
import JavaSurvey.Proofs.Number.Decimal
import JavaSurvey.Report.Export
import Mathlib.Data.Option.Basic

set_option autoImplicit false

namespace JavaSurvey

namespace Json

/-! ### Exported values are lawful -/

abbrev Plain : Json → Prop := Lawful fun s => CodePoint.joined s = s

theorem plain_record_nil : Plain (.record []) := .object (by simp) (by simp)

theorem plain_record_cons {k : String} {v : Json} {ms : List (String × Json)} :
    Plain (.record ((k, v) :: ms)) ↔ Plain v ∧ Plain (.record ms) := by
  rw [record, record, Plain, lawful_object_iff, lawful_object_iff, List.map_cons,
    List.forall_mem_cons, List.forall_mem_cons]
  constructor
  · rintro ⟨⟨-, proper⟩, hv, members⟩
    exact ⟨hv, proper, members⟩
  · rintro ⟨hv, proper, members⟩
    exact ⟨⟨CodePoint.joined_ofString k, proper⟩, hv, members⟩

theorem plain_text (s : String) : Plain (.text s) := .string (CodePoint.joined_ofString s)

theorem plain_natural (n : Nat) : Plain (.natural n) := .integer n

theorem plain_optional {α : Type} {f : α → Json} (h : ∀ a, Plain (f a)) (o : Option α) :
    Plain (optional f o) := by
  cases o with
  | none => exact .null
  | some a => exact h a

theorem plain_list {α : Type} {f : α → Json} (h : ∀ a, Plain (f a)) (as : List α) :
    Plain (list f as) := by
  refine .array fun v hv => ?_
  obtain ⟨a, -, rfl⟩ := List.mem_map.mp hv
  exact h a

theorem plain_texts (ss : List String) : Plain (texts ss) := plain_list plain_text ss

end Json

open Json

theorem Call.plain_toJson (c : Call) : Plain c.toJson := by
  simp only [Call.toJson, plain_record_cons]
  exact ⟨plain_text _, plain_optional plain_text _, .integer _, .integer _, plain_record_nil⟩

theorem Method.plain_toJson (m : Method) : Plain m.toJson := by
  simp only [Method.toJson, plain_record_cons]
  exact ⟨plain_text _, .integer _, .integer _, plain_list Call.plain_toJson _, plain_record_nil⟩

theorem ClassInfo.plain_toJson (c : ClassInfo) : Plain c.toJson := by
  simp only [ClassInfo.toJson, plain_record_cons]
  exact ⟨plain_text _, plain_optional plain_text _, .integer _, plain_list Method.plain_toJson _,
    plain_record_nil⟩

theorem ClassInfo.plain_toReportJson (c : ClassInfo) : Plain c.toReportJson := by
  simp only [ClassInfo.toReportJson, plain_record_cons]
  exact ⟨plain_text _, plain_list Method.plain_toJson _, .integer _, plain_optional plain_text _,
    plain_record_nil⟩

theorem RankedMethod.plain_toJson (m : RankedMethod) : Plain m.toJson := by
  simp only [RankedMethod.toJson, plain_record_cons]
  exact ⟨plain_text _, m.method.plain_toJson, plain_record_nil⟩

theorem Diagnostic.plain_toJson (d : Diagnostic) : Plain d.toJson := by
  simp only [Diagnostic.toJson, plain_record_cons]
  exact ⟨plain_text _, plain_text _, plain_text _, plain_record_nil⟩

theorem Finite64.plain_toJson (x : Finite64) : Plain (Finite64.toJson x) :=
  .real (numeral_toText x).1 (numeral_toText x).2

theorem Report.plain_toJson (r : Report) : Plain r.toJson := by
  have hclasses (cs : List Listed) : Plain (Json.list (fun c => c.info.toReportJson) cs) :=
    plain_list (fun c => c.info.plain_toReportJson) cs
  have hedges : Plain (.record (r.callGraphEdges.map fun e => (e.1, Json.texts e.2))) := by
    induction r.callGraphEdges with
    | nil => exact plain_record_nil
    | cons e es ih => exact plain_record_cons.mpr ⟨plain_texts e.2, ih⟩
  simp only [Report.toJson, plain_record_cons, plain_natural, plain_texts, hclasses, hedges,
    Finite64.plain_toJson, plain_record_nil, true_and, and_true]
  exact ⟨.integer _, .integer _, plain_list RankedMethod.plain_toJson _, .integer _,
    plain_optional plain_text _, plain_optional plain_natural _, plain_optional hclasses _⟩

theorem ScanResult.plain_toJson (s : ScanResult) (report : Option Report) :
    Plain (s.toJson report) := by
  have hreport : Plain (.record (report.map fun r => ("report", r.toJson)).toList) := by
    cases report with
    | none => exact plain_record_nil
    | some r => exact plain_record_cons.mpr ⟨r.plain_toJson, plain_record_nil⟩
  have hedge (e : String × String) :
      Plain (.record [("caller", .text e.1), ("callee", .text e.2)]) := by
    simp only [plain_record_cons]
    exact ⟨plain_text _, plain_text _, plain_record_nil⟩
  simp only [ScanResult.toJson, List.cons_append, List.nil_append, plain_record_cons]
  exact ⟨plain_texts _, plain_list (fun c => c.info.plain_toJson) _, plain_list hedge _,
    plain_list Diagnostic.plain_toJson _, plain_natural _, .bool _, hreport⟩

/-! ### What an export shows -/

namespace Json

theorem record_cons_inj {k : String} {v w : Json} {ms ns : List (String × Json)} :
    Json.record ((k, v) :: ms) = .record ((k, w) :: ns) ↔ v = w ∧ Json.record ms = .record ns := by
  simp [record]

theorem text_inj {s t : String} : Json.text s = .text t ↔ s = t := by
  rw [text, text, string.injEq, CodePoint.ofString_inj]

theorem list_inj {α : Type} {f : α → Json} (h : Function.Injective f) {as bs : List α} :
    list f as = list f bs ↔ as = bs := by
  rw [list, list, array.injEq, h.list_map.eq_iff]

theorem optional_inj {α : Type} {f : α → Json} (h : Function.Injective f)
    (hnull : ∀ a, f a ≠ .null) {a b : Option α} : optional f a = optional f b ↔ a = b := by
  cases a with
  | none =>
    cases b with
    | none => simp
    | some b => simpa [optional] using (hnull b).symm
  | some a =>
    cases b with
    | none => simpa [optional] using hnull a
    | some b => simpa [optional] using h.eq_iff

theorem optional_text_inj {a b : Option String} :
    optional Json.text a = optional .text b ↔ a = b :=
  optional_inj (fun _ _ => text_inj.mp) nofun

end Json

theorem Call.toJson_injective : Function.Injective Call.toJson := by
  rintro ⟨n, r, l, c⟩ ⟨n', r', l', c'⟩ h
  simp only [Call.toJson, record_cons_inj, text_inj, optional_text_inj, integer.injEq] at h
  obtain ⟨rfl, rfl, rfl, rfl, -⟩ := h
  rfl

theorem Method.toJson_injective : Function.Injective Method.toJson := by
  rintro ⟨n, l, p, c⟩ ⟨n', l', p', c'⟩ h
  simp only [Method.toJson, record_cons_inj, text_inj, integer.injEq,
    list_inj Call.toJson_injective] at h
  obtain ⟨rfl, rfl, rfl, rfl, -⟩ := h
  rfl

theorem ClassInfo.toJson_injective : Function.Injective ClassInfo.toJson := by
  rintro ⟨n, m, a, p⟩ ⟨n', m', a', p'⟩ h
  simp only [ClassInfo.toJson, record_cons_inj, text_inj, optional_text_inj, integer.injEq,
    list_inj Method.toJson_injective] at h
  obtain ⟨rfl, rfl, rfl, rfl, -⟩ := h
  rfl

theorem RankedMethod.toJson_injective : Function.Injective RankedMethod.toJson := by
  rintro ⟨c, m⟩ ⟨c', m'⟩ h
  simp only [RankedMethod.toJson, record_cons_inj, text_inj,
    Method.toJson_injective.eq_iff] at h
  obtain ⟨rfl, rfl, -⟩ := h
  rfl

theorem Diagnostic.toJson_injective : Function.Injective Diagnostic.toJson := by
  rintro ⟨k, p, r⟩ ⟨k', p', r'⟩ h
  simp only [Diagnostic.toJson, record_cons_inj, text_inj] at h
  obtain ⟨hkind, rfl, rfl, -⟩ := h
  have : k = k' := by
    cases k <;> cases k' <;> first | rfl | exact absurd hkind (by decide)
  rw [this]

namespace Report

end Report

namespace ScanResult

theorem jsonText_eq_ok {s : ScanResult} {report : Option Report}
    (h : ∀ n ∈ (s.toJson report).integers, Writable n) :
    s.jsonText report = .ok (String.ofList (write 0 (s.toJson report))) := if_pos h

end ScanResult

end JavaSurvey
