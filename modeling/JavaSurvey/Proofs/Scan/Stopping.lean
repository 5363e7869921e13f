import JavaSurvey.Proofs.Scan.Outcome
import JavaSurvey.Proofs.Survey

/-!
Scans that are stopped. The question whether to stop comes before every source, and the first yes ends
the scan. So a stopped scan has gone through a first part of the walk, as the full one does, and what
it brings back is a first part of what the full one brings back. Directories that cannot be listed
are noted up to the question that is answered yes.
-/

set_option autoImplicit false

namespace JavaSurvey

namespace Visit

/-- The visits before the source of number `k`. -/
def untilSource : Nat → List Visit → List Visit
  | _, [] => []
  | k, unlisted path reason :: vs => unlisted path reason :: untilSource k vs
  | 0, source _ _ :: _ => []
  | k + 1, source path content :: vs => source path content :: untilSource k vs

theorem untilSource_isPrefix (k : Nat) (vs : List Visit) : untilSource k vs <+: vs := by
  fun_induction untilSource k vs with
  | case1 => exact List.nil_prefix
  | case2 k path reason vs ih => exact List.cons_prefix_cons.mpr ⟨rfl, ih⟩
  | case3 => exact List.nil_prefix
  | case4 k path content vs ih => exact List.cons_prefix_cons.mpr ⟨rfl, ih⟩

theorem source?_untilSource (k : Nat) (vs : List Visit) :
    (untilSource k vs).filterMap source? = (vs.filterMap source?).take k := by
  fun_induction untilSource k vs with
  | case1 => simp
  | case2 k path reason vs ih => simpa using ih
  | case3 => simp
  | case4 k path content vs ih => simpa using ih

theorem untilSource_of_le {k : Nat} {vs : List Visit} (h : (vs.filterMap source?).length ≤ k) :
    untilSource k vs = vs := by
  fun_induction untilSource k vs with
  | case1 => rfl
  | case2 k path reason vs ih => rw [ih (by simpa using h)]
  | case3 => simp at h
  | case4 k path content vs ih => rw [ih (by simpa using h)]

end Visit

namespace Scan

/-- Of the `m` questions from number `n` on, how many are answered no before the first yes. -/
def granted (stop : Nat → Bool) (n m : Nat) : Nat :=
  ((List.range' n m).takeWhile fun i => !stop i).length

theorem granted_succ (stop : Nat → Bool) (n m : Nat) :
    granted stop n (m + 1) = if stop n then 0 else granted stop (n + 1) m + 1 := by
  rw [granted, List.range'_succ, List.takeWhile_cons]
  cases stop n <;> rfl

theorem granted_le (stop : Nat → Bool) (n m : Nat) : granted stop n m ≤ m := by
  have h := (List.takeWhile_sublist (fun i => !stop i) (l := List.range' n m)).length_le
  rwa [List.length_range'] at h

theorem granted_lt_iff (stop : Nat → Bool) (n m : Nat) :
    granted stop n m < m ↔ ∃ i < m, stop (n + i) = true := by
  induction m generalizing n with
  | zero => simp
  | succ m ih =>
    rw [granted_succ]
    cases hs : stop n with
    | true => simpa using ⟨0, by omega, hs⟩
    | false =>
      simp only [Bool.false_eq_true, ↓reduceIte, Nat.add_lt_add_iff_right, ih]
      constructor
      · rintro ⟨i, hi, h⟩
        exact ⟨i + 1, by omega, by rwa [← Nat.add_assoc, Nat.add_right_comm]⟩
      · rintro ⟨i, hi, h⟩
        cases i with
        | zero => simp [hs] at h
        | succ i => exact ⟨i, by omega, by rwa [Nat.add_right_comm]⟩

theorem granted_eq {stop : Nat → Bool} {n m : Nat} (h : ∀ i < m, stop (n + i) = false) :
    granted stop n m = m := by
  have hle := granted_le stop n m
  have hlt : ¬ granted stop n m < m := by
    rw [granted_lt_iff]
    rintro ⟨i, hi, hs⟩
    rw [h i hi] at hs
    exact Bool.false_ne_true hs
  omega

def meet (codecs : Codecs) (parser : SourceParser) (encoding : String) (r : ScanResult) :
    Visit → Except ScanError ScanResult
  | .source path content => (file codecs parser encoding r path content).map Prod.snd
  | .unlisted path reason => .ok (r.record ⟨.directoryList, path, reason⟩)

def stopIf (yes : Bool) (r : ScanResult) : ScanResult := { r with cancelled := r.cancelled || yes }

@[simp] theorem stopIf_false (r : ScanResult) : stopIf false r = r := by simp [stopIf]

theorem follow_outcome (codecs : Codecs) (parser : SourceParser) (encoding : String)
    (stop : Nat → Bool) (n : Nat) (log : List LogRecord) (r : ScanResult) (vs : List Visit) :
    let m := (vs.filterMap Visit.source?).length
    let k := granted stop n m
    (follow codecs parser encoding stop n log r vs).outcome =
      ((Visit.untilSource k vs).foldlM (meet codecs parser encoding) r).map (stopIf (k < m)) := by
  induction vs generalizing n log r with
  | nil => simp [follow, Visit.untilSource, Except.map, pure, Except.pure]
  | cons v vs ih =>
    cases v with
    | unlisted path reason => exact ih n _ _
    | source path content =>
      simp only [Visit.filterMap_source?_source, List.length_cons, granted_succ, follow]
      cases stop n with
      | true => simp [Visit.untilSource, Except.map, pure, Except.pure, stopIf]
      | false =>
        simp only [Bool.false_eq_true, ↓reduceIte, Visit.untilSource, List.foldlM_cons, meet,
          Nat.add_lt_add_iff_right]
        cases file codecs parser encoding r path content with
        | error e => rfl
        | ok taken => exact ih (n + 1) _ _

/-- Nothing about the encoding stops a scan of the visits: those that open are in `e`, and its name
is one that can be looked up. -/
structure Legible (codecs : Codecs) (encoding : String) (e : Codec) (vs : List Visit) : Prop where
  opened : ∀ path bytes, Visit.source path (.ok bytes) ∈ vs → codecs encoding = .ok e
  named : ∀ path content, Visit.source path content ∈ vs → codecs encoding ≠ .error .refused

def Blocks (fault : EncodingFault) : Visit → Prop
  | .source _ content => fault = .refused ∨ ∃ bytes, content = .ok bytes
  | .unlisted _ _ => False

section

variable {codecs : Codecs} {encoding : String} {e : Codec} {vs ws : List Visit}

theorem Legible.of_subset (h : Legible codecs encoding e ws) (hp : vs ⊆ ws) :
    Legible codecs encoding e vs :=
  ⟨fun path bytes hv => h.opened path bytes (hp hv),
    fun path content hv => h.named path content (hp hv)⟩

theorem legible_of_known (h : codecs encoding = .ok e) (vs : List Visit) :
    Legible codecs encoding e vs :=
  ⟨fun _ _ _ => h, fun _ _ _ => by rw [h]; nofun⟩

theorem foldlM_meet_of_legible (h : Legible codecs encoding e vs) (parser : SourceParser)
    (r : ScanResult) :
    vs.foldlM (meet codecs parser encoding) r = .ok (r.gather parser e vs) := by
  induction vs generalizing r with
  | nil => simp [ScanResult.gather, pure, Except.pure]
  | cons v vs ih =>
    have hvs : Legible codecs encoding e vs := h.of_subset (List.subset_cons_self v vs)
    rw [List.foldlM_cons]
    cases v with
    | unlisted path reason =>
      rw [ScanResult.gather_unlisted]
      exact ih hvs _
    | source path content =>
      have hfile : ∃ entry, file codecs parser encoding r path content =
          .ok (entry, r.take (read parser e path content)) := by
        cases content with
        | error reason =>
          exact file_of_unopened (h.named path _ List.mem_cons_self) parser r path reason
        | ok bytes => exact file_of_known (h.opened path bytes List.mem_cons_self) parser r path _
      obtain ⟨entry, hfile⟩ := hfile
      rw [ScanResult.gather_source, meet, hfile]
      exact ih hvs _

theorem file_of_blocked {fault : EncodingFault} (h : codecs encoding = .error fault) {path : String}
    {content : Content} (hb : Blocks fault (.source path content)) (parser : SourceParser)
    (r : ScanResult) :
    file codecs parser encoding r path content = .error (.encoding fault encoding) := by
  have hread : readText codecs encoding content = .error fault := by
    unfold readText
    rw [h]
    rcases hb with rfl | ⟨bytes, rfl⟩
    · rfl
    · cases fault <;> rfl
  rw [file, hread]

theorem foldlM_meet_of_blocked {fault : EncodingFault} (h : codecs encoding = .error fault)
    {v : Visit} (hv : v ∈ vs) (hb : Blocks fault v) (parser : SourceParser) (r : ScanResult) :
    vs.foldlM (meet codecs parser encoding) r = .error (.encoding fault encoding) := by
  induction vs generalizing r with
  | nil => simp at hv
  | cons w vs ih =>
    rw [List.foldlM_cons]
    have hrest (hw : ¬ Blocks fault w) : v ∈ vs := by
      rcases List.mem_cons.mp hv with rfl | hv
      · exact absurd hb hw
      · exact hv
    cases w with
    | unlisted path reason => exact ih (hrest nofun) _
    | source path content =>
      by_cases hw : Blocks fault (.source path content)
      · rw [meet, file_of_blocked h hw]
        rfl
      · -- the name is not refused and the file does not open
        cases content with
        | ok bytes => exact absurd (.inr ⟨bytes, rfl⟩) hw
        | error reason =>
          have hlate : codecs encoding ≠ .error .refused := by
            rw [h]
            exact fun hr => hw (.inl (Except.error.inj hr))
          obtain ⟨entry, hfile⟩ :=
            file_of_unopened (e := fun _ => .ok "") hlate parser r path reason
          rw [meet, hfile]
          exact ih (hrest hw) _

theorem legible_or_blocked (codecs : Codecs) (encoding : String) (vs : List Visit) :
    (∃ e, Legible codecs encoding e vs) ∨
      ∃ fault, codecs encoding = .error fault ∧ ∃ v ∈ vs, Blocks fault v := by
  cases hname : codecs encoding with
  | ok e => exact .inl ⟨e, legible_of_known hname vs⟩
  | error fault =>
    by_cases hv : ∃ v ∈ vs, Blocks fault v
    · exact .inr ⟨fault, rfl, hv⟩
    · refine .inl ⟨fun _ => .ok "", fun path bytes h => ?_, fun path content h hr => ?_⟩
      · exact absurd ⟨_, h, .inr ⟨bytes, rfl⟩⟩ hv
      · rw [hname] at hr
        exact hv ⟨_, h, .inl (Except.error.inj hr)⟩

theorem legible_of_foldlM_eq_ok {parser : SourceParser} {r f : ScanResult}
    (h : vs.foldlM (meet codecs parser encoding) r = .ok f) :
    ∃ e, Legible codecs encoding e vs ∧ f = r.gather parser e vs := by
  rcases legible_or_blocked codecs encoding vs with ⟨e, he⟩ | ⟨fault, hn, v, hv, hb⟩
  · rw [foldlM_meet_of_legible he] at h
    exact ⟨e, he, (Except.ok.inj h).symm⟩
  · rw [foldlM_meet_of_blocked hn hv hb] at h
    cases h

end

theorem gather_isPrefix (parser : SourceParser) (e : Codec) (r : ScanResult) {vs ws : List Visit}
    (h : vs <+: ws) :
    (r.gather parser e vs).survey.inventory.classes <+:
        (r.gather parser e ws).survey.inventory.classes ∧
      (r.gather parser e vs).diagnostics <+: (r.gather parser e ws).diagnostics := by
  obtain ⟨rest, rfl⟩ := h
  simp only [ScanResult.gather, List.filterMap_append, List.foldl_append, ← List.append_assoc]
  obtain ⟨new, hnew, -⟩ := Survey.classes_mergeAll
    ((vs.filterMap (Visit.sheet? parser e)).foldl Survey.merge r.survey)
    (rest.filterMap (Visit.sheet? parser e))
  exact ⟨⟨new, hnew.symm⟩, List.prefix_append _ _⟩

def handled (stop : Nat → Bool) (vs : List Visit) : List Visit :=
  Visit.untilSource (granted stop 0 (vs.filterMap Visit.source?).length) vs

theorem handled_isPrefix (stop : Nat → Bool) (vs : List Visit) : handled stop vs <+: vs :=
  Visit.untilSource_isPrefix _ vs

theorem directory_outcome (codecs : Codecs) (parser : SourceParser) (settings : Settings)
    (stop : Nat → Bool) (root : String) (item : Item) :
    let vs := item.visits settings.sourceSuffix root
    let m := (vs.filterMap Visit.source?).length
    (directory codecs parser settings stop root (.tree item)).outcome =
      ((handled stop vs).foldlM (meet codecs parser settings.encoding) {}).map
        (stopIf (granted stop 0 m < m)) :=
  follow_outcome codecs parser settings.encoding stop 0 _ {} _

theorem directory_outcome_of_unstopped (codecs : Codecs) (parser : SourceParser) (settings : Settings)
    (stop : Nat → Bool) (root : String) (item : Item)
    (h : ∀ n < ((item.visits settings.sourceSuffix root).filterMap Visit.source?).length,
      stop n = false) :
    (directory codecs parser settings stop root (.tree item)).outcome =
      (item.visits settings.sourceSuffix root).foldlM (meet codecs parser settings.encoding) {} := by
  have hall : granted stop 0 _ = _ := granted_eq fun i hi => by rw [Nat.zero_add, h i hi]
  have hmark : stopIf false = id := funext stopIf_false
  simp only [directory_outcome, handled, hall, Visit.untilSource_of_le (Nat.le_refl _),
    Nat.lt_irrefl, decide_false, hmark, Except.map_id, id]

/-- A stopped scan has done with the sources before the first yes what the full scan does with them,
and with nothing else. -/
theorem directory_of_stopped (codecs : Codecs) (parser : SourceParser) (settings : Settings)
    (stop : Nat → Bool) (root : String) (item : Item) :
    let vs := item.visits settings.sourceSuffix root
    let sources := vs.filterMap Visit.source?
    let k := granted stop 0 sources.length
    let full := (directory codecs parser settings never root (.tree item)).outcome
    let part := (directory codecs parser settings stop root (.tree item)).outcome
    (handled stop vs <+: vs ∧ (handled stop vs).filterMap Visit.source? = sources.take k) ∧
    full = vs.foldlM (meet codecs parser settings.encoding) {} ∧
    part = ((handled stop vs).foldlM (meet codecs parser settings.encoding) {}).map
      (stopIf (k < sources.length)) ∧
    (∀ e, Legible codecs settings.encoding e (handled stop vs) →
      let sheets := (sources.take k).filterMap fun s => (read parser e s.1 s.2).toOption
      ∃ r, part = .ok r ∧ r.survey = sheets.foldl Survey.merge {} ∧
        r.filesScanned = sheets.length ∧
        (r.cancelled = true ↔ ∃ n < sources.length, stop n = true)) ∧
    (∀ f, full = .ok f → ∃ r, part = .ok r ∧
      r.survey.inventory.classes <+: f.survey.inventory.classes ∧
      r.diagnostics <+: f.diagnostics) ∧
    ((∀ n < sources.length, stop n = false) →
      part = full ∧ ∀ r, part = .ok r → r.cancelled = false) := by
  intro vs sources k full part
  have hfull : full = vs.foldlM (meet codecs parser settings.encoding) {} :=
    directory_outcome_of_unstopped codecs parser settings never root item fun _ _ => rfl
  have hpart : part = ((handled stop vs).foldlM (meet codecs parser settings.encoding) {}).map
      (stopIf (k < sources.length)) := directory_outcome codecs parser settings stop root item
  have hlegible : ∀ e, Legible codecs settings.encoding e (handled stop vs) →
      part = .ok (stopIf (k < sources.length) (ScanResult.gather parser e {} (handled stop vs))) := by
    intro e he
    rw [hpart, foldlM_meet_of_legible he]
    rfl
  have hsources : (handled stop vs).filterMap Visit.source? = sources.take k :=
    Visit.source?_untilSource k vs
  refine ⟨⟨handled_isPrefix stop vs, hsources⟩, hfull, hpart, fun e he => ?_, fun f hf => ?_,
    fun hnone => ?_⟩
  · intro sheets
    have hsheets : (handled stop vs).filterMap (Visit.sheet? parser e) = sheets := by
      rw [Visit.filterMap_sheet?, hsources]
    refine ⟨_, hlegible e he, ?_, ?_, ?_⟩
    · rw [← hsheets]
      rfl
    · rw [← hsheets]
      exact Nat.zero_add _
    · have hk := granted_lt_iff stop 0 sources.length
      simpa [stopIf, ScanResult.gather, k] using hk
  · rw [hfull] at hf
    obtain ⟨e, he, rfl⟩ := legible_of_foldlM_eq_ok hf
    exact ⟨_, hlegible e (he.of_subset (handled_isPrefix stop vs).subset),
      gather_isPrefix parser e {} (handled_isPrefix stop vs)⟩
  · have hsame : part = vs.foldlM (meet codecs parser settings.encoding) {} :=
      directory_outcome_of_unstopped codecs parser settings stop root item hnone
    refine ⟨hsame.trans hfull.symm, fun r hr => ?_⟩
    rw [hsame] at hr
    obtain ⟨e, -, rfl⟩ := legible_of_foldlM_eq_ok hr
    rfl

end Scan

end JavaSurvey
