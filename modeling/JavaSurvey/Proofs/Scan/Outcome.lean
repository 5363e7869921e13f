import JavaSurvey.Scan.Run

set_option autoImplicit false

namespace JavaSurvey

/-- What becomes of one source in a known encoding. -/
def Scan.read (parser : SourceParser) (e : Codec) (path : String) :
    Content → Except FileFault Sheet
  | .error reason => .error ⟨path, reason⟩
  | .ok bytes =>
    match e bytes with
    | .error reason => .error ⟨path, reason⟩
    | .ok text => parser (Newline.unify text) path

/-- A result after one source more, by what became of it. -/
def ScanResult.take (r : ScanResult) : Except FileFault Sheet → ScanResult
  | .ok sheet => { r with survey := r.survey.merge sheet, filesScanned := r.filesScanned + 1 }
  | .error fault => r.record (.ofFault fault)

namespace Scan

variable {codecs : Codecs} {encoding : String} {e : Codec}

theorem file_of_unopened (h : codecs encoding ≠ .error .refused) (parser : SourceParser)
    (r : ScanResult) (path reason : String) :
    ∃ entry, file codecs parser encoding r path (.error reason) =
      .ok (entry, r.take (read parser e path (.error reason))) := by
  have hread : readText codecs encoding (.error reason) = .ok (.error reason) := by
    unfold readText
    cases hname : codecs encoding with
    | ok decode => rfl
    | error fault =>
      cases fault with
      | refused => exact absurd hname h
      | unknown | notText => rfl
  rw [file, hread]
  exact ⟨_, rfl⟩

theorem file_of_known (h : codecs encoding = .ok e) (parser : SourceParser) (r : ScanResult)
    (path : String) (content : Content) :
    ∃ entry, file codecs parser encoding r path content =
      .ok (entry, r.take (read parser e path content)) := by
  cases content with
  | error reason => exact file_of_unopened (by rw [h]; nofun) parser r path reason
  | ok bytes =>
    simp only [file, readText, h, read]
    cases e bytes with
    | error reason => exact ⟨_, rfl⟩
    | ok text =>
      simp only [Except.map]
      cases parser (Newline.unify text) path with
      | error fault => exact ⟨_, rfl⟩
      | ok sheet => exact ⟨_, rfl⟩

/-- A source in memory is taken in as a file is. -/
theorem source_outcome (parser : SourceParser) (text path : String) :
    (source parser text path).outcome = .ok (ScanResult.take {} (parser text path)) := by
  unfold source
  cases parser text path <;> rfl

end Scan

namespace Visit

def source? : Visit → Option (String × Content)
  | source path content => some (path, content)
  | unlisted _ _ => none

@[simp] theorem filterMap_source?_unlisted (path reason : String) (vs : List Visit) :
    (unlisted path reason :: vs).filterMap source? = vs.filterMap source? := rfl

@[simp] theorem filterMap_source?_source (path : String) (content : Content) (vs : List Visit) :
    (source path content :: vs).filterMap source? = (path, content) :: vs.filterMap source? := rfl

def isSource : Visit → Bool
  | source _ _ => true
  | unlisted _ _ => false

def sheet? (parser : SourceParser) (e : Codec) : Visit → Option Sheet
  | source path content => (Scan.read parser e path content).toOption
  | unlisted _ _ => none

def fault? (parser : SourceParser) (e : Codec) : Visit → Option Diagnostic
  | source path content =>
    match Scan.read parser e path content with
    | .error fault => some (.ofFault fault)
    | .ok _ => none
  | unlisted path reason => some ⟨.directoryList, path, reason⟩

theorem sheet?_eq_bind (parser : SourceParser) (e : Codec) (v : Visit) :
    v.sheet? parser e = v.source?.bind fun s => (Scan.read parser e s.1 s.2).toOption := by
  cases v <;> rfl

theorem filterMap_sheet? (parser : SourceParser) (e : Codec) (vs : List Visit) :
    vs.filterMap (sheet? parser e) =
      (vs.filterMap source?).filterMap fun s => (Scan.read parser e s.1 s.2).toOption := by
  have hsheet : sheet? parser e =
      fun v => v.source?.bind fun s => (Scan.read parser e s.1 s.2).toOption :=
    funext (sheet?_eq_bind parser e)
  rw [hsheet, ← List.filterMap_filterMap]

theorem fault?_eq_none {parser : SourceParser} {e : Codec} {v : Visit}
    (h : (v.sheet? parser e).isSome) : v.fault? parser e = none := by
  cases v with
  | unlisted path reason => simp [sheet?] at h
  | source path content =>
    simp only [sheet?] at h
    simp only [fault?]
    cases hr : Scan.read parser e path content with
    | error fault => simp [hr, Except.toOption] at h
    | ok sheet => rfl

theorem count_source (parser : SourceParser) (e : Codec) (vs : List Visit) :
    (vs.filterMap (sheet? parser e)).length +
      (vs.filterMap (fault? parser e)).countP (·.kind = .fileParse) = vs.countP isSource := by
  induction vs with
  | nil => rfl
  | cons v vs ih =>
    cases v with
    | unlisted path reason =>
      simpa [List.filterMap_cons, List.countP_cons, sheet?, fault?, isSource] using ih
    | source path content =>
      cases hr : Scan.read parser e path content with
      | error fault =>
        simp [List.countP_cons, sheet?, fault?, isSource, hr, Except.toOption,
          Diagnostic.ofFault, ← ih, Nat.add_assoc]
      | ok sheet =>
        simp [List.countP_cons, sheet?, fault?, isSource, hr, Except.toOption, ← ih]
        omega

theorem count_unlisted (parser : SourceParser) (e : Codec) (vs : List Visit) :
    (vs.filterMap (fault? parser e)).countP (·.kind = .directoryList) =
      vs.countP (!isSource ·) := by
  induction vs with
  | nil => rfl
  | cons v vs ih =>
    cases v with
    | unlisted path reason => simpa [fault?, isSource] using ih
    | source path content =>
      cases hr : Scan.read parser e path content with
      | error fault => simpa [fault?, isSource, hr, Diagnostic.ofFault] using ih
      | ok sheet => simpa [fault?, isSource, hr] using ih

end Visit

def ScanResult.gather (parser : SourceParser) (e : Codec) (r : ScanResult) (vs : List Visit) :
    ScanResult where
  survey := (vs.filterMap (Visit.sheet? parser e)).foldl Survey.merge r.survey
  diagnostics := r.diagnostics ++ vs.filterMap (Visit.fault? parser e)
  filesScanned := r.filesScanned + (vs.filterMap (Visit.sheet? parser e)).length
  cancelled := r.cancelled

theorem ScanResult.gather_unlisted (parser : SourceParser) (e : Codec) (r : ScanResult)
    (path reason : String) (vs : List Visit) :
    r.gather parser e (.unlisted path reason :: vs) =
      (r.record ⟨.directoryList, path, reason⟩).gather parser e vs := by
  simp [gather, record, List.filterMap_cons, Visit.sheet?, Visit.fault?]

theorem ScanResult.gather_source (parser : SourceParser) (e : Codec) (r : ScanResult)
    (path : String) (content : Content) (vs : List Visit) :
    r.gather parser e (.source path content :: vs) =
      (r.take (Scan.read parser e path content)).gather parser e vs := by
  cases hr : Scan.read parser e path content with
  | error fault => simp [gather, take, record, Visit.sheet?, Visit.fault?, hr, Except.toOption]
  | ok sheet =>
    simp [gather, take, Visit.sheet?, Visit.fault?, hr, Except.toOption]
    omega

namespace Scan

theorem follow_never {codecs : Codecs} {encoding : String} {e : Codec}
    (h : codecs encoding = .ok e) (parser : SourceParser) (n : Nat) (log : List LogRecord)
    (r : ScanResult) (vs : List Visit) :
    (follow codecs parser encoding never n log r vs).outcome = .ok (r.gather parser e vs) := by
  induction vs generalizing n log r with
  | nil => simp [follow, ScanResult.gather]
  | cons v vs ih =>
    cases v with
    | unlisted path reason => rw [follow, ih, ScanResult.gather_unlisted]
    | source path content =>
      obtain ⟨entry, hfile⟩ := file_of_known h parser r path content
      simp only [follow, never, Bool.false_eq_true, ↓reduceIte, hfile]
      rw [ih, ScanResult.gather_source]

theorem directory_never {codecs : Codecs} {settings : Settings} {e : Codec}
    (h : codecs settings.encoding = .ok e) (parser : SourceParser) (root : String) (item : Item) :
    (directory codecs parser settings never root (.tree item)).outcome =
      .ok (ScanResult.gather parser e {} (item.visits settings.sourceSuffix root)) :=
  follow_never h parser _ _ _ _

end Scan

end JavaSurvey
