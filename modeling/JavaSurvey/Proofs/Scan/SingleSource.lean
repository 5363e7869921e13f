import JavaSurvey.Proofs.Scan.Failures
import JavaSurvey.Proofs.Text.Utf8
import JavaSurvey.Text.Encoding

/-!
A directory with one source. Its scan is the scan of the text that the source holds, once the line
ends of that text are unified: there is no text that the bytes on disk, the decoding with its
replacements and the walk would change. Directories in it that cannot be listed add diagnostics of
their own.
-/

set_option autoImplicit false

namespace JavaSurvey

namespace Newline

def joinPairs : List Char → List Char
  | [] => []
  | '\r' :: '\n' :: rest => '\n' :: joinPairs rest
  | c :: rest => c :: joinPairs rest

/-- First the pairs, then the carriage returns that are left. -/
def inTwoPasses (s : String) : String :=
  String.ofList ((joinPairs s.toList).map fun c => if c = '\r' then '\n' else c)

theorem unifyChars_eq_map_joinPairs (cs : List Char) :
    unifyChars cs = (joinPairs cs).map fun c => if c = '\r' then '\n' else c := by
  fun_induction unifyChars cs with
  | case1 => rfl
  | case2 rest ih => simp [joinPairs, ih]
  | case3 c rest hpair ih =>
    rw [joinPairs, List.map_cons, ih]
    exact hpair

theorem unify_eq_inTwoPasses (s : String) : unify s = inTwoPasses s := by
  rw [unify, inTwoPasses, unifyChars_eq_map_joinPairs]

end Newline

def Utf8.codec : Codec := fun bs => .ok (decode bs)

theorem Encoding.codecs_utf8 : codecs "utf-8" = .ok Utf8.codec := by
  have hname : ofName? "utf-8" = some .utf8 := by decide
  have hplain : '\x00' ∉ "utf-8".toList := by decide
  rw [codecs, if_neg hplain, hname]
  rfl

theorem Scan.read_utf8 (parser : SourceParser) (path s : String) :
    read parser Utf8.codec path (.ok s.toUTF8.data.toList) =
      parser (Newline.inTwoPasses s) path := by
  rw [← Utf8.encode_eq, ← Newline.unify_eq_inTwoPasses]
  simp only [read, Utf8.codec, Utf8.decode_encode]

namespace Visit

theorem filter_fault? (parser : SourceParser) (e : Codec) (vs : List Visit) :
    (vs.filterMap (fault? parser e)).filter (·.kind = .fileParse) =
      (vs.filterMap source?).filterMap fun s => fault? parser e (.source s.1 s.2) := by
  induction vs with
  | nil => rfl
  | cons v vs ih =>
    cases v with
    | unlisted path reason => simpa [fault?] using ih
    | source path content =>
      cases hr : Scan.read parser e path content with
      | error fault => simpa [fault?, hr, Diagnostic.ofFault] using ih
      | ok sheet => simpa [fault?, hr] using ih

theorem filterMap_source?_length (vs : List Visit) :
    (vs.filterMap source?).length = vs.countP isSource := by
  induction vs with
  | nil => rfl
  | cons v vs ih => cases v <;> simpa [isSource, List.countP_cons] using ih

theorem fault?_eq_filter_iff (parser : SourceParser) (e : Codec) {vs : List Visit} :
    (vs.filterMap (fault? parser e)).filter (·.kind = .fileParse) =
        vs.filterMap (fault? parser e) ↔
      vs.countP (!isSource ·) = 0 := by
  rw [← count_unlisted parser e vs, List.countP_eq_zero, List.filter_eq_self]
  refine forall₂_congr fun d _ => ?_
  cases hk : d.kind <;> simp

end Visit

namespace Item

def isSourceNamed (suffix name : String) (item : Item) : Bool := hasSuffix suffix name && item.isFile

theorem source?_visits_of_single {suffix : String} {item : Item} {route : List String}
    {content : Content} (only : item.countBelow (isSourceNamed suffix) = 1)
    (holds : item.Holds suffix route content) (root : String) :
    (item.visits suffix root).filterMap Visit.source? = [(route.foldl joinPath root, content)] := by
  have hlength := Visit.filterMap_source?_length (item.visits suffix root)
  rw [countP_isSource_visits] at hlength
  have hone : ((item.visits suffix root).filterMap Visit.source?).length = 1 := hlength.trans only
  obtain ⟨s, hs⟩ := List.length_eq_one_iff.mp hone
  have hmem : (route.foldl joinPath root, content) ∈
      (item.visits suffix root).filterMap Visit.source? := by
    rw [source?_visits]
    exact List.mem_map_of_mem (f := fun s => (s.1.foldl joinPath root, s.2)) (mem_tour_iff.mpr holds)
  rw [hs, List.mem_singleton] at hmem
  rw [hs, hmem]

theorem Holds.not_isUnlistable {suffix : String} {item : Item} {route : List String}
    {content : Content} (holds : item.Holds suffix route content) : item.isUnlistable = false := by
  cases holds <;> rfl

end Item

namespace Scan

theorem filter_take (fact : Except FileFault Sheet) :
    (ScanResult.take {} fact).diagnostics.filter (·.kind = .fileParse) =
      (ScanResult.take {} fact).diagnostics := by
  cases fact <;> rfl

theorem gather_single (parser : SourceParser) (e : Codec) (path : String) (content : Content) :
    ScanResult.gather parser e {} [.source path content] =
      ScanResult.take {} (read parser e path content) := by
  rw [ScanResult.gather_source]
  simp [ScanResult.gather]

/-- One source in a directory, in UTF-8, is scanned as its text is. The diagnostics of files are the
same too, and there are others exactly if some directory below cannot be listed. -/
theorem directory_of_single_source {codecs : Codecs} {settings : Settings} {item : Item}
    {route : List String} {s : String} (encoded : codecs settings.encoding = .ok Utf8.codec)
    (only : item.countBelow (Item.isSourceNamed settings.sourceSuffix) = 1)
    (holds : item.Holds settings.sourceSuffix route (.ok s.toUTF8.data.toList))
    (parser : SourceParser) (root : String) :
    ∃ r r', (directory codecs parser settings never root (.tree item)).outcome = .ok r ∧
      (source parser (Newline.inTwoPasses s) (route.foldl joinPath root)).outcome = .ok r' ∧
      r.survey = r'.survey ∧ r.filesScanned = r'.filesScanned ∧ r.cancelled = r'.cancelled ∧
      r.diagnostics.filter (·.kind = .fileParse) = r'.diagnostics ∧
      (r.diagnostics = r'.diagnostics ↔ item.countBelow (fun _ i => i.isUnlistable) = 0) := by
  have htext : (source parser (Newline.inTwoPasses s) (route.foldl joinPath root)).outcome =
      .ok (ScanResult.gather parser Utf8.codec {}
        [.source (route.foldl joinPath root) (.ok s.toUTF8.data.toList)]) := by
    rw [source_outcome, gather_single, read_utf8]
  have hsources := Item.source?_visits_of_single only holds root
  have hsheets : (item.visits settings.sourceSuffix root).filterMap (Visit.sheet? parser Utf8.codec) =
      [Visit.source (route.foldl joinPath root) (.ok s.toUTF8.data.toList)].filterMap
        (Visit.sheet? parser Utf8.codec) := by
    rw [Visit.filterMap_sheet?, hsources, Visit.filterMap_sheet?]
    rfl
  have hfaults := Visit.filter_fault? parser Utf8.codec (item.visits settings.sourceSuffix root)
  rw [hsources] at hfaults
  have hunlisted : (item.visits settings.sourceSuffix root).countP (!Visit.isSource ·) =
      item.countBelow fun _ i => i.isUnlistable := by
    rw [Item.countP_unlisted_visits, holds.not_isUnlistable]
    exact Nat.zero_add _
  refine ⟨_, _, directory_never encoded parser root item, htext, ?_, ?_, rfl, hfaults, ?_⟩
  · simp only [ScanResult.gather, hsheets]
  · simp only [ScanResult.gather, hsheets]
  · rw [← hunlisted, ← Visit.fault?_eq_filter_iff parser Utf8.codec, hfaults]
    exact eq_comm

/-- A source two levels down, beside a file that is none, with a byte order mark, a replacement
character, one beyond the first plane, and line ends of all kinds. -/
theorem directory_of_single_source_mixed :
    let s := "\uFEFFint a;\r\r\nint b; // \uFFFD 😀\r"
    let src : Item := .folder [("lib", .folder []), ("A.java", .file s.toUTF8.data.toList)]
    let item : Item := .folder [("notes.txt", .file [0xFF]), ("src", src)]
    let parser : SourceParser := fun text path => .ok { types := [{ name := path ++ text }] }
    Encoding.codecs ({} : Settings).encoding = .ok Utf8.codec ∧
      item.countBelow (Item.isSourceNamed ".java") = 1 ∧
      item.Holds ".java" ["src", "A.java"] (.ok s.toUTF8.data.toList) ∧
      item.countBelow (fun _ i => i.isUnlistable) = 0 ∧
      Newline.inTwoPasses s = "\uFEFFint a;\n\nint b; // \uFFFD 😀\n" ∧
      ∃ r r', (directory Encoding.codecs parser {} never "proj" (.tree item)).outcome = .ok r ∧
        (source parser "\uFEFFint a;\n\nint b; // \uFFFD 😀\n" "proj/src/A.java").outcome = .ok r' ∧
        r.survey = r'.survey ∧ r.diagnostics = r'.diagnostics := by
  intro s src item parser
  have only : item.countBelow (Item.isSourceNamed ".java") = 1 := by decide
  have inside : src.Holds ".java" ["A.java"] (.ok s.toUTF8.data.toList) :=
    .here (.tail _ (.head _)) (by decide) rfl
  have holds : item.Holds ".java" ["src", "A.java"] (.ok s.toUTF8.data.toList) :=
    .deeper (.tail _ (.head _)) inside
  have listed : item.countBelow (fun _ i => i.isUnlistable) = 0 := by decide
  have htext : Newline.inTwoPasses s = "\uFEFFint a;\n\nint b; // \uFFFD 😀\n" := by decide
  have hpath : ["src", "A.java"].foldl joinPath "proj" = "proj/src/A.java" := by decide
  have encoded : Encoding.codecs ({} : Settings).encoding = .ok Utf8.codec := Encoding.codecs_utf8
  obtain ⟨r, r', hr, hr', hsurvey, -, -, -, hsame⟩ :=
    directory_of_single_source encoded only holds parser "proj"
  rw [htext, hpath] at hr'
  exact ⟨encoded, only, holds, listed, htext, r, r', hr, hr', hsurvey, hsame.mpr listed⟩

/-- A directory that cannot be listed, beside the only source. -/
theorem directory_ne_source_beside_unlistable :
    let s := "class A \x7b\x7d"
    let item : Item :=
      .folder [("A.java", .file s.toUTF8.data.toList), ("sub", .unlistable "Permission denied")]
    item.countBelow (Item.isSourceNamed ".java") = 1 ∧
      item.Holds ".java" ["A.java"] (.ok s.toUTF8.data.toList) ∧ Newline.inTwoPasses s = s ∧
      ∀ parser, (directory Encoding.codecs parser {} never "proj" (.tree item)).outcome ≠
        (source parser s "proj/A.java").outcome := by
  intro s item
  refine ⟨by decide, .here (.head _) (by decide) rfl, by decide, fun parser hsame => ?_⟩
  have hcount := Item.countP_unlisted_visits ".java" "proj" item
  have hone : item.countBelow (fun _ i => i.isUnlistable) = 1 := by decide
  rw [directory_never Encoding.codecs_utf8, source_outcome] at hsame
  -- the other scan has no diagnostics of directories, so this one would have none
  have hnone := filter_take (parser s "proj/A.java")
  rw [← Except.ok.inj hsame] at hnone
  have hzero := (Visit.fault?_eq_filter_iff _ _).mp hnone
  rw [hcount, hone] at hzero
  cases hzero

end Scan

end JavaSurvey
