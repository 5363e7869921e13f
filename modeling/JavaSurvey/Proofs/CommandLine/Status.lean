import JavaSurvey.CommandLine.Run
import JavaSurvey.Proofs.Files.Write
import JavaSurvey.Proofs.Report.Export
import JavaSurvey.Proofs.Report.Text
import JavaSurvey.Proofs.Scan.Stopping
import JavaSurvey.Proofs.Threshold

set_option autoImplicit false

namespace JavaSurvey

/-! ### Refused thresholds -/

namespace CommandLine

theorem report_refused_iff {s : Survey} {o : Options} {bad : Given} :
    s.report o.threshold = .error (.threshold (.invalid bad)) ↔
      ∃ text, o.minMethods = some text ∧
        Threshold.parse (.text text) = .error (.invalid bad) := by
  rw [Survey.report_eq_threshold_error_iff, Options.threshold]
  cases o.minMethods with
  | none => simp [Survey.overThreshold]
  | some text =>
    simp only [s.overThreshold_eq (v := .text text) (by simp), Option.some.injEq, exists_eq_left']
    cases Threshold.parse (.text text) with
    | error e => simp [Except.map]
    | ok n => simp [Except.map]

/-! ### Failed scans -/

theorem given?_eq_some_iff {v : Option String} {s : String} :
    given? v = some s ↔ v = some s ∧ s ≠ "" := by
  unfold given?
  split
  · constructor
    · intro h
      cases h
    · rintro ⟨h, hne⟩
      exact absurd (Option.some.inj h).symm hne
  · rename_i hne
    constructor
    · rintro rfl
      exact ⟨rfl, fun hs => hne (hs ▸ rfl)⟩
    · exact fun h => h.1

section

variable {codecs : Codecs} {parser : SourceParser} {o : Options} {settings : Settings}
  {root : String → Root}

theorem directory_error {path : String} {found : Root} {e : ScanError}
    (h : (Scan.directory codecs parser settings Scan.never path found).outcome = .error e) :
    e = .notDirectory path ∨ e = .notReadable path ∨
      ∃ fault, e = .encoding fault settings.encoding := by
  cases found with
  | missing =>
    cases h
    exact .inl rfl
  | unreadable =>
    cases h
    exact .inr (.inl rfl)
  | tree item =>
    rw [Scan.directory_outcome_of_unstopped codecs parser settings Scan.never path item
      fun _ _ => rfl] at h
    rcases Scan.legible_or_blocked codecs settings.encoding
      (item.visits settings.sourceSuffix path) with ⟨enc, hlegible⟩ | ⟨fault, hname, v, hv, hb⟩
    · rw [Scan.foldlM_meet_of_legible hlegible] at h
      cases h
    · rw [Scan.foldlM_meet_of_blocked hname hv hb] at h
      cases h
      exact .inr (.inr ⟨fault, rfl⟩)

theorem scan_error {e : ScanError} (h : (scan codecs parser o settings root).outcome = .error e) :
    ∃ path, o.path = some path ∧ path ≠ "" ∧
      (Scan.directory codecs parser settings Scan.never path (root path)).outcome = .error e := by
  unfold scan at h
  split at h
  · rename_i path hpath
    obtain ⟨hgiven, hne⟩ := given?_eq_some_iff.mp hpath
    exact ⟨path, hgiven, hne, h⟩
  · unfold Scan.source at h
    split at h <;> cases h

theorem scan_of_path {path : String} (h : o.path = some path) (hne : path ≠ "") :
    scan codecs parser o settings root =
      Scan.directory codecs parser settings Scan.never path (root path) := by
  unfold scan
  rw [given?_eq_some_iff.mpr ⟨h, hne⟩]

theorem scan_fails_iff :
    (∃ e, (scan codecs parser o settings root).outcome = .error e ∧
        ∀ fault name, e ≠ .encoding fault name) ↔
      ∃ path, o.path = some path ∧ path ≠ "" ∧
        ∃ e, (Scan.directory codecs parser settings Scan.never path (root path)).outcome = .error e ∧
          (e = .notDirectory path ∨ e = .notReadable path) := by
  constructor
  · rintro ⟨e, he, known⟩
    obtain ⟨path, hpath, hne, hscan⟩ := scan_error he
    refine ⟨path, hpath, hne, e, hscan, ?_⟩
    rcases directory_error hscan with he | he | ⟨fault, he⟩
    · exact .inl he
    · exact .inr he
    · exact absurd he (known fault _)
  · rintro ⟨path, hpath, hne, e, he, hroot⟩
    refine ⟨e, by rw [scan_of_path hpath hne, he], ?_⟩
    rcases hroot with rfl | rfl
    · exact nofun
    · exact nofun

end

/-! ### The three ways to a status -/

/-- How a plan comes to its status. -/
inductive Course (o : Options) (codecs : Codecs) (parser : SourceParser) (settings : Settings)
    (root : String → Root) : Plan → Nat → Prop
  | rootFailed {p : Plan} {e : ScanError}
      (outcome : (scan codecs parser o settings root).outcome = .error e)
      (known : ∀ fault name, e ≠ .encoding fault name) (quiet : p.stdout = "")
      (nothing : p.closing.file = none) : Course o codecs parser settings root p 1
  | refused {p : Plan} {r : ScanResult} {bad : Given}
      (outcome : (scan codecs parser o settings root).outcome = .ok r)
      (report : r.survey.report o.threshold = .error (.threshold (.invalid bad)))
      (quiet : p.stdout = "") (nothing : p.closing.file = none) :
      Course o codecs parser settings root p 2
  | delivered {least : LogLevel} {stderr : String} {r : ScanResult} {rep : Report}
      (log : level o settings = .ok least)
      (outcome : (scan codecs parser o settings root).outcome = .ok r)
      (report : r.survey.report o.threshold = .ok rep)
      (printed : (deliver least o stderr r rep).ending = .ok 0) :
      Course o codecs parser settings root (deliver least o stderr r rep) 0

theorem print_ending {stderr : String} {text : Except DigitLimit String} {closing : Closing}
    {status : Nat} (h : (print stderr text closing).ending = .ok status) : status = 0 := by
  cases text with
  | ok text => exact (Except.ok.inj h).symm
  | error e => cases h

theorem deliver_ending {least : LogLevel} {o : Options} {stderr : String} {r : ScanResult}
    {report : Report} {status : Nat} (h : (deliver least o stderr r report).ending = .ok status) :
    status = 0 := by
  unfold deliver at h
  simp only at h
  split at h <;> exact print_ending h

theorem Options.course {o : Options} {codecs : Codecs} {parser : SourceParser} {settings : Settings}
    {root : String → Root} {status : Nat}
    (h : (o.plan codecs parser settings root).ending = .ok status) :
    Course o codecs parser settings root (o.plan codecs parser settings root) status := by
  unfold Options.plan at h ⊢
  cases hlevel : level o settings with
  | error name => simp [hlevel] at h
  | ok least =>
    simp only [hlevel] at h ⊢
    cases houtcome : (scan codecs parser o settings root).outcome with
    | error e =>
      cases e with
      | encoding fault name => simp [houtcome] at h
      | notDirectory path =>
        simp only [houtcome] at h ⊢
        cases h
        exact .rootFailed houtcome nofun rfl rfl
      | notReadable path =>
        simp only [houtcome] at h ⊢
        cases h
        exact .rootFailed houtcome nofun rfl rfl
    | ok r =>
      simp only [houtcome, conclude] at h ⊢
      split at h
      · rename_i bad hreport
        cases h
        exact .refused houtcome hreport rfl rfl
      · cases h
      · rename_i rep hreport
        obtain rfl := deliver_ending h
        exact .delivered hlevel houtcome hreport h

section

variable {o : Options} {codecs : Codecs} {parser : SourceParser} {settings : Settings}
  {root : String → Root} {p : Plan} {status : Nat}

theorem Course.status_eq_one_iff (h : Course o codecs parser settings root p status) :
    status = 1 ↔ ∃ path, o.path = some path ∧ path ≠ "" ∧
      ∃ e, (Scan.directory codecs parser settings Scan.never path (root path)).outcome = .error e ∧
        (e = .notDirectory path ∨ e = .notReadable path) := by
  rw [← scan_fails_iff]
  cases h with
  | rootFailed outcome known quiet nothing => exact ⟨fun _ => ⟨_, outcome, known⟩, fun _ => rfl⟩
  | refused outcome report quiet nothing =>
    refine ⟨nofun, ?_⟩
    rintro ⟨e, he, -⟩
    rw [outcome] at he
    cases he
  | delivered log outcome report printed =>
    refine ⟨nofun, ?_⟩
    rintro ⟨e, he, -⟩
    rw [outcome] at he
    cases he

theorem Course.status_eq_two_iff (h : Course o codecs parser settings root p status) :
    status = 2 ↔ ∃ r text bad, (scan codecs parser o settings root).outcome = .ok r ∧
      o.minMethods = some text ∧ Threshold.parse (.text text) = .error (.invalid bad) := by
  cases h with
  | rootFailed outcome known quiet nothing =>
    refine ⟨nofun, ?_⟩
    rintro ⟨r, -, -, hr, -⟩
    rw [outcome] at hr
    cases hr
  | @refused _ r bad outcome report quiet nothing =>
    obtain ⟨text, htext, hbad⟩ := report_refused_iff.mp report
    exact ⟨fun _ => ⟨r, text, bad, outcome, htext, hbad⟩, fun _ => rfl⟩
  | @delivered _ _ r rep log outcome report printed =>
    refine ⟨nofun, ?_⟩
    rintro ⟨-, text, bad, -, htext, hbad⟩
    have hrefused : r.survey.report o.threshold = .error (.threshold (.invalid bad)) :=
      report_refused_iff.mpr ⟨text, htext, hbad⟩
    rw [report] at hrefused
    cases hrefused

theorem Course.status_cases (h : Course o codecs parser settings root p status) :
    status = 0 ∨ status = 1 ∨ status = 2 := by
  cases h <;> simp

theorem Course.quiet (h : Course o codecs parser settings root p status) (hne : status ≠ 0) :
    p.stdout = "" ∧ p.closing.file = none := by
  cases h with
  | rootFailed outcome known quiet nothing => exact ⟨quiet, nothing⟩
  | refused outcome report quiet nothing => exact ⟨quiet, nothing⟩
  | delivered => exact absurd rfl hne

end

theorem Plan.perform_stdout (p : Plan) (v : Volume) : (p.perform v).stdout = p.stdout := by
  unfold Plan.perform
  split
  · rfl
  · split <;> rfl

theorem Plan.perform_of_none {p : Plan} (h : p.closing.file = none) (v : Volume) :
    (p.perform v).volume = v ∧ (p.perform v).ending = p.ending := by
  unfold Plan.perform
  rw [h]
  exact ⟨rfl, rfl⟩

theorem Plan.perform_of_ok {p : Plan} {v : Volume} {status : Nat}
    (h : (p.perform v).ending = .ok status) :
    p.ending = .ok status ∧ ∀ path text, p.closing.file = some (path, text) →
      ∃ written, text = .ok written ∧
        v.write path (Utf8.encode written) = .ok (p.perform v).volume := by
  unfold Plan.perform at h ⊢
  cases hfile : p.closing.file with
  | none =>
    simp only [hfile] at h
    exact ⟨h, nofun⟩
  | some f =>
    obtain ⟨path, text⟩ := f
    simp only [hfile] at h ⊢
    cases hwrite : v.write path (Utf8.encode (text.toOption.getD "")) with
    | error t => simp [hwrite] at h
    | ok v' =>
      cases text with
      | error e => simp [hwrite] at h
      | ok written =>
        simp only [hwrite] at h ⊢
        refine ⟨h, fun path' text' he => ?_⟩
        cases he
        exact ⟨written, rfl, hwrite⟩

theorem print_of_ok {stderr : String} {text : Except DigitLimit String} {closing : Closing}
    {status : Nat} (h : (print stderr text closing).ending = .ok status) :
    ∃ printed, text = .ok printed ∧ (print stderr text closing).stdout = printed ++ "\n" ∧
      (print stderr text closing).closing = closing := by
  cases text with
  | ok printed => exact ⟨printed, rfl, rfl, rfl⟩
  | error e => cases h

theorem deliver_of_file {o : Options} {file : String} (h : o.jsonOut = some file) (hne : file ≠ "")
    (hdash : file ≠ "-") (least : LogLevel) (stderr : String) (r : ScanResult) (report : Report) :
    ∃ after, deliver least o stderr r report =
      print stderr (report.text o.showGraph) ⟨some (file, r.jsonText (some report)), after⟩ := by
  have hgiven : given? o.jsonOut = some file := given?_eq_some_iff.mpr ⟨h, hne⟩
  simp only [deliver, hgiven]
  exact ⟨_, rfl⟩

theorem deliver_of_dash {o : Options} (h : o.jsonOut = some "-") (least : LogLevel)
    (stderr : String) (r : ScanResult) (report : Report) :
    ∃ after, deliver least o stderr r report =
      print stderr (r.jsonText (some report)) ⟨none, after⟩ := by
  have hgiven : given? o.jsonOut = some "-" := given?_eq_some_iff.mpr ⟨h, by decide⟩
  simp only [deliver, hgiven]
  exact ⟨_, rfl⟩

theorem Options.plan_eq_deliver {o : Options} {codecs : Codecs} {parser : SourceParser}
    {settings : Settings} {root : String → Root} {least : LogLevel} {r : ScanResult} {rep : Report}
    (hlevel : level o settings = .ok least)
    (houtcome : (scan codecs parser o settings root).outcome = .ok r)
    (hreport : r.survey.report o.threshold = .ok rep) :
    ∃ stderr, o.plan codecs parser settings root = deliver least o stderr r rep := by
  simp only [Options.plan, hlevel, houtcome, conclude, hreport]
  exact ⟨_, rfl⟩

theorem Options.perform_dash {o : Options} {codecs : Codecs} {parser : SourceParser}
    {settings : Settings} {root : String → Root} {least : LogLevel} {r : ScanResult} {rep : Report}
    (hdash : o.jsonOut = some "-") (hlevel : level o settings = .ok least)
    (houtcome : (scan codecs parser o settings root).outcome = .ok r)
    (hreport : r.survey.report o.threshold = .ok rep) {json : String}
    (hjson : r.jsonText (some rep) = .ok json) (v : Volume) :
    let out := (o.plan codecs parser settings root).perform v
    out.ending = .ok 0 ∧ out.stdout = json ++ "\n" ∧ out.volume = v := by
  obtain ⟨stderr, hplan⟩ := plan_eq_deliver hlevel houtcome hreport
  obtain ⟨after, hdeliver⟩ := deliver_of_dash hdash least stderr r rep
  rw [hplan, hdeliver, hjson]
  exact ⟨rfl, rfl, rfl⟩

/-- A run with a status ends with 1 if its root could not be scanned, with 2 if its threshold was
refused, and else with 0, whatever else failed. Up to then it has printed and written nothing. A file
that is named for the report holds what a dash would print. -/
theorem run_status (codecs : Codecs) (parser : SourceParser) (args : List String) (env : Environment)
    (denied : Denials) (v : Volume) (o : Options) (status : Nat)
    (haccepted : parse args = .ok (.run o))
    (hstatus : (run codecs parser args env denied v).ending = .ok status) :
    let settings := Settings.ofEnvironment env
    let outcome := (scan codecs parser o settings (v.root denied)).outcome
    let out := run codecs parser args env denied v
    (status = 1 ↔ ∃ path, o.path = some path ∧ path ≠ "" ∧
      ∃ e, (Scan.directory codecs parser settings Scan.never path (v.root denied path)).outcome =
          .error e ∧ (e = .notDirectory path ∨ e = .notReadable path)) ∧
    (status = 2 ↔ ∃ r text bad, outcome = .ok r ∧ o.minMethods = some text ∧
      Threshold.parse (.text text) = .error (.invalid bad)) ∧
    (status = 0 ∨ status = 1 ∨ status = 2) ∧
    (status ≠ 0 → out.stdout = "" ∧ out.volume = v) ∧
    ∀ file, status = 0 → o.jsonOut = some file → file ≠ "" → file ≠ "-" →
      ∃ r report printed json, outcome = .ok r ∧ r.survey.report o.threshold = .ok report ∧
        report.text o.showGraph = .ok printed ∧ r.jsonText (some report) = .ok json ∧
        out.stdout = printed ++ "\n" ∧ out.volume.read file = .ok (Utf8.encode json) ∧
        ∀ args', parse args' = .ok (.run { o with jsonOut := some "-" }) →
          (run codecs parser args' env denied v).ending = .ok 0 ∧
          (run codecs parser args' env denied v).stdout = json ++ "\n" ∧
          (run codecs parser args' env denied v).volume = v := by
  intro settings outcome out
  have hrun {words : List String} {w : Options} (h : parse words = .ok (.run w)) :
      run codecs parser words env denied v =
        (w.plan codecs parser settings (v.root denied)).perform v := by
    simp only [run, plan, h]
    rfl
  have hout : out = (o.plan codecs parser settings (v.root denied)).perform v := hrun haccepted
  have hperformed : ((o.plan codecs parser settings (v.root denied)).perform v).ending = .ok status :=
    hout ▸ hstatus
  obtain ⟨hending, hwritten⟩ := Plan.perform_of_ok hperformed
  have hcourse := Options.course hending
  rw [hout, Plan.perform_stdout]
  refine ⟨hcourse.status_eq_one_iff, hcourse.status_eq_two_iff, hcourse.status_cases, fun hne => ?_,
    fun file hzero hjson hfile hdash => ?_⟩
  · obtain ⟨hquiet, hnothing⟩ := hcourse.quiet hne
    exact ⟨hquiet, (Plan.perform_of_none hnothing v).1⟩
  · subst hzero
    generalize hplan : o.plan codecs parser settings (v.root denied) = p at *
    cases hcourse with
    | @delivered least stderr r rep hlevel houtcome hreport hprinted =>
      obtain ⟨after, hdeliver⟩ := deliver_of_file hjson hfile hdash least stderr r rep
      rw [hdeliver] at hprinted hwritten ⊢
      obtain ⟨printed, htext, hstdout, hclosing⟩ := print_of_ok hprinted
      obtain ⟨json, hmade, hwrite⟩ := hwritten file _ (by rw [hclosing])
      refine ⟨r, rep, printed, json, houtcome, hreport, htext, hmade, hstdout,
        Volume.read_of_write hwrite, fun args' haccepted' => ?_⟩
      rw [hrun haccepted']
      exact Options.perform_dash (o := { o with jsonOut := some "-" }) rfl hlevel houtcome hreport
        hmade v

theorem upper_info : Upper.upper "INFO" = "INFO" := by decide +kernel

/-- A source in an encoding of another table, a folder that cannot be listed, and a file that is named
through a link to a place beside the current folder. -/
theorem run_status_through_link :
    let codecs : Codecs := fun name =>
      if name = "cp1252" then .ok fun _ => .ok "\u20AC" else .error .unknown
    let parser : SourceParser := fun text path => if text = "\u20AC" then .ok {} else .error ⟨path, text⟩
    let env : Environment := fun name => if name = "CODE_ANALYZER_ENCODING" then some "cp1252" else none
    let denied : Denials := { listing := ["proj/sub"] }
    let v : Volume :=
      { entries := [("out", .folder []), ("work", .folder [("link", .link "/out"),
          ("proj", .folder [("A.java", .file [0x80]), ("sub", .folder [])])])]
        here := ["work"] }
    let out := run codecs parser ["proj", "--json", "link/report.json"] env denied v
    let printed := run codecs parser ["proj", "--json", "-"] env denied v
    ∃ (r : ScanResult) (json : String), r.filesScanned = 1 ∧
      r.diagnostics = [⟨.directoryList, "proj/sub", "Permission denied"⟩] ∧ out.ending = .ok 0 ∧
      out.volume.read "link/report.json" = .ok (Utf8.encode json) ∧ printed.stdout = json ++ "\n" := by
  intro codecs parser env denied v out printed
  let o : Options := { path := some "proj", jsonOut := some "link/report.json" }
  let found : ScanResult :=
    { filesScanned := 1, diagnostics := [⟨.directoryList, "proj/sub", "Permission denied"⟩] }
  have haccepted : parse ["proj", "--json", "link/report.json"] = .ok (.run o) := rfl
  have hsettings : Settings.ofEnvironment env = { encoding := "cp1252" } := by
    simp [Settings.ofEnvironment, env, upper_info]
  have hlevel : level o { encoding := "cp1252" } = .ok .info := by
    simp only [level, given?, o, Option.getD_none, upper_info]
    rfl
  have hparts : Volume.parts "proj" = ["proj"] ∧ Volume.parts "proj/sub" = ["proj", "sub"] ∧
      Volume.parts "proj/A.java" = ["proj", "A.java"] ∧ Volume.parts "/out" = ["", "out"] ∧
      Volume.parts "link/report.json" = ["link", "report.json"] := by decide +kernel
  have hlookup : v.lookup "proj" = .ok (.folder [("A.java", .file [0x80]), ("sub", .folder [])]) ∧
      v.lookup "proj/A.java" = .ok (.file [0x80]) ∧ v.lookup "proj/sub" = .ok (.folder []) := by
    simp [v, Volume.lookup, Volume.spot, Volume.walk, Volume.origin, Volume.top, Entry.at?,
      Entry.child?, List.lookup_cons, hparts]
  have hspot : v.spot true "link/report.json" = .ok (.free ["out", "report.json"]) := by
    simp [v, Volume.spot, Volume.walk, Volume.origin, Volume.top, Entry.at?, Entry.child?,
      List.lookup_cons, hparts, Volume.maxLinks]
  have hjoin : joinPath "proj" "A.java" = "proj/A.java" ∧ joinPath "proj" "sub" = "proj/sub" := by
    decide +kernel
  have hroot : v.root denied "proj" =
      .tree (.folder [("A.java", .file [0x80]), ("sub", .unlistable "Permission denied")]) := by
    have hitem (depth : Nat) : v.itemAt denied (depth + 2) "proj" =
        .folder [("A.java", .file [0x80]), ("sub", .unlistable "Permission denied")] := by
      simp [Volume.itemAt, hlookup, hjoin, denied, Trouble.text]
    have hdir : v.isFolder "proj" = true := by simp only [Volume.isFolder, hlookup.1]
    rw [Volume.root, if_pos hdir, if_neg (by simp [denied])]
    exact congrArg _ (hitem _)
  have houtcome : (scan codecs parser o (Settings.ofEnvironment env) (v.root denied)).outcome =
      .ok found := by
    have hvisits : (Item.folder [("A.java", .file [0x80]), ("sub", .unlistable
        "Permission denied")]).visits ".java" "proj" =
        [.source "proj/A.java" (.ok [0x80]), .unlisted "proj/sub" "Permission denied"] := by
      have hsuffix : hasSuffix ".java" "A.java" = true ∧ hasSuffix ".java" "sub" = false := by
        decide +kernel
      have hsorted (found : List Visit) :
          sortNamed [("A.java", []), ("sub", found)] = [("A.java", []), ("sub", found)] := by
        have hle : ¬ "sub" < "A.java" := by decide +kernel
        exact List.mergeSort_of_pairwise (List.pairwise_pair.mpr (by simp [hle]))
      rw [Item.visits, Item.branches, Item.branches, Item.branches, Item.visits, Item.visits, hsorted]
      simp [Item.sources, Item.content?, hsuffix, hjoin, sortNamed]
    have htext : Newline.unify "\u20AC" = "\u20AC" := by decide +kernel
    rw [scan_of_path rfl (by decide), hroot, hsettings]
    simp only [Scan.directory, hvisits]
    simp [Scan.follow, Scan.never, Scan.file, Scan.readText, codecs, parser, htext, Except.map,
      ScanResult.record, Survey.merge, Inventory.addPackage, found]
  have hstatus : out.ending = .ok 0 := by
    obtain ⟨rep, hreport, hnumbers, hintegers⟩ : ∃ rep, found.survey.report o.threshold = .ok rep ∧
        (∀ n ∈ rep.numbers, Writable n) ∧ ∀ n ∈ (found.toJson (some rep)).integers, Writable n :=
      ⟨_, rfl, by decide +kernel, by decide +kernel⟩
    obtain ⟨text, htext⟩ := (rep.needs_text o.showGraph).mpr hnumbers
    obtain ⟨stderr, hplan⟩ := Options.plan_eq_deliver (hsettings ▸ hlevel) houtcome hreport
    obtain ⟨after, hdeliver⟩ :=
      deliver_of_file (o := o) rfl (by decide) (by decide) .info stderr found rep
    have hrun : out =
      (o.plan codecs parser (Settings.ofEnvironment env) (v.root denied)).perform v := rfl
    rw [hrun, hplan, hdeliver, htext, ScanResult.jsonText_eq_ok hintegers]
    simp only [print, Plan.perform, Volume.write, hspot]
  obtain ⟨-, -, -, -, hwritten⟩ :=
    run_status codecs parser _ env denied v o 0 haccepted hstatus
  obtain ⟨r, rep, text, json, hr, -, -, -, -, hread, hdashed⟩ :=
    hwritten "link/report.json" rfl rfl (by decide) (by decide)
  obtain rfl : found = r := Except.ok.inj (houtcome.symm.trans hr)
  exact ⟨found, json, rfl, rfl, hstatus, hread, (hdashed _ rfl).2.1⟩

end CommandLine

end JavaSurvey
