import JavaSurvey.CommandLine.Arguments
import JavaSurvey.CommandLine.Sample
import JavaSurvey.CommandLine.Usage
import JavaSurvey.Files.Listing
import JavaSurvey.Report.Export
import JavaSurvey.Report.Text

/-!
A run of the command. `plan` says all that is to be printed and written, from the arguments, the
environment and what is found at the root; `Plan.perform` carries it out on a volume. Nothing is
printed or written before the scan and the threshold are known to be good.
-/

set_option autoImplicit false

namespace JavaSurvey.CommandLine

inductive Crash where
  | unknownLevel (name : String)
  | scan (e : ScanError)
  | report (e : ReportError)
  | digits (e : DigitLimit)
  | file (t : Trouble) (path : String)
  deriving Repr

def Crash.message : Crash → String
  | .unknownLevel name => s!"Level '{name}' does not exist"
  | .scan e => e.message
  | .report e => e.message
  | .digits e => e.message
  | .file t path => t.message path

/-- A file to write, and what is said on standard error after it is written. The file is made before
it is known whether its text can be. -/
structure Closing where
  file : Option (String × Except DigitLimit String) := none
  stderr : String := ""

structure Plan where
  stdout : String := ""
  stderr : String := ""
  closing : Closing := {}
  ending : Except Crash Nat

def note (level : LogLevel) (message : String) : LogRecord :=
  ⟨level, "code_analyzer.main:main", message⟩

def failed (d : Diagnostic) : LogRecord :=
  note .warning s!"{d.path} failed ({d.kind.name}): {d.reason}"

/-- An option that is given as the empty text counts as not given. -/
def given? : Option String → Option String
  | some "" => none
  | v => v

def Options.threshold (o : Options) : Given :=
  match o.minMethods with
  | some s => .text s
  | none => .nothing

def level (o : Options) (settings : Settings) : Except String LogLevel :=
  let name := Upper.upper ((given? o.logLevel).getD settings.logLevel)
  match LogLevel.ofName? name with
  | some l => .ok l
  | none => .error name

def scan (codecs : Codecs) (parser : SourceParser) (o : Options) (settings : Settings)
    (root : String → Root) : Scan :=
  match given? o.path with
  | some path => Scan.directory codecs parser settings Scan.never path (root path)
  | none => Scan.source parser sample samplePath

def print (stderr : String) (text : Except DigitLimit String) (closing : Closing) : Plan :=
  match text with
  | .ok text => { stdout := text ++ "\n", stderr, closing, ending := .ok 0 }
  | .error e => { stderr, ending := .error (.digits e) }

/-- What is done with a report: JSON on standard output for a dash, else the text there, and JSON in
a file if one is named. -/
def deliver (least : LogLevel) (o : Options) (stderr : String) (r : ScanResult) (report : Report) :
    Plan :=
  let last := if r.ok then [] else
    [note .warning s!"{r.diagnostics.length} file(s) or directories could not be analyzed"]
  let json := r.jsonText (some report)
  match given? o.jsonOut with
  | some "-" => print stderr json ⟨none, LogRecord.lines least last⟩
  | some path =>
    print stderr (report.text o.showGraph)
      ⟨some (path, json), LogRecord.lines least (note .info ("Wrote " ++ path) :: last)⟩
  | none => print stderr (report.text o.showGraph) ⟨none, LogRecord.lines least last⟩

def conclude (least : LogLevel) (o : Options) (log : List LogRecord) (r : ScanResult) : Plan :=
  let stderr := LogRecord.lines least (log ++ r.diagnostics.map failed)
  match r.survey.report o.threshold with
  | .error (.threshold (.invalid v)) =>
    { stderr := stderr ++ "error: " ++ (ThresholdError.invalid v).message ++ "\n", ending := .ok 2 }
  | .error e => { stderr, ending := .error (.report e) }
  | .ok report => deliver least o stderr r report

def Options.plan (o : Options) (codecs : Codecs) (parser : SourceParser) (settings : Settings)
    (root : String → Root) : Plan :=
  match level o settings with
  | .error name => { ending := .error (.unknownLevel name) }
  | .ok least =>
    let s := scan codecs parser o settings root
    match s.outcome with
    | .ok r => conclude least o s.log r
    | .error (.encoding fault name) =>
      { stderr := LogRecord.lines least s.log, ending := .error (.scan (.encoding fault name)) }
    | .error e =>
      { stderr := LogRecord.lines least (s.log ++ [note .error ("Scan failed: " ++ e.message)])
        ending := .ok 1 }

def plan (codecs : Codecs) (parser : SourceParser) (args : List String) (env : Environment)
    (root : String → Root) : Plan :=
  match parse args with
  | .error e =>
    { stderr := usage ++ "code-analyzer: error: " ++ e.message ++ "\n", ending := .ok 2 }
  | .ok .help => { stdout := help, ending := .ok 0 }
  | .ok (.run o) => o.plan codecs parser (Settings.ofEnvironment env) root

structure Outcome where
  stdout : String
  stderr : String
  ending : Except Crash Nat
  volume : Volume

/-- A file that cannot be written ends the run; what was printed before it stays. So does a text that
cannot be made, and leaves the file empty. -/
def Plan.perform (p : Plan) (v : Volume) : Outcome :=
  match p.closing.file with
  | none => ⟨p.stdout, p.stderr ++ p.closing.stderr, p.ending, v⟩
  | some (path, text) =>
    match v.write path (Utf8.encode (text.toOption.getD "")), text with
    | .error t, _ => ⟨p.stdout, p.stderr, .error (.file t path), v⟩
    | .ok v, .error e => ⟨p.stdout, p.stderr, .error (.digits e), v⟩
    | .ok v, .ok _ => ⟨p.stdout, p.stderr ++ p.closing.stderr, p.ending, v⟩

def run (codecs : Codecs) (parser : SourceParser) (args : List String) (env : Environment)
    (denied : Denials) (v : Volume) : Outcome :=
  (plan codecs parser args env (v.root denied)).perform v

end JavaSurvey.CommandLine
