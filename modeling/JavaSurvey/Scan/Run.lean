import JavaSurvey.Log
import JavaSurvey.Scan.Result
import JavaSurvey.Scan.Tree
import JavaSurvey.Settings
import JavaSurvey.Text.Codec
import JavaSurvey.Text.Newline

/-!
Scans. A scan goes through the visits of a walk and merges what the parser makes of each source;
what fails becomes a diagnostic. Before every source it asks whether to stop. Only a root that cannot
be walked, or a name that stands for no text encoding, ends it without a result.
-/

set_option autoImplicit false

namespace JavaSurvey

inductive ScanError where
  | notDirectory (root : String)
  | notReadable (root : String)
  | encoding (fault : EncodingFault) (name : String)
  deriving DecidableEq, Repr, Inhabited

def ScanError.message : ScanError → String
  | .notDirectory root => "Not a directory: " ++ root
  | .notReadable root => "Directory is not readable: " ++ root
  | .encoding fault name => fault.message name

inductive Root where
  | missing
  | unreadable
  | tree (item : Item)
  deriving Inhabited

def ScanResult.record (r : ScanResult) (d : Diagnostic) : ScanResult :=
  { r with diagnostics := r.diagnostics ++ [d] }

structure Scan where
  log : List LogRecord := []
  outcome : Except ScanError ScanResult
  deriving Inhabited

namespace Scan

def note (level : LogLevel) (function message : String) : LogRecord :=
  ⟨level, "code_analyzer.inputs.directory_scanning:" ++ function, message⟩

def skipping (d : Diagnostic) : LogRecord := note .warning "_record" ("Skipping " ++ d.message)

def parsed (path : String) (sheet : Sheet) : LogRecord :=
  ⟨.debug, "code_analyzer.indexer:parse", s!"Parsed {path} ({sheet.types.length} types)"⟩

def summary (r : ScanResult) : LogRecord :=
  let inventory := r.survey.inventory
  note .info "scan" (s!"Scanned {r.filesScanned} files: {inventory.classCount} classes, " ++
    s!"{inventory.totalMethods} methods, {r.diagnostics.length} failures")

/-- The text of a file, or why there is none. A name that is refused is refused before the file is
opened; any other is looked up when the file is open. -/
def readText (codecs : Codecs) (encoding : String) (content : Content) :
    Except EncodingFault (Except String String) :=
  match codecs encoding, content with
  | .error .refused, _ => .error .refused
  | _, .error reason => .ok (.error reason)
  | .error fault, .ok _ => .error fault
  | .ok decode, .ok bytes => .ok ((decode bytes).map Newline.unify)

def file (codecs : Codecs) (parser : SourceParser) (encoding : String) (r : ScanResult)
    (path : String) (content : Content) : Except ScanError (LogRecord × ScanResult) :=
  match readText codecs encoding content with
  | .error fault => .error (.encoding fault encoding)
  | .ok (.error reason) =>
    let d : Diagnostic := .ofFault ⟨path, reason⟩
    .ok (skipping d, r.record d)
  | .ok (.ok text) =>
    match parser text path with
    | .error fault => .ok (skipping (.ofFault fault), r.record (.ofFault fault))
    | .ok sheet =>
      .ok (parsed path sheet,
        { r with survey := r.survey.merge sheet, filesScanned := r.filesScanned + 1 })

/-- Follows the visits from a result so far. `stop n` answers the question before the source of
number `n`. -/
def follow (codecs : Codecs) (parser : SourceParser) (encoding : String) (stop : Nat → Bool) :
    Nat → List LogRecord → ScanResult → List Visit → Scan
  | _, log, r, [] => ⟨log ++ [summary r], .ok r⟩
  | n, log, r, .unlisted path reason :: rest =>
    let d : Diagnostic := ⟨.directoryList, path, reason⟩
    follow codecs parser encoding stop n (log ++ [skipping d]) (r.record d) rest
  | n, log, r, .source path content :: rest =>
    if stop n then
      ⟨log ++ [note .warning "scan" s!"Scan cancelled after {r.filesScanned} files"],
        .ok { r with cancelled := true }⟩
    else
      match file codecs parser encoding r path content with
      | .error e => ⟨log, .error e⟩
      | .ok (entry, r) => follow codecs parser encoding stop (n + 1) (log ++ [entry]) r rest

def directory (codecs : Codecs) (parser : SourceParser) (settings : Settings) (stop : Nat → Bool)
    (root : String) : Root → Scan
  | .missing => ⟨[], .error (.notDirectory root)⟩
  | .unreadable => ⟨[], .error (.notReadable root)⟩
  | .tree item =>
    follow codecs parser settings.encoding stop 0 [note .info "scan" ("Scanning " ++ root)] {}
      (item.visits settings.sourceSuffix root)

def source (parser : SourceParser) (text path : String) : Scan :=
  match parser text path with
  | .error fault => ⟨[skipping (.ofFault fault)], .ok (ScanResult.record {} (.ofFault fault))⟩
  | .ok sheet => ⟨[parsed path sheet], .ok { survey := Survey.merge {} sheet, filesScanned := 1 }⟩

/-- No question to stop is ever answered yes. -/
def never : Nat → Bool := fun _ => false

end Scan

end JavaSurvey
