import JavaSurvey.Facts.Sheet

set_option autoImplicit false

namespace JavaSurvey

inductive DiagnosticKind where
  | fileParse | directoryList
  deriving DecidableEq, Repr, Inhabited

def DiagnosticKind.name : DiagnosticKind → String
  | .fileParse => "file_parse"
  | .directoryList => "directory_list"

structure Diagnostic where
  kind : DiagnosticKind
  path : String
  reason : String
  deriving DecidableEq, Repr, Inhabited

def Diagnostic.ofFault (f : FileFault) : Diagnostic := ⟨.fileParse, f.path, f.reason⟩

def Diagnostic.message (d : Diagnostic) : String := d.path ++ ": " ++ d.reason

end JavaSurvey
