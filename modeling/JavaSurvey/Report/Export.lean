import JavaSurvey.Json.Writer
import JavaSurvey.Report.Basic
import JavaSurvey.Scan.Result

set_option autoImplicit false

namespace JavaSurvey

def Call.toJson (c : Call) : Json :=
  .record [("name", .text c.name), ("receiver", Json.optional .text c.receiver),
    ("line", .integer c.line), ("col", .integer c.col)]

def Method.toJson (m : Method) : Json :=
  .record [("name", .text m.name), ("line_count", .integer m.lineCount),
    ("param_count", .integer m.paramCount), ("calls", Json.list Call.toJson m.calls)]

/-- A class as the inventory lists it. -/
def ClassInfo.toJson (c : ClassInfo) : Json :=
  .record [("name", .text c.name), ("package", Json.optional .text c.package),
    ("attributes", .integer c.attributeCount), ("methods", Json.list Method.toJson c.methods)]

/-- A class as a report shows it. -/
def ClassInfo.toReportJson (c : ClassInfo) : Json :=
  .record [("name", .text c.name), ("methods", Json.list Method.toJson c.methods),
    ("attribute_count", .integer c.attributeCount), ("package", Json.optional .text c.package)]

def RankedMethod.toJson (m : RankedMethod) : Json :=
  .record [("class_name", .text m.className), ("method", m.method.toJson)]

def Diagnostic.toJson (d : Diagnostic) : Json :=
  .record [("kind", .text d.kind.name), ("path", .text d.path), ("reason", .text d.reason)]

def Finite64.toJson (x : Finite64) : Json := .real x.val.toText

def Report.toJson (r : Report) : Json :=
  let classes (cs : List Listed) : Json := Json.list (fun c => c.info.toReportJson) cs
  .record
    [("class_count", .natural r.classCount),
     ("total_lines", .integer r.totalLines),
     ("total_methods", .natural r.totalMethods),
     ("total_attributes", .integer r.totalAttributes),
     ("package_count", .natural r.packageCount),
     ("avg_methods_per_class", Finite64.toJson r.avgMethodsPerClass),
     ("avg_lines_per_method", Finite64.toJson r.avgLinesPerMethod),
     ("avg_attributes_per_class", Finite64.toJson r.avgAttributesPerClass),
     ("top_classes_by_methods", classes r.topClassesByMethods),
     ("top_classes_by_attributes", classes r.topClassesByAttributes),
     ("top_classes_in_both", classes r.topClassesInBoth),
     ("top_methods_by_length", Json.list RankedMethod.toJson r.topMethodsByLength),
     ("max_parameter_count", .integer r.maxParameterCount),
     ("max_call_depth", .natural r.maxCallDepth),
     ("most_called_method", Json.optional .text r.mostCalledMethod),
     ("most_called_callers", Json.texts r.mostCalledCallers),
     ("call_graph_edges", .record (r.callGraphEdges.map fun e => (e.1, Json.texts e.2))),
     ("threshold", Json.optional .natural r.threshold),
     ("classes_over_threshold", Json.optional classes r.classesOverThreshold)]

def ScanResult.toJson (s : ScanResult) (report : Option Report) : Json :=
  .record
    ([("packages", Json.texts (sortNames s.survey.inventory.packages)),
      ("classes", Json.list (fun c => c.info.toJson) s.survey.inventory.classes),
      ("calls", Json.list (fun e => .record [("caller", .text e.1), ("callee", .text e.2)])
        s.survey.calls.edges),
      ("diagnostics", Json.list Diagnostic.toJson s.diagnostics),
      ("filesScanned", .natural s.filesScanned),
      ("cancelled", .bool s.cancelled)] ++
     (report.map fun r => ("report", r.toJson)).toList)

def ScanResult.jsonText (s : ScanResult) (report : Option Report) : Except DigitLimit String :=
  (s.toJson report).render

end JavaSurvey
