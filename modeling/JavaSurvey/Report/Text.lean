import JavaSurvey.Report.Basic

set_option autoImplicit false

namespace JavaSurvey.Report

def commaList (names : List String) : String := ", ".intercalate names

/-- One line for each caller, then the depth, in digits, and the most called method. -/
def graphLines (r : Report) (showGraph : Bool) (depth : String) : List String :=
  let rows := if showGraph then
      r.callGraphEdges.map (fun e => e.1 ++ " -> [" ++ commaList e.2 ++ "]") ++ [""]
    else []
  let most := match r.mostCalledMethod with
    | none => ["Most called method: (none)"]
    | some m => ["Most called method: " ++ m, "Called by: " ++ commaList r.mostCalledCallers]
  "=== CALL GRAPH ===" :: (rows ++ ("Max call depth: " ++ depth) :: most)

def graphText (r : Report) (showGraph : Bool) : Except DigitLimit String := do
  let depth ← decimal r.maxCallDepth
  return "\n".intercalate (r.graphLines showGraph depth)

def countLine (name : String) (n : Int) (things : String) : Except DigitLimit String := do
  let count ← decimal n
  return s!"   {name} ({count} {things})"

def methodsLine (c : Listed) : Except DigitLimit String :=
  countLine c.info.name c.info.methodCount "methods"

def attributesLine (c : Listed) : Except DigitLimit String :=
  countLine c.info.name c.info.attributeCount "attributes"

def lengthLine (m : RankedMethod) : Except DigitLimit String :=
  countLine m.qualifiedName m.method.lineCount "lines"

def thresholdLines (r : Report) : Except DigitLimit (List String) :=
  match r.threshold, r.classesOverThreshold with
  | some n, some cs => do
    let least ← decimal n
    let rows ← cs.mapM methodsLine
    return ["", s!"11. Classes with at least {least} methods:"] ++ rows
  | _, _ => return []

def lines (r : Report) (showGraph : Bool) : Except DigitLimit (List String) := do
  let classes ← decimal r.classCount
  let total ← decimal r.totalLines
  let methods ← decimal r.totalMethods
  let packages ← decimal r.packageCount
  let byMethods ← r.topClassesByMethods.mapM methodsLine
  let byAttributes ← r.topClassesByAttributes.mapM attributesLine
  let reached ← r.thresholdLines
  let longest ← r.topMethodsByLength.mapM lengthLine
  let parameters ← decimal r.maxParameterCount
  let graph ← r.graphText showGraph
  return ["=== CODE STATISTICS ===",
     "1. Classes: " ++ classes,
     "2. Lines of code: " ++ total,
     "3. Methods: " ++ methods,
     "4. Packages: " ++ packages,
     "5. Average methods per class: " ++ r.avgMethodsPerClass.val.toFixed2,
     "6. Average lines per method: " ++ r.avgLinesPerMethod.val.toFixed2,
     "7. Average attributes per class: " ++ r.avgAttributesPerClass.val.toFixed2,
     "",
     "8. Top 10% classes by method count:"] ++ byMethods ++
    ["", "9. Top 10% classes by attribute count:"] ++ byAttributes ++
    ["", "10. Classes in both rankings:"] ++
    r.topClassesInBoth.map (fun c => "   " ++ c.info.name) ++ reached ++
    ["", "12. Top 10% methods by line count:"] ++ longest ++
    ["", "13. Max parameter count: " ++ parameters, "", graph]

def text (r : Report) (showGraph : Bool) : Except DigitLimit String :=
  return "\n".intercalate (← r.lines showGraph)

end JavaSurvey.Report
