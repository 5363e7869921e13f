import JavaSurvey.Statistics.Metrics

set_option autoImplicit false

namespace JavaSurvey

structure Report where
  classCount : Nat
  totalLines : Int
  totalMethods : Nat
  totalAttributes : Int
  packageCount : Nat
  avgMethodsPerClass : Finite64
  avgLinesPerMethod : Finite64
  avgAttributesPerClass : Finite64
  topClassesByMethods : List Listed
  topClassesByAttributes : List Listed
  topClassesInBoth : List Listed
  topMethodsByLength : List RankedMethod
  maxParameterCount : Int
  maxCallDepth : Nat
  mostCalledMethod : Option String
  mostCalledCallers : List String
  /-- Callers in the order of the graph, each with its callees sorted. -/
  callGraphEdges : List (String × List String)
  threshold : Option Nat
  classesOverThreshold : Option (List Listed)
  deriving Repr, Inhabited

inductive ReportError where
  | threshold (e : ThresholdError)
  | ratio (e : RatioError)
  deriving Repr

def ReportError.message : ReportError → String
  | .threshold e => e.message
  | .ratio e => e.message

namespace Survey

/-- The threshold that was asked for, if any, and the classes that reach it. -/
def overThreshold (s : Survey) : Given → Except ThresholdError (Option (Nat × List Listed))
  | .nothing => .ok none
  | v => do
    let n ← Threshold.parse v
    let reached ← s.inventory.classesWithMinMethods (.whole n)
    return some (n, reached)

/-- The threshold is looked at before the averages are taken. -/
def report (s : Survey) (v : Given) : Except ReportError Report := do
  let reached ← (s.overThreshold v).mapError .threshold
  let methods ← s.inventory.averageMethodsPerClass.mapError .ratio
  let lines ← s.inventory.averageLinesPerMethod.mapError .ratio
  let attributes ← s.inventory.averageAttributesPerClass.mapError .ratio
  return {
    classCount := s.inventory.classCount
    totalLines := s.inventory.totalLines
    totalMethods := s.inventory.totalMethods
    totalAttributes := s.inventory.totalAttributes
    packageCount := s.inventory.packageCount
    avgMethodsPerClass := methods
    avgLinesPerMethod := lines
    avgAttributesPerClass := attributes
    topClassesByMethods := s.inventory.topClassesByMethods
    topClassesByAttributes := s.inventory.topClassesByAttributes
    topClassesInBoth := s.inventory.topClassesInBoth
    topMethodsByLength := s.inventory.topMethodsByLength
    maxParameterCount := s.inventory.maxParameterCount
    maxCallDepth := s.calls.maxDepth
    mostCalledMethod := s.calls.mostCalled
    mostCalledCallers := s.calls.callersOfMostCalled
    callGraphEdges := s.calls.rows.map fun r => (r.1, sortNames r.2)
    threshold := reached.map Prod.fst
    classesOverThreshold := reached.map Prod.snd }

end Survey

end JavaSurvey
