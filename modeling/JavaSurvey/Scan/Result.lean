import JavaSurvey.Inventory
import JavaSurvey.Scan.Diagnostic

set_option autoImplicit false

namespace JavaSurvey

structure ScanResult where
  survey : Survey := {}
  diagnostics : List Diagnostic := []
  filesScanned : Nat := 0
  cancelled : Bool := false
  deriving Inhabited

def ScanResult.ok (r : ScanResult) : Bool := r.diagnostics.isEmpty

end JavaSurvey
