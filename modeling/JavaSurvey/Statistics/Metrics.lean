import JavaSurvey.CallGraph.Depth
import JavaSurvey.Inventory
import JavaSurvey.Statistics.Threshold
import JavaSurvey.Text.Sorted

set_option autoImplicit false

namespace JavaSurvey

/-- A tenth of a list, at least one entry unless there is none. -/
def topDecileSize (count : Int) : Int := if count ≤ 0 then 0 else max 1 (count / 10)

/-- The entries of the top tenth by a key, largest first, ties in their order. -/
def topDecile {α : Type} (key : α → Int) (xs : List α) : List α :=
  (rankBy key xs).take (topDecileSize xs.length).toNat

inductive RatioError where
  | tooLarge
  deriving DecidableEq, Repr

def RatioError.message : RatioError → String
  | .tooLarge => "integer division result too large for a float"

/-- The quotient, rounded once; 0 where there is nothing to divide by. -/
def ratio (a : Int) (b : Nat) : Except RatioError Finite64 :=
  if hb : b = 0 then .ok .zero
  else match h : Binary64.ofQuotient (decide (a < 0)) a.natAbs b with
    | .finite s m e => .ok ⟨.finite s m e, Binary64.isFinite_of_ofQuotient hb h⟩
    | .infinite _ | .nan => .error .tooLarge

namespace Inventory

def averageMethodsPerClass (inv : Inventory) : Except RatioError Finite64 :=
  ratio inv.totalMethods inv.classCount

def averageLinesPerMethod (inv : Inventory) : Except RatioError Finite64 :=
  ratio inv.totalLines inv.totalMethods

def averageAttributesPerClass (inv : Inventory) : Except RatioError Finite64 :=
  ratio inv.totalAttributes inv.classCount

def topClassesByMethods (inv : Inventory) : List Listed :=
  topDecile (fun c => (c.info.methodCount : Int)) inv.classes

def topClassesByAttributes (inv : Inventory) : List Listed :=
  topDecile (fun c => c.info.attributeCount) inv.classes

/-- The classes of both rankings, told apart by their tags, in the order of the first. -/
def topClassesInBoth (inv : Inventory) : List Listed :=
  inv.topClassesByMethods.filter fun c => c.tag ∈ inv.topClassesByAttributes.map (·.tag)

def topMethodsByLength (inv : Inventory) : List RankedMethod :=
  topDecile (fun m => m.method.lineCount) inv.methods

def withAtLeast (inv : Inventory) (n : Nat) : List Listed :=
  inv.classes.filter fun c => decide (n ≤ c.info.methodCount)

def classesWithMinMethods (inv : Inventory) (v : Given) : Except ThresholdError (List Listed) :=
  (Threshold.parse v).map inv.withAtLeast

def largest : List Int → Int
  | [] => 0
  | n :: ns => ns.foldl max n

def maxParameterCount (inv : Inventory) : Int :=
  largest (inv.methods.map (·.method.paramCount))

end Inventory

namespace CallGraph

/-- Of the names, the first with the most callers. -/
def mostCalledAmong (g : CallGraph) : List String → Option (String × Nat)
  | [] => none
  | m :: ms => ms.foldl (fun best m =>
      match best with
      | some (b, n) =>
        if n < (g.callersOf m).length then some (m, (g.callersOf m).length) else some (b, n)
      | none => none) (some (m, (g.callersOf m).length))

def mostCalled (g : CallGraph) : Option String := (mostCalledAmong g g.members).map Prod.fst

def sortedCallersOf (g : CallGraph) : Option String → List String
  | some m => sortNames (g.callersOf m)
  | none => []

def callersOfMostCalled (g : CallGraph) : List String := g.sortedCallersOf g.mostCalled

end CallGraph

end JavaSurvey
