import JavaSurvey.CallGraph.Basic
import JavaSurvey.Facts.Sheet

/-!
The classes of a project with running totals. Every class that is made gets a tag of its own, so
that two classes of equal contents stay two, and one class can be listed twice and grow later.
-/

set_option autoImplicit false

namespace JavaSurvey

structure ClassInfo where
  name : String
  methods : List Method := []
  attributeCount : Int := 0
  package : Option String := none
  deriving DecidableEq, Repr, Inhabited

def ClassInfo.methodCount (c : ClassInfo) : Nat := c.methods.length

structure Listed where
  tag : Nat
  info : ClassInfo
  deriving DecidableEq, Repr, Inhabited

structure RankedMethod where
  className : String
  method : Method
  deriving DecidableEq, Repr, Inhabited

def qualify (className methodName : String) : String := className ++ "." ++ methodName

def RankedMethod.qualifiedName (m : RankedMethod) : String := qualify m.className m.method.name

structure Inventory where
  /-- In the order in which they were met. -/
  classes : List Listed := []
  /-- Each name once. -/
  packages : List String := []
  totalLines : Int := 0
  totalMethods : Nat := 0
  totalAttributes : Int := 0
  /-- How many classes were made; the next one gets this tag. -/
  made : Nat := 0
  deriving DecidableEq, Repr, Inhabited

namespace Inventory

def list (inv : Inventory) (c : Listed) (lines : Int) : Inventory :=
  { inv with
    classes := inv.classes ++ [c]
    totalMethods := inv.totalMethods + c.info.methodCount
    totalAttributes := inv.totalAttributes + c.info.attributeCount
    totalLines := inv.totalLines + lines }

/-- Makes a class and lists it. -/
def addClass (inv : Inventory) (info : ClassInfo) (lines : Int) : Inventory :=
  { inv.list ⟨inv.made, info⟩ lines with made := inv.made + 1 }

def addAgain (inv : Inventory) (tag : Nat) (lines : Int) : Inventory :=
  match inv.classes.find? (·.tag == tag) with
  | some c => inv.list c lines
  | none => inv

/-- Adds a method to the class of that tag wherever it is listed. The totals stay. -/
def appendMethod (inv : Inventory) (tag : Nat) (m : Method) : Inventory :=
  { inv with classes := inv.classes.map fun c =>
      if c.tag = tag then { c with info := { c.info with methods := c.info.methods ++ [m] } }
      else c }

/-- The empty name is no package. -/
def addPackage (inv : Inventory) : Option String → Inventory
  | some p =>
    if p = "" ∨ p ∈ inv.packages then inv else { inv with packages := inv.packages ++ [p] }
  | none => inv

def classCount (inv : Inventory) : Nat := inv.classes.length
def packageCount (inv : Inventory) : Nat := inv.packages.length

def methods (inv : Inventory) : List RankedMethod :=
  inv.classes.flatMap fun c => c.info.methods.map fun m => ⟨c.info.name, m⟩

end Inventory

structure Survey where
  inventory : Inventory := {}
  calls : CallGraph := CallGraph.empty
  deriving Inhabited

namespace Survey

/-- The calls of the methods of one class, as edges from their qualified names. -/
def callsOf (t : TypeFacts) : List (String × String) :=
  t.methods.flatMap fun m => m.calls.map fun c => (qualify t.name m.name, c.name)

def mergeType (package : Option String) (s : Survey) (t : TypeFacts) : Survey where
  calls := s.calls.addCalls (callsOf t)
  inventory := s.inventory.addClass ⟨t.name, t.methods, t.fieldCount, package⟩ t.lineCount

/-- Adds the facts of one file. Every call becomes an edge, whether or not its target is known. -/
def merge (s : Survey) (sheet : Sheet) : Survey :=
  sheet.types.foldl (mergeType sheet.package)
    { s with inventory := s.inventory.addPackage sheet.package }

end Survey

end JavaSurvey
