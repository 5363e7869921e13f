import JavaSurvey.Number.Digits
import JavaSurvey.Text.CodePoint

/-!
JSON values. Objects keep their members in order. An integer is what it is, of any size; any other
number is the text that it is written as, so that none is rounded.
-/

set_option autoImplicit false

namespace JavaSurvey

inductive Json where
  | null
  | bool (b : Bool)
  | integer (n : Int)
  | real (text : String)
  | string (s : List CodePoint)
  | array (items : List Json)
  | object (members : List (List CodePoint × Json))
  deriving Repr, Inhabited

namespace Json

def natural (n : Nat) : Json := .integer n

def text (s : String) : Json := .string (CodePoint.ofString s)

def record (ms : List (String × Json)) : Json :=
  .object (ms.map fun m => (CodePoint.ofString m.1, m.2))

def optional {α : Type} (f : α → Json) : Option α → Json
  | some a => f a
  | none => .null

def list {α : Type} (f : α → Json) (as : List α) : Json := .array (as.map f)

def texts (ss : List String) : Json := list .text ss

/-- The first member of that name. -/
def get? (j : Json) (name : String) : Option Json :=
  match j with
  | .object ms => ms.lookup (CodePoint.ofString name)
  | _ => none

mutual

def integers : Json → List Int
  | .null | .bool _ | .real _ | .string _ => []
  | .integer n => [n]
  | .array vs => integersOfItems vs
  | .object ms => integersOfMembers ms

def integersOfItems : List Json → List Int
  | [] => []
  | v :: vs => integers v ++ integersOfItems vs

def integersOfMembers : List (List CodePoint × Json) → List Int
  | [] => []
  | (_, v) :: ms => integers v ++ integersOfMembers ms

end

end Json

end JavaSurvey
