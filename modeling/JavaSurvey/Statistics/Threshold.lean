import JavaSurvey.Number.Decimal
import JavaSurvey.Number.Digits
import JavaSurvey.Text.Blank
import JavaSurvey.Text.Quoted

set_option autoImplicit false

namespace JavaSurvey

/-- A plain value as it may be handed in. -/
inductive Given where
  | nothing
  | truth (b : Bool)
  | whole (n : Int)
  | real (x : Binary64)
  | text (s : String)
  | list (items : List Given)
  | table (members : List (String × Given))
  deriving Repr, Inhabited

namespace Given

mutual

def shown : Given → String
  | nothing => "None"
  | truth true => "True"
  | truth false => "False"
  | whole n => toString n
  | real x => x.toText
  | text s => Quoted.quote s
  | list [] => "[]"
  | list (v :: vs) => "[" ++ shown v ++ shownItems vs ++ "]"
  | table [] => "\x7b\x7d"
  | table ((k, v) :: ms) => "\x7b" ++ Quoted.quote k ++ ": " ++ shown v ++ shownMembers ms ++ "\x7d"

def shownItems : List Given → String
  | [] => ""
  | v :: vs => ", " ++ shown v ++ shownItems vs

def shownMembers : List (String × Given) → String
  | [] => ""
  | (k, v) :: ms => ", " ++ Quoted.quote k ++ ": " ++ shown v ++ shownMembers ms

/-- The whole numbers that are shown of a value. -/
def wholes : Given → List Int
  | whole n => [n]
  | list vs => wholesOfItems vs
  | table ms => wholesOfMembers ms
  | nothing | truth _ | real _ | text _ => []

def wholesOfItems : List Given → List Int
  | [] => []
  | v :: vs => wholes v ++ wholesOfItems vs

def wholesOfMembers : List (String × Given) → List Int
  | [] => []
  | (_, v) :: ms => wholes v ++ wholesOfMembers ms

end

end Given

inductive ThresholdError where
  | invalid (value : Given)
  /-- A value that is invalid and that no message can show. -/
  | unshown (limit : DigitLimit)
  /-- A text of more digits than are read. -/
  | tooLong (digits : Nat)
  deriving Repr, Inhabited

def ThresholdError.message : ThresholdError → String
  | .invalid v => "threshold must be a non-negative integer, got " ++ v.shown
  | .unshown limit => limit.message
  | .tooLong n =>
    s!"Exceeds the limit (4300 digits) for integer string conversion: value has {n} digits; " ++
      "use sys.set_int_max_str_digits() to increase the limit"

/-- The error shows the value, and cannot be made if the value cannot be shown. -/
def ThresholdError.refuse (v : Given) : ThresholdError :=
  if ∀ n ∈ v.wholes, Writable n then .invalid v else .unshown .exceeded

namespace Threshold

def isNumeral (cs : List Char) : Bool := !cs.isEmpty && cs.all Char.isDigit

def ofText (s : String) : Except ThresholdError Nat :=
  let digits := Blank.trimList s.toList
  if isNumeral digits then
    if digits.length ≤ maxDigits then .ok (digitsValue digits) else .error (.tooLong digits.length)
  else .error (.refuse (.text s))

def parse : Given → Except ThresholdError Nat
  | .whole n => if 0 ≤ n then .ok n.toNat else .error (.refuse (.whole n))
  | .text s => ofText s
  | v => .error (.refuse v)

theorem parse_whole (n : Nat) : parse (.whole n) = .ok n := by simp [parse]

end Threshold

end JavaSurvey
