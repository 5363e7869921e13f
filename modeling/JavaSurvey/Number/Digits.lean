set_option autoImplicit false

namespace JavaSurvey

/-- The most digits of a whole number that is read or written. -/
def maxDigits : Nat := 4300

inductive DigitLimit where
  | exceeded
  deriving DecidableEq, Repr, Inhabited

def DigitLimit.message : DigitLimit → String
  | .exceeded => "Exceeds the limit (4300 digits) for integer string conversion; " ++
      "use sys.set_int_max_str_digits() to increase the limit"

def digitsValue (cs : List Char) : Nat := cs.foldl (fun n c => 10 * n + (c.toNat - '0'.toNat)) 0

def Writable (n : Int) : Prop := (Nat.toDigits 10 n.natAbs).length ≤ maxDigits

instance (n : Int) : Decidable (Writable n) :=
  inferInstanceAs (Decidable ((Nat.toDigits 10 n.natAbs).length ≤ maxDigits))

def decimal (n : Int) : Except DigitLimit String :=
  if Writable n then .ok (toString n) else .error .exceeded

end JavaSurvey
