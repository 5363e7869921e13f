set_option autoImplicit false

namespace JavaSurvey.Utf16

inductive ByteOrder where
  | little | big
  deriving DecidableEq, Repr, Inhabited

def replacement : Char := '�'

def unit : ByteOrder → UInt8 → UInt8 → Nat
  | .little, a, b => b.toNat * 0x100 + a.toNat
  | .big, a, b => a.toNat * 0x100 + b.toNat

def isHigh (n : Nat) : Bool := decide (0xD800 ≤ n) && decide (n < 0xDC00)

def isLow (n : Nat) : Bool := decide (0xDC00 ≤ n) && decide (n < 0xE000)

def join (high low : Nat) : Char := Char.ofNat (0x10000 + (high - 0xD800) * 0x400 + (low - 0xDC00))

def decodeChars (o : ByteOrder) : List UInt8 → List Char
  | [] => []
  | [_] => [replacement]
  | a :: b :: rest =>
    let n := unit o a b
    if isHigh n then
      match rest with
      | c :: d :: more =>
        if isLow (unit o c d) then join n (unit o c d) :: decodeChars o more
        else replacement :: decodeChars o (c :: d :: more)
      | _ => [replacement]
    else if isLow n then replacement :: decodeChars o rest
    else Char.ofNat n :: decodeChars o rest

def decode (o : ByteOrder) (bs : List UInt8) : String := String.ofList (decodeChars o bs)

/-- Takes the mark that tells the order of the bytes. -/
def mark? : List UInt8 → Option (ByteOrder × List UInt8)
  | 0xFF :: 0xFE :: rest => some (.little, rest)
  | 0xFE :: 0xFF :: rest => some (.big, rest)
  | _ => none

end JavaSurvey.Utf16
