/-!
UTF-8 over lists of bytes. `encode` writes a text; `decode` reads any bytes at all and puts one
U+FFFD for every longest run that begins a character without completing it.
-/

set_option autoImplicit false

namespace JavaSurvey.Utf8

def encodeChar (c : Char) : List UInt8 :=
  let n := c.toNat
  if n < 0x80 then [.ofNat n]
  else if n < 0x800 then [.ofNat (0xC0 + n / 0x40), .ofNat (0x80 + n % 0x40)]
  else if n < 0x10000 then
    [.ofNat (0xE0 + n / 0x1000), .ofNat (0x80 + n / 0x40 % 0x40), .ofNat (0x80 + n % 0x40)]
  else
    [.ofNat (0xF0 + n / 0x40000), .ofNat (0x80 + n / 0x1000 % 0x40),
      .ofNat (0x80 + n / 0x40 % 0x40), .ofNat (0x80 + n % 0x40)]

def encode (s : String) : List UInt8 := s.toList.flatMap encodeChar

def width (c : Char) : Nat := (encodeChar c).length

/-- What a first byte promises: the bits it carries, the bounds of the second byte, and how many
more bytes follow the second. -/
structure Lead where
  bits : Nat
  low : Nat
  high : Nat
  more : Nat

def lead? (b : Nat) : Option Lead :=
  if b < 0xC2 then none
  else if b < 0xE0 then some ⟨b - 0xC0, 0x80, 0xBF, 0⟩
  else if b = 0xE0 then some ⟨0, 0xA0, 0xBF, 1⟩
  else if b = 0xED then some ⟨0xD, 0x80, 0x9F, 1⟩
  else if b < 0xF0 then some ⟨b - 0xE0, 0x80, 0xBF, 1⟩
  else if b = 0xF0 then some ⟨0, 0x90, 0xBF, 2⟩
  else if b < 0xF4 then some ⟨b - 0xF0, 0x80, 0xBF, 2⟩
  else if b = 0xF4 then some ⟨4, 0x80, 0x8F, 2⟩
  else none

def replacement : Char := '�'

/-- Reads `k` continuation bytes after the bits `n`; `none` where one of them is wanting. -/
def finish : Nat → Nat → List UInt8 → Option Nat × List UInt8
  | 0, n, bs => (some n, bs)
  | _ + 1, _, [] => (none, [])
  | k + 1, n, b :: bs =>
    if 0x80 ≤ b.toNat ∧ b.toNat ≤ 0xBF then finish k (n * 0x40 + (b.toNat - 0x80)) bs
    else (none, b :: bs)

theorem finish_length (k n : Nat) (bs : List UInt8) : (finish k n bs).2.length ≤ bs.length := by
  induction k generalizing n bs with
  | zero => simp [finish]
  | succ k ih =>
    cases bs with
    | nil => simp [finish]
    | cons b bs =>
      simp only [finish]
      split
      · exact Nat.le_succ_of_le (ih _ bs)
      · simp

def decodeChar (b : UInt8) (rest : List UInt8) : Char × List UInt8 :=
  if b.toNat < 0x80 then (Char.ofNat b.toNat, rest)
  else match lead? b.toNat, rest with
    | some l, c :: more =>
      if l.low ≤ c.toNat ∧ c.toNat ≤ l.high then
        match finish l.more (l.bits * 0x40 + (c.toNat - 0x80)) more with
        | (some n, left) => (Char.ofNat n, left)
        | (none, left) => (replacement, left)
      else (replacement, rest)
    | _, _ => (replacement, rest)

theorem decodeChar_length (b : UInt8) (rest : List UInt8) :
    (decodeChar b rest).2.length ≤ rest.length := by
  unfold decodeChar
  split
  · simp
  · split
    · rename_i l c more _
      split
      · have h := finish_length l.more (l.bits * 0x40 + (c.toNat - 0x80)) more
        split <;> rename_i e <;> rw [e] at h <;> exact Nat.le_succ_of_le h
      · simp
    · simp

def decodeChars : List UInt8 → List Char
  | [] => []
  | b :: rest => (decodeChar b rest).1 :: decodeChars (decodeChar b rest).2
termination_by bs => bs.length
decreasing_by exact Nat.lt_succ_of_le (decodeChar_length b rest)

def decode (bs : List UInt8) : String := String.ofList (decodeChars bs)

end JavaSurvey.Utf8
