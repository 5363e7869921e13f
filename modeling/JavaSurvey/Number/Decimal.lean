import JavaSurvey.Number.Binary64

set_option autoImplicit false

namespace JavaSurvey.Binary64

/-! ### The fewest digits -/

/-- The reals that round to `m * 2 ^ e`, in units of `2 ^ (e - 2)`: from `low` to `high`, the ends
with them if `closed`. -/
structure Span where
  low : Nat
  mid : Nat
  high : Nat
  closed : Bool

/-- Below a power of two the numbers lie closer together. -/
def span (m : Nat) (e : Int) : Span where
  low := if m = Nat.pow 2 52 ∧ -1074 < e then 4 * m - 1 else 4 * m - 2
  mid := 4 * m
  high := 4 * m + 2
  closed := m % 2 == 0

/-- `c * 10 ^ q` and `u * 2 ^ (e - 2)` compare as `c * p` and `u * r`. -/
def factors (e q : Int) : Nat × Nat :=
  (Nat.pow 10 q.toNat * Nat.pow 2 (2 - e).toNat, Nat.pow 10 (-q).toNat * Nat.pow 2 (e - 2).toNat)

def Span.has (s : Span) (p r c : Nat) : Bool :=
  if s.closed then s.low * r ≤ c * p && c * p ≤ s.high * r
  else s.low * r < c * p && c * p < s.high * r

/-- The multiple of `10 ^ q` in the span that lies nearest to its middle. -/
def candidate? (s : Span) (e q : Int) : Option Nat :=
  let (p, r) := factors e q
  let c := s.mid * r / p
  match s.has p r c, s.has p r (c + 1) with
  | true, true =>
    let below := s.mid * r - c * p
    let above := (c + 1) * p - s.mid * r
    some (if below < above then c else if above < below then c + 1
      else if c % 2 = 0 then c else c + 1)
  | true, false => some c
  | false, true => some (c + 1)
  | false, false => none

/-- The number `k` with `10 ^ (k - 1) ≤ m * 2 ^ e < 10 ^ k`. -/
def magnitude (m : Nat) (e : Int) : Int :=
  let guess : Int := (e + m.log2) * 30103 / 100000
  let below (k : Int) : Bool :=
    let (p, r) := factors e k
    4 * m * r < p
  ([guess - 1, guess, guess + 1].find? below).getD (guess + 2)

def exact (m : Nat) (e : Int) : Nat × Int :=
  if 0 ≤ e then (m * Nat.pow 2 e.toNat, 0) else (m * Nat.pow 5 (-e).toNat, e)

/-- Digits `c` and a power `q` with `c * 10 ^ q` in the span, as few digits as can be. -/
def shortest (m : Nat) (e : Int) : Nat × Int :=
  let k := magnitude m e
  let s := span m e
  (((List.range 17).map fun (n : Nat) => k - (n + 1)).findSome? fun q =>
    (candidate? s e q).map fun c => (c, q)).getD (exact m e)

def stripZeros : Nat → Nat → Int → Nat × Int
  | 0, c, q => (c, q)
  | fuel + 1, c, q => if c % 10 = 0 ∧ c ≠ 0 then stripZeros fuel (c / 10) (q + 1) else (c, q)

/-! ### Texts -/

def zeros (n : Nat) : List Char := List.replicate n '0'

def signText (s : Bool) : List Char := if s then ['-'] else []

def digitsOf (n : Nat) : List Char := Nat.toDigits 10 n

def positional (ds : List Char) (k : Int) : List Char :=
  if k ≤ 0 then '0' :: '.' :: (zeros (-k).toNat ++ ds)
  else if ds.length ≤ k.toNat then ds ++ zeros (k.toNat - ds.length) ++ ['.', '0']
  else ds.take k.toNat ++ '.' :: ds.drop k.toNat

def scientific (ds : List Char) (k : Int) : List Char :=
  let x := (k - 1).natAbs
  let power := if x < 10 then '0' :: digitsOf x else digitsOf x
  let point := if ds.length ≤ 1 then [] else '.' :: ds.drop 1
  ds.take 1 ++ point ++ 'e' :: (if k ≤ 0 then '-' else '+') :: power

/-- The fewest digits that read back; positional from `10 ^ -4` to below `10 ^ 16`. -/
def toText : Binary64 → String
  | .nan => "nan"
  | .infinite s => String.ofList (signText s ++ "inf".toList)
  | .finite s m e =>
    if m = 0 then String.ofList (signText s ++ "0.0".toList)
    else
      let found := shortest m e
      let (c, q) := stripZeros 20 found.1 found.2
      let ds := digitsOf c
      let k : Int := ds.length + q
      String.ofList (signText s ++
        (if -4 ≤ k - 1 ∧ k - 1 < 16 then positional ds k else scientific ds k))

/-- Two places after the point, a half going to the even neighbour. -/
def toFixed2 : Binary64 → String
  | .nan => "nan"
  | .infinite s => String.ofList (signText s ++ "inf".toList)
  | .finite s m e =>
    let n :=
      if 0 ≤ e then 100 * m * Nat.pow 2 e.toNat else divEven (100 * m) (Nat.pow 2 (-e).toNat)
    let cents := digitsOf (n % 100)
    String.ofList (signText s ++ digitsOf (n / 100) ++ '.' :: (zeros (2 - cents.length) ++ cents))

end JavaSurvey.Binary64
