set_option autoImplicit false

namespace JavaSurvey

/-- `finite s m e` is `m * 2 ^ e`, below zero if `s`. -/
inductive Binary64 where
  | finite (negative : Bool) (mantissa : Nat) (exponent : Int)
  | infinite (negative : Bool)
  | nan
  deriving DecidableEq, Repr, Inhabited

/-- The integer nearest to `a / b`; of two, the even one. -/
def divEven (a b : Nat) : Nat :=
  let q := a / b
  let r := a % b
  if 2 * r < b then q
  else if b < 2 * r then q + 1
  else if q % 2 = 0 then q else q + 1

theorem divEven_bounds (a b : Nat) : a / b ≤ divEven a b ∧ divEven a b ≤ a / b + 1 := by
  simp only [divEven]
  split
  · omega
  · split
    · omega
    · split <;> omega

namespace Binary64

/-- A finite number, in the one form that it has: its exponent is as small as 53 bits allow. -/
def IsFinite : Binary64 → Prop
  | .finite _ m e =>
    m < Nat.pow 2 53 ∧ -1074 ≤ e ∧ e ≤ 971 ∧ (Nat.pow 2 52 ≤ m ∨ e = -1074)
  | .infinite _ | .nan => False

def zero : Binary64 := .finite false 0 (-1074)

/-- `a / (b * 2 ^ e)` as a quotient of natural numbers. -/
def scaled (a b : Nat) (e : Int) : Nat × Nat :=
  if 0 ≤ e then (a, b * Nat.pow 2 e.toNat) else (a * Nat.pow 2 (-e).toNat, b)

/-- The exponent at which `a / b` fills 53 bits, but none below the least one. -/
def exponentOf (a b : Nat) : Int :=
  let e : Int := (a.log2 : Int) - b.log2 - 52
  let (p, q) := scaled a b e
  max (if p / q < Nat.pow 2 52 then e - 1 else e) (-1074)

def ofQuotient (s : Bool) (a b : Nat) : Binary64 :=
  if a = 0 then .finite s 0 (-1074)
  else
    let e := exponentOf a b
    let (p, q) := scaled a b e
    let m := divEven p q
    let (m, e) := if m = Nat.pow 2 53 then (Nat.pow 2 52, e + 1) else (m, e)
    if 971 < e then .infinite s else .finite s m e

theorem scaled_eq (a b : Nat) (e : Int) :
    scaled a b e = (a * Nat.pow 2 (-e).toNat, b * Nat.pow 2 e.toNat) := by
  unfold scaled
  split
  · rename_i he
    have hneg : (-e).toNat = 0 := by omega
    rw [hneg]
    exact Prod.ext (Nat.mul_one a).symm rfl
  · rename_i he
    have hpos : e.toNat = 0 := by omega
    rw [hpos]
    exact Prod.ext rfl (Nat.mul_one b).symm

theorem scaled_snd_pos (a : Nat) {b : Nat} (hb : b ≠ 0) (e : Int) : 0 < (scaled a b e).2 := by
  rw [scaled_eq]
  exact Nat.mul_pos (Nat.pos_of_ne_zero hb) (Nat.pow_pos (by decide))

/-! The logarithms give the exponent up to one. -/

theorem lt_of_log2_le {a b : Nat} {e : Int} (hb : b ≠ 0) (he : (a.log2 : Int) - b.log2 - 52 ≤ e) :
    (scaled a b e).1 < Nat.pow 2 53 * (scaled a b e).2 := by
  have hpow : 2 ^ (a.log2 + 1 + (-e).toNat) ≤ 2 ^ (53 + (b.log2 + e.toNat)) :=
    Nat.pow_le_pow_right (by decide) (by omega)
  rw [scaled_eq]
  calc a * 2 ^ (-e).toNat
      < 2 ^ (a.log2 + 1) * 2 ^ (-e).toNat :=
        Nat.mul_lt_mul_of_pos_right Nat.lt_log2_self (Nat.pow_pos (by decide))
    _ = 2 ^ (a.log2 + 1 + (-e).toNat) := (Nat.pow_add ..).symm
    _ ≤ 2 ^ (53 + (b.log2 + e.toNat)) := hpow
    _ = 2 ^ 53 * (2 ^ b.log2 * 2 ^ e.toNat) := by rw [Nat.pow_add, Nat.pow_add 2 b.log2]
    _ ≤ 2 ^ 53 * (b * 2 ^ e.toNat) :=
        Nat.mul_le_mul_left _ (Nat.mul_le_mul_right _ (Nat.log2_self_le hb))

theorem le_of_le_log2 {a b : Nat} {e : Int} (ha : a ≠ 0) (he : e ≤ (a.log2 : Int) - b.log2 - 53) :
    Nat.pow 2 52 * (scaled a b e).2 ≤ (scaled a b e).1 := by
  have hpow : 2 ^ (52 + (b.log2 + 1 + e.toNat)) ≤ 2 ^ (a.log2 + (-e).toNat) :=
    Nat.pow_le_pow_right (by decide) (by omega)
  rw [scaled_eq]
  calc 2 ^ 52 * (b * 2 ^ e.toNat)
      ≤ 2 ^ 52 * (2 ^ (b.log2 + 1) * 2 ^ e.toNat) :=
        Nat.mul_le_mul_left _ (Nat.mul_le_mul_right _ (Nat.le_of_lt Nat.lt_log2_self))
    _ = 2 ^ (52 + (b.log2 + 1 + e.toNat)) := by rw [← Nat.pow_add, ← Nat.pow_add]
    _ ≤ 2 ^ (a.log2 + (-e).toNat) := hpow
    _ = 2 ^ a.log2 * 2 ^ (-e).toNat := Nat.pow_add ..
    _ ≤ a * 2 ^ (-e).toNat := Nat.mul_le_mul_right _ (Nat.log2_self_le ha)

theorem lt_of_exponent_le {a b : Nat} {e e' : Int} (he : e ≤ e')
    (h : (scaled a b e).1 < Nat.pow 2 53 * (scaled a b e).2) :
    (scaled a b e').1 < Nat.pow 2 53 * (scaled a b e').2 := by
  rw [scaled_eq] at h ⊢
  calc a * 2 ^ (-e').toNat
      ≤ a * 2 ^ (-e).toNat :=
        Nat.mul_le_mul_left _ (Nat.pow_le_pow_right (by decide) (by omega))
    _ < 2 ^ 53 * (b * 2 ^ e.toNat) := h
    _ ≤ 2 ^ 53 * (b * 2 ^ e'.toNat) :=
        Nat.mul_le_mul_left _ (Nat.mul_le_mul_left _ (Nat.pow_le_pow_right (by decide) (by omega)))

theorem lt_of_pred {a b : Nat} {e : Int}
    (h : (scaled a b e).1 < Nat.pow 2 52 * (scaled a b e).2) :
    (scaled a b (e - 1)).1 < Nat.pow 2 53 * (scaled a b (e - 1)).2 := by
  rw [scaled_eq] at h ⊢
  change a * 2 ^ (-e).toNat < 2 ^ 52 * (b * 2 ^ e.toNat) at h
  change a * 2 ^ (-(e - 1)).toNat < 2 ^ 53 * (b * 2 ^ (e - 1).toNat)
  by_cases he : 0 < e
  · obtain ⟨n, hn⟩ : ∃ n : Nat, e.toNat = n + 1 := ⟨e.toNat - 1, by omega⟩
    have hneg : (-(e - 1)).toNat = (-e).toNat := by omega
    have hpos : (e - 1).toNat = n := by omega
    rw [hn, Nat.pow_succ 2 n, ← Nat.mul_assoc b] at h
    rw [hneg, hpos]
    omega
  · have hneg : (-(e - 1)).toNat = (-e).toNat + 1 := by omega
    have hpos : (e - 1).toNat = e.toNat := by omega
    rw [hneg, hpos, Nat.pow_succ 2 (-e).toNat, ← Nat.mul_assoc]
    omega

theorem exponentOf_fills {a b : Nat} (ha : a ≠ 0) (hb : b ≠ 0) {e : Int} (he : exponentOf a b = e) :
    -1074 ≤ e ∧ (scaled a b e).1 < Nat.pow 2 53 * (scaled a b e).2 ∧
      (e = -1074 ∨ Nat.pow 2 52 * (scaled a b e).2 ≤ (scaled a b e).1) := by
  obtain ⟨guess, hguess⟩ : ∃ guess : Int, (a.log2 : Int) - b.log2 - 52 = guess := ⟨_, rfl⟩
  have hexponent : exponentOf a b = max (if (scaled a b guess).1 / (scaled a b guess).2 < Nat.pow 2 52
      then guess - 1 else guess) (-1074) := by
    rw [← hguess]
    rfl
  have hlt := lt_of_log2_le (a := a) hb (Int.le_of_eq hguess)
  rw [hexponent] at he
  split at he
  · rename_i hsmall
    have hsmall' := (Nat.div_lt_iff_lt_mul (scaled_snd_pos a hb guess)).mp hsmall
    refine ⟨by omega, lt_of_exponent_le (by omega) (lt_of_pred hsmall'), ?_⟩
    by_cases hmin : e = -1074
    · exact .inl hmin
    · exact .inr (le_of_le_log2 ha (by omega))
  · rename_i hlarge
    have hlarge' := (Nat.le_div_iff_mul_le (scaled_snd_pos a hb guess)).mp (Nat.le_of_not_lt hlarge)
    refine ⟨by omega, lt_of_exponent_le (by omega) hlt, ?_⟩
    by_cases hmin : e = -1074
    · exact .inl hmin
    · obtain rfl : guess = e := by omega
      exact .inr hlarge'

theorem isFinite_of_ofQuotient {s : Bool} {a b : Nat} (hb : b ≠ 0) {s' : Bool} {m : Nat} {e : Int}
    (h : ofQuotient s a b = .finite s' m e) : (Binary64.finite s' m e).IsFinite := by
  unfold ofQuotient at h
  split at h
  · cases h
    exact ⟨by decide, by decide, by decide, .inr rfl⟩
  · rename_i ha
    generalize hx : exponentOf a b = x at h
    obtain ⟨hmin, hlt, hge⟩ := exponentOf_fills ha hb hx
    have hq := scaled_snd_pos a hb x
    have hdiv := (Nat.div_lt_iff_lt_mul hq).mpr hlt
    have hdiv' := hge.imp_right (Nat.le_div_iff_mul_le hq).mpr
    have hround := divEven_bounds (scaled a b x).1 (scaled a b x).2
    have hcarry : Nat.pow 2 53 = 2 ^ 53 ∧ Nat.pow 2 52 = 2 ^ 52 := ⟨rfl, rfl⟩
    simp only [hcarry] at h hdiv hdiv'
    generalize divEven (scaled a b x).1 (scaled a b x).2 = n at h hround
    split at h
    · split at h
      · cases h
      · cases h
        exact ⟨Nat.pow_lt_pow_right (by decide) (by decide), by omega, by omega, .inl (Nat.le_refl _)⟩
    · split at h
      · cases h
      · cases h
        have hlow : x = -1074 ∨ 2 ^ 52 ≤ n := by omega
        have hhigh : n < 2 ^ 53 := by omega
        exact ⟨hhigh, hmin, by omega, hlow.symm⟩

/-- The number nearest to `digits * 10 ^ exponent`. Exponents far out of range are not computed. -/
def ofDecimal (s : Bool) (digits : Nat) (exponent : Int) : Binary64 :=
  let size : Int := (Nat.toDigits 10 digits).length + exponent
  if digits = 0 ∨ size < -400 then .finite s 0 (-1074)
  else if 400 < size then .infinite s
  else if 0 ≤ exponent then ofQuotient s (digits * Nat.pow 10 exponent.toNat) 1
  else ofQuotient s digits (Nat.pow 10 (-exponent).toNat)

end Binary64

abbrev Finite64 := { x : Binary64 // x.IsFinite }

def Finite64.zero : Finite64 := ⟨Binary64.zero, by decide, by decide, by decide, .inr rfl⟩

instance : Inhabited Finite64 := ⟨.zero⟩

end JavaSurvey
