import JavaSurvey.Number.Digits
import Mathlib.Algebra.Order.Ring.Int

set_option autoImplicit false

namespace JavaSurvey

theorem digitsValue_eq_ofDigitChars (cs : List Char) : digitsValue cs = Nat.ofDigitChars 10 cs 0 :=
  rfl

theorem digitsValue_toDigits (n : Nat) : digitsValue (Nat.toDigits 10 n) = n :=
  Nat.ofDigitChars_toDigits (by decide) (by decide)

theorem digitsValue_append (as bs : List Char) :
    digitsValue (as ++ bs) = digitsValue as * 10 ^ bs.length + digitsValue bs := by
  rw [digitsValue_eq_ofDigitChars, Nat.ofDigitChars_append, Nat.ofDigitChars_eq_ofDigitChars_zero,
    Nat.mul_comm]
  rfl

theorem digitsValue_zeros (z : Nat) : digitsValue (List.replicate z '0') = 0 := by
  rw [digitsValue_eq_ofDigitChars, Nat.ofDigitChars_replicate_zero, Nat.mul_zero]

theorem digitsValue_zeros_append (z : Nat) (ds : List Char) :
    digitsValue (List.replicate z '0' ++ ds) = digitsValue ds := by
  rw [digitsValue_append, digitsValue_zeros, Nat.zero_mul, Nat.zero_add]

theorem digitsValue_append_zeros (ds : List Char) (z : Nat) :
    digitsValue (ds ++ List.replicate z '0') = digitsValue ds * 10 ^ z := by
  rw [digitsValue_append, digitsValue_zeros, List.length_replicate, Nat.add_zero]

theorem toString_nat_inj {m n : Nat} : toString m = toString n ↔ m = n := by
  constructor
  · intro h
    have hdigits : Nat.toDigits 10 m = Nat.toDigits 10 n := String.ofList_inj.mp h
    rw [← digitsValue_toDigits m, hdigits, digitsValue_toDigits]
  · rintro rfl
    rfl

theorem writable_iff {n : Int} : Writable n ↔ n.natAbs < 10 ^ maxDigits :=
  Nat.length_toDigits_le_iff (by decide) (by decide)

theorem writable_neg {n : Int} : Writable (-n) ↔ Writable n := by
  rw [writable_iff, writable_iff, Int.natAbs_neg]

theorem not_writable_of_pow_le {k : Nat} (hk : maxDigits ≤ k) {n : Int} (h : 10 ^ k ≤ n) :
    ¬ Writable n := by
  rw [writable_iff, Nat.not_lt]
  have hnat : 10 ^ k ≤ n.natAbs := by
    have hcast : ((10 ^ k : Nat) : Int) = 10 ^ k := Int.natCast_pow 10 k
    omega
  exact Nat.le_trans (Nat.pow_le_pow_right (by decide) hk) hnat

end JavaSurvey
