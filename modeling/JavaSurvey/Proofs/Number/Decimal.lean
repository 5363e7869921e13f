import JavaSurvey.Proofs.Json.Numeral
import Mathlib.Algebra.Order.Field.Power
import Mathlib.Data.Rat.Cast.Order
import Mathlib.Tactic.Linarith
import Mathlib.Tactic.NormNum
import Mathlib.Tactic.Positivity
import Mathlib.Tactic.Ring

/-!
The text of a finite binary number is a numeral with a point or a power of ten, and there is one number
only that has it. The text stands for a rational number; that lies among those which round to the
number, and no rational number rounds to two.
-/

set_option autoImplicit false

namespace JavaSurvey

/-! ### Numerals and what they stand for -/

namespace Json

def powerValue : List Char → Int
  | [] => 0
  | _ :: '-' :: ds => -digitsValue ds
  | _ :: '+' :: ds => digitsValue ds
  | _ :: ds => digitsValue ds

def partsValue (w f p : List Char) : ℚ :=
  digitsValue (w ++ f.drop 1) * 10 ^ (powerValue p - (f.drop 1).length)

/-- An unsigned numeral that is more than digits, and the rational number that it stands for. -/
inductive Shows : List Char → ℚ → Prop
  | mk {w f p : List Char} (whole : Whole w) (fraction : Fraction f) (power : Power p)
      (marked : f ≠ [] ∨ p ≠ []) : Shows (w ++ f ++ p) (partsValue w f p)

theorem Shows.unsigned {cs : List Char} {x : ℚ} (h : Shows cs x) : Unsigned cs := by
  obtain ⟨whole, fraction, power, -⟩ := h
  exact .mk whole fraction power

theorem Shows.exists_mark {cs : List Char} {x : ℚ} (h : Shows cs x) :
    ∃ c ∈ cs, c ≠ '-' ∧ c.isDigit = false := by
  obtain ⟨-, fraction, power, marked⟩ := h
  cases fraction with
  | point digits => exact ⟨'.', by simp, by decide⟩
  | none =>
    have hletter : ∀ e : Char, e = 'e' ∨ e = 'E' → e ≠ '-' ∧ e.isDigit = false := by
      rintro e (rfl | rfl) <;> decide
    cases power with
    | none => simp at marked
    | plain letter digits => exact ⟨_, by simp, hletter _ letter⟩
    | signed letter sign digits => exact ⟨_, by simp, hletter _ letter⟩

theorem parts_unique {w f p w' f' p' : List Char} (hw : Whole w) (hf : Fraction f) (hp : Power p)
    (hw' : Whole w') (hf' : Fraction f') (hp' : Power p') (h : w ++ f ++ p = w' ++ f' ++ p') :
    w = w' ∧ f = f' ∧ p = p' := by
  have hpower := hp.head_not_digit stops_nil
  have hpower' := hp'.head_not_digit stops_nil
  rw [List.append_nil] at hpower hpower'
  have hwhole := readWhole_append hw (hf.head_not_digit fun c hc => (hpower c hc).1)
  have hwhole' := readWhole_append hw' (hf'.head_not_digit fun c hc => (hpower' c hc).1)
  rw [← List.append_assoc] at hwhole hwhole'
  rw [h, hwhole', Option.some.injEq, Prod.mk.injEq] at hwhole
  have hfraction := readFraction_append hf hpower
  rw [← hwhole.2, readFraction_append hf' hpower', Option.some.injEq, Prod.mk.injEq] at hfraction
  exact ⟨hwhole.1.symm, hfraction.1.symm, hfraction.2.symm⟩

theorem Shows.unique {cs : List Char} {x y : ℚ} (hx : Shows cs x) (hy : Shows cs y) : x = y := by
  cases hx with
  | @mk w f p whole fraction power =>
    generalize he : w ++ f ++ p = cs at hy
    cases hy with
    | mk whole' fraction' power' =>
      obtain ⟨rfl, rfl, rfl⟩ := parts_unique whole fraction power whole' fraction' power' he
      rfl

end Json

namespace Binary64

open Json

/-! ### Texts -/

section

variable {c : Char} {ds : List Char}

theorem shows_below_one (h : Digits (c :: ds)) {k : Int} (hk : k ≤ 0) :
    Shows ('0' :: '.' :: (zeros (-k).toNat ++ c :: ds))
      (digitsValue (c :: ds) * 10 ^ (k - (c :: ds).length : Int)) := by
  have hf : Digits (zeros (-k).toNat ++ c :: ds) :=
    digits_append (.inr h.1) (fun _ => isDigit_of_mem_zeros) h.2
  have hshows := Shows.mk .zero (.point hf) .none (.inl (by simp))
  have hpower : powerValue [] - ((zeros (-k).toNat ++ c :: ds).length : Int) =
      k - (c :: ds).length := by
    rw [List.length_append, zeros, List.length_replicate, powerValue]
    omega
  have hdigits : digitsValue (['0'] ++ (zeros (-k).toNat ++ c :: ds)) = digitsValue (c :: ds) :=
    digitsValue_zeros_append ((-k).toNat + 1) (c :: ds)
  rwa [partsValue, List.drop_one, List.tail_cons, hpower, hdigits, List.append_nil] at hshows

theorem shows_whole (hc : c ≠ '0') (h : Digits (c :: ds)) {k : Int}
    (hk : ((c :: ds).length : Int) ≤ k) :
    Shows (c :: ds ++ zeros (k.toNat - (c :: ds).length) ++ ['.', '0'])
      (digitsValue (c :: ds) * 10 ^ (k - (c :: ds).length : Int)) := by
  have hw : Whole (c :: (ds ++ zeros (k.toNat - (c :: ds).length))) :=
    .nonzero hc (digits_append (.inl h.1) h.2 fun _ => isDigit_of_mem_zeros)
  have hshows := Shows.mk hw (.point digits_zero) .none (.inl (by simp))
  have hdigits : digitsValue (c :: ds ++ zeros (k.toNat - (c :: ds).length) ++ zeros 1) =
      digitsValue (c :: ds) * 10 ^ (k.toNat - (c :: ds).length) * 10 := by
    rw [zeros, zeros, digitsValue_append_zeros, digitsValue_append_zeros, Nat.pow_one]
  have hvalue : partsValue (c :: (ds ++ zeros (k.toNat - (c :: ds).length))) ['.', '0'] [] =
      digitsValue (c :: ds) * 10 ^ (k - (c :: ds).length : Int) := by
    have hk' : k - (c :: ds).length = (k.toNat - (c :: ds).length : Nat) := by omega
    rw [partsValue, hk', zpow_natCast]
    change (digitsValue (c :: ds ++ zeros (k.toNat - (c :: ds).length) ++ zeros 1) : ℚ) *
      10 ^ (-1 : Int) = _
    rw [hdigits, zpow_neg_one]
    push_cast
    ring
  rwa [hvalue, List.append_nil] at hshows

theorem shows_between (hc : c ≠ '0') (h : Digits (c :: ds)) {k : Int} (hk : 0 < k)
    (hlt : k < (c :: ds).length) :
    Shows ((c :: ds).take k.toNat ++ '.' :: (c :: ds).drop k.toNat)
      (digitsValue (c :: ds) * 10 ^ (k - (c :: ds).length : Int)) := by
  obtain ⟨n, rfl⟩ : ∃ n : Nat, k = (n + 1 : Nat) := ⟨k.toNat - 1, by omega⟩
  rw [Int.toNat_natCast, List.take_succ_cons, List.drop_succ_cons]
  have hw : Whole (c :: ds.take n) := by
    refine .nonzero hc ⟨by simp, fun d hd => h.2 d ?_⟩
    rcases List.mem_cons.mp hd with rfl | hd
    · simp
    · exact List.mem_cons_of_mem _ (List.mem_of_mem_take hd)
  have hf : Digits (ds.drop n) := by
    refine ⟨fun hnil => ?_, fun d hd => h.2 d (List.mem_cons_of_mem _ (List.mem_of_mem_drop hd))⟩
    have hle := List.drop_eq_nil_iff.mp hnil
    rw [List.length_cons] at hlt
    omega
  have hshows := Shows.mk hw (.point hf) .none (.inl (by simp))
  have hpower : powerValue [] - ((ds.drop n).length : Int) = (n + 1 : Nat) - (c :: ds).length := by
    rw [List.length_cons] at hlt ⊢
    rw [List.length_drop, powerValue]
    omega
  have hdigits : c :: ds.take n ++ ds.drop n = c :: ds :=
    congrArg (c :: ·) (List.take_append_drop n ds)
  rwa [partsValue, List.drop_one, List.tail_cons, hpower, hdigits, List.append_nil] at hshows

theorem shows_positional (hc : c ≠ '0') (h : Digits (c :: ds)) (k : Int) :
    Shows (positional (c :: ds) k) (digitsValue (c :: ds) * 10 ^ (k - (c :: ds).length : Int)) := by
  unfold positional
  split
  · exact shows_below_one h ‹_›
  · split
    · exact shows_whole hc h (by omega)
    · exact shows_between hc h (by omega) (by omega)

theorem shows_scientific (hc : c ≠ '0') (h : Digits (c :: ds)) (k : Int) :
    Shows (scientific (c :: ds) k) (digitsValue (c :: ds) * 10 ^ (k - (c :: ds).length : Int)) := by
  have hw : Whole [c] := .nonzero hc ⟨by simp, fun d hd => h.2 d (by simp_all)⟩
  have hf : Fraction (if (c :: ds).length ≤ 1 then [] else '.' :: ds) := by
    split
    · exact .none
    · rename_i hlen
      refine .point ⟨fun hnil => hlen ?_, fun d hd => h.2 d (List.mem_cons_of_mem _ hd)⟩
      rw [hnil]
      exact Nat.le_refl 1
  have hdrop : (if (c :: ds).length ≤ 1 then [] else '.' :: ds).drop 1 = ds := by
    split
    · rename_i hlen
      rw [List.length_cons] at hlen
      exact (List.length_eq_zero_iff.mp (by omega)).symm
    · rfl
  have hp (x : Nat) : Digits (if x < 10 then '0' :: digitsOf x else digitsOf x) ∧
      digitsValue (if x < 10 then '0' :: digitsOf x else digitsOf x) = x := by
    split
    · exact ⟨digits_append (.inl digits_zero.1) digits_zero.2 (digits_toDigits x).2,
        (digitsValue_zeros_append 1 _).trans (digitsValue_toDigits x)⟩
    · exact ⟨digits_toDigits x, digitsValue_toDigits x⟩
  obtain ⟨hdigits, hvalue⟩ := hp (k - 1).natAbs
  have hsign : (if k ≤ 0 then '-' else '+') = '+' ∨ (if k ≤ 0 then '-' else '+') = '-' := by
    split
    · exact .inr rfl
    · exact .inl rfl
  have hshows := Shows.mk hw hf (.signed (.inl rfl) hsign hdigits) (.inr (by simp))
  have hpower : powerValue ('e' :: (if k ≤ 0 then '-' else '+') ::
      (if (k - 1).natAbs < 10 then '0' :: digitsOf (k - 1).natAbs else digitsOf (k - 1).natAbs)) -
        (ds.length : Int) = k - (c :: ds).length := by
    rw [List.length_cons]
    split
    · rw [powerValue, hvalue]
      omega
    · rw [powerValue, hvalue]
      omega
  rw [partsValue, hdrop, hpower] at hshows
  exact hshows

end

/-! ### Spans -/

/-- The rational number `x` is one of those that round. -/
structure Span.Holds (s : Span) (e : Int) (x : ℚ) : Prop where
  low : s.low * 2 ^ (e - 2) ≤ x
  high : x ≤ s.high * 2 ^ (e - 2)
  inner : s.closed = false → s.low * 2 ^ (e - 2) < x ∧ x < s.high * 2 ^ (e - 2)

theorem zpow_mul_pow {a : ℚ} (ha : a ≠ 0) (q : Int) : a ^ q * a ^ (-q).toNat = a ^ q.toNat := by
  rw [← zpow_natCast, ← zpow_natCast, ← zpow_add₀ ha]
  congr 1
  omega

theorem factors_eq (e q : Int) : ∃ k : ℚ, 0 < k ∧ ((factors e q).1 : ℚ) = 10 ^ q * k ∧
    ((factors e q).2 : ℚ) = 2 ^ (e - 2) * k := by
  have hten := zpow_mul_pow (a := 10) (by norm_num) q
  have htwo := zpow_mul_pow (a := 2) (by norm_num) (e - 2)
  rw [Int.neg_sub] at htwo
  refine ⟨10 ^ (-q).toNat * 2 ^ (2 - e).toNat, by positivity, ?_, ?_⟩
  · rw [← mul_assoc, hten, factors]
    exact_mod_cast rfl
  · rw [mul_left_comm, htwo, factors]
    exact_mod_cast rfl

theorem Span.holds_of_has {s : Span} {e q : Int} {c : Nat}
    (h : s.has (factors e q).1 (factors e q).2 c) : s.Holds e (c * 10 ^ q) := by
  obtain ⟨k, hk, hp, hr⟩ := factors_eq e q
  have hten : (c * (factors e q).1 : ℚ) = c * 10 ^ q * k := by rw [hp, mul_assoc]
  have htwo (u : Nat) : (u * (factors e q).2 : ℚ) = u * 2 ^ (e - 2) * k := by rw [hr, mul_assoc]
  unfold has at h
  split at h
  · rename_i hclosed
    simp only [Bool.and_eq_true, decide_eq_true_eq] at h
    have hlow : (s.low * (factors e q).2 : ℚ) ≤ c * (factors e q).1 := by exact_mod_cast h.1
    have hhigh : (c * (factors e q).1 : ℚ) ≤ s.high * (factors e q).2 := by exact_mod_cast h.2
    rw [hten, htwo] at hlow hhigh
    exact ⟨le_of_mul_le_mul_right hlow hk, le_of_mul_le_mul_right hhigh hk, by simp [hclosed]⟩
  · simp only [Bool.and_eq_true, decide_eq_true_eq] at h
    have hlow : (s.low * (factors e q).2 : ℚ) < c * (factors e q).1 := by exact_mod_cast h.1
    have hhigh : (c * (factors e q).1 : ℚ) < s.high * (factors e q).2 := by exact_mod_cast h.2
    rw [hten, htwo] at hlow hhigh
    have hinner := And.intro (lt_of_mul_lt_mul_right hlow hk.le)
      (lt_of_mul_lt_mul_right hhigh hk.le)
    exact ⟨hinner.1.le, hinner.2.le, fun _ => hinner⟩

/-- No number is in two spans of which the second starts where the first ends, unless both have the
end with them. -/
theorem Span.Holds.not_above {s t : Span} {e : Int} {d : Nat} {x : ℚ} (hs : s.Holds e x)
    (hle : s.high ≤ t.low * 2 ^ d)
    (hopen : s.high < t.low * 2 ^ d ∨ s.closed = false ∨ t.closed = false) :
    ¬ t.Holds (e + d) x := by
  intro ht
  have hunit : (2 : ℚ) ^ (e + d - 2) = 2 ^ d * 2 ^ (e - 2) := by
    rw [← zpow_natCast, ← zpow_add₀ (by norm_num)]
    congr 1
    omega
  have hpos : (0 : ℚ) < 2 ^ (e - 2) := by positivity
  have hends : (s.high * 2 ^ (e - 2) : ℚ) ≤ t.low * 2 ^ (e + d - 2) := by
    rw [hunit, ← mul_assoc]
    exact mul_le_mul_of_nonneg_right (by exact_mod_cast hle) hpos.le
  rcases hopen with hlt | ho | ho
  · have hlt' : (s.high * 2 ^ (e - 2) : ℚ) < t.low * 2 ^ (e + d - 2) := by
      rw [hunit, ← mul_assoc]
      exact mul_lt_mul_of_pos_right (by exact_mod_cast hlt) hpos
    linarith [hs.high, ht.low]
  · linarith [(hs.inner ho).2, ht.low]
  · linarith [hs.high, (ht.inner ho).1]

theorem Span.Holds.eq_of_same_exponent {m m' : Nat} {e : Int} {x : ℚ} (h : (span m e).Holds e x)
    (h' : (span m' e).Holds e x) : m = m' := by
  have hlt {m m' : Nat} (h : (span m e).Holds e x) (h' : (span m' e).Holds e x) : ¬ m < m' := by
    intro hlt
    have hlow : 4 * m' - 2 ≤ (span m' e).low := by
      simp only [span]
      split <;> omega
    refine h.not_above (d := 0) ?_ ?_ (by simpa using h')
    · simp only [span] at hlow ⊢
      omega
    · simp only [span, beq_eq_false_iff_ne] at hlow ⊢
      omega
  have := hlt h h'
  have := hlt h' h
  omega

/-- No number rounds to two finite ones. -/
theorem Span.Holds.unique {s s' : Bool} {m m' : Nat} {e e' : Int} {x : ℚ}
    (hf : (finite s m e).IsFinite) (hf' : (finite s' m' e').IsFinite)
    (h : (span m e).Holds e x) (h' : (span m' e').Holds e' x) : m = m' ∧ e = e' := by
  -- a number of the greater exponent fills its bits, and the one of the lesser lies below it
  have hlt {s s' : Bool} {m m' : Nat} {e e' : Int} (hf : (finite s m e).IsFinite)
      (hf' : (finite s' m' e').IsFinite) (h : (span m e).Holds e x)
      (h' : (span m' e').Holds e' x) : ¬ e < e' := by
    intro hlt
    have hm : m < 2 ^ 53 := hf.1
    have hmin : -1074 ≤ e := hf.2.1
    have hm' : 2 ^ 52 ≤ m' ∨ e' = -1074 := hf'.2.2.2
    obtain ⟨d, rfl⟩ : ∃ d : Nat, e' = e + (d + 1 : Nat) := ⟨(e' - e - 1).toNat, by omega⟩
    have hlow : 2 ^ 54 - 1 ≤ (span m' (e + (d + 1 : Nat))).low := by
      simp only [span, Nat.pow_eq]
      split <;> omega
    have hdouble : 2 ^ 55 - 2 ≤ (span m' (e + (d + 1 : Nat))).low * 2 ^ (d + 1) := by
      rw [Nat.pow_succ 2 d, ← Nat.mul_assoc]
      have := Nat.mul_le_mul hlow (Nat.one_le_two_pow (n := d))
      omega
    refine h.not_above (d := d + 1) ?_ ?_ h'
    · refine Nat.le_trans ?_ hdouble
      simp only [span]
      omega
    · by_cases ho : m % 2 = 0
      · refine .inl (Nat.lt_of_lt_of_le ?_ hdouble)
        simp only [span]
        omega
      · refine .inr (.inl ?_)
        simpa [span] using ho
  have he : e = e' := by
    have := hlt hf hf' h h'
    have := hlt hf' hf h' h
    omega
  subst he
  exact ⟨h.eq_of_same_exponent h', rfl⟩

/-! ### The shortest digits -/

theorem has_of_candidate? {s : Span} {e q : Int} {c : Nat} (h : candidate? s e q = some c) :
    s.has (factors e q).1 (factors e q).2 c := by
  unfold candidate? at h
  simp only at h
  split at h
  · rename_i hc hc'
    rw [← Option.some.inj h]
    split
    · exact hc
    · split
      · exact hc'
      · split
        · exact hc
        · exact hc'
  · rename_i hc hc'
    rwa [← Option.some.inj h]
  · rename_i hc hc'
    rwa [← Option.some.inj h]
  · cases h

theorem exact_value (m : Nat) (e : Int) :
    ((exact m e).1 * 10 ^ (exact m e).2 : ℚ) = m * 2 ^ e := by
  unfold exact
  split
  · rename_i he
    obtain ⟨n, rfl⟩ := Int.eq_ofNat_of_zero_le he
    rw [zpow_zero, mul_one]
    exact_mod_cast rfl
  · rename_i he
    obtain ⟨n, rfl⟩ : ∃ n : Nat, e = -n := ⟨(-e).toNat, by omega⟩
    have hten : (10 : ℚ) ^ (-n : Int) * 5 ^ n = 2 ^ (-n : Int) := by
      rw [show (10 : ℚ) = 2 * 5 by norm_num, mul_zpow, mul_assoc, zpow_neg 5, zpow_natCast 5,
        inv_mul_cancel₀ (by positivity), mul_one]
    rw [← hten]
    simp only [neg_neg, Int.toNat_natCast, Nat.pow_eq]
    push_cast
    ring

theorem span_holds_middle (m : Nat) (e : Int) : (span m e).Holds e (m * 2 ^ e) := by
  have hmid : (m * 2 ^ e : ℚ) = (4 * m : Nat) * 2 ^ (e - 2) := by
    rw [zpow_sub₀ (by norm_num)]
    push_cast
    ring
  have hpos : (0 : ℚ) < 2 ^ (e - 2) := by positivity
  have hlow : (span m e).low ≤ 4 * m ∧ ((span m e).closed = false → (span m e).low < 4 * m) := by
    simp only [span, beq_eq_false_iff_ne]
    split <;> omega
  have hhigh : 4 * m < (span m e).high := by
    simp only [span]
    omega
  rw [hmid]
  refine ⟨?_, ?_, fun ho => ⟨?_, ?_⟩⟩
  · exact mul_le_mul_of_nonneg_right (by exact_mod_cast hlow.1) hpos.le
  · exact mul_le_mul_of_nonneg_right (by exact_mod_cast hhigh.le) hpos.le
  · exact mul_lt_mul_of_pos_right (by exact_mod_cast hlow.2 ho) hpos
  · exact mul_lt_mul_of_pos_right (by exact_mod_cast hhigh) hpos

theorem shortest_holds (m : Nat) (e : Int) :
    (span m e).Holds e ((shortest m e).1 * 10 ^ (shortest m e).2) := by
  unfold shortest
  simp only
  cases hfound : ((List.range 17).map fun (n : Nat) => magnitude m e - (n + 1)).findSome? fun q =>
      (candidate? (span m e) e q).map fun c => (c, q) with
  | none =>
    rw [Option.getD_none, exact_value]
    exact span_holds_middle m e
  | some found =>
    obtain ⟨q, -, hq⟩ := List.exists_of_findSome?_eq_some hfound
    obtain ⟨c, hc, rfl⟩ := Option.map_eq_some_iff.mp hq
    exact Span.holds_of_has (has_of_candidate? hc)

theorem stripZeros_value (fuel c : Nat) (q : Int) :
    ((stripZeros fuel c q).1 * 10 ^ (stripZeros fuel c q).2 : ℚ) = c * 10 ^ q := by
  induction fuel generalizing c q with
  | zero => rfl
  | succ fuel ih =>
    rw [stripZeros]
    split
    · rename_i hc
      have hten : c = c / 10 * 10 := by omega
      rw [ih, zpow_add_one₀ (by norm_num)]
      nth_rewrite 2 [hten]
      push_cast
      ring
    · rfl

theorem Span.Holds.pos {m : Nat} (hm : m ≠ 0) {e : Int} {x : ℚ} (h : (span m e).Holds e x) :
    0 < x := by
  have hlow : 0 < (span m e).low := by
    simp only [span]
    split <;> omega
  have hpos : (0 : ℚ) < (span m e).low * 2 ^ (e - 2) := by positivity
  exact hpos.trans_le h.low

/-! ### Texts determine numbers -/

theorem toText_shows (s : Bool) (m : Nat) (e : Int) :
    ∃ cs x, (finite s m e).toText.toList = signText s ++ cs ∧ Shows cs x ∧ (span m e).Holds e x := by
  simp only [toText]
  by_cases hm : m = 0
  · rw [if_pos hm, String.toList_ofList]
    refine ⟨_, _, rfl, .mk .zero (.point digits_zero) .none (.inl (by simp)), ?_⟩
    have hmiddle := span_holds_middle m e
    have hzero : (m * 2 ^ e : ℚ) = partsValue ['0'] ['.', '0'] [] := by
      rw [hm, partsValue, Nat.cast_zero, zero_mul]
      exact (zero_mul _).symm
    rwa [hzero] at hmiddle
  · rw [if_neg hm]
    have hholds := shortest_holds m e
    rw [← stripZeros_value 20] at hholds
    generalize stripZeros 20 (shortest m e).1 (shortest m e).2 = found at hholds
    obtain ⟨c, q⟩ := found
    have hc : c ≠ 0 := by
      rintro rfl
      simpa using hholds.pos hm
    obtain ⟨d, ds, hds, hd⟩ := exists_toDigits hc
    have hdigits := digits_toDigits c
    have hvalue : (digitsValue (d :: ds) : ℚ) *
        10 ^ (((d :: ds).length + q : Int) - (d :: ds).length) = c * 10 ^ q := by
      rw [← hds, digitsValue_toDigits, add_sub_cancel_left]
    simp only [digitsOf, String.toList_ofList, hds] at hdigits ⊢
    refine ⟨_, c * 10 ^ q, rfl, ?_, hholds⟩
    rw [← hvalue]
    split
    · exact shows_positional hd hdigits _
    · exact shows_scientific hd hdigits _

end Binary64

namespace Json

theorem numeral_signText (s : Bool) {cs : List Char} (h : Unsigned cs) :
    Numeral (Binary64.signText s ++ cs) := by
  cases s with
  | true => exact .negative h
  | false => exact .positive h

theorem numeral_toText (x : Finite64) : Numeral x.val.toText.toList ∧
    ∃ c ∈ x.val.toText.toList, c ≠ '-' ∧ c.isDigit = false := by
  obtain ⟨x, hx⟩ := x
  cases x with
  | nan => cases hx
  | infinite s => cases hx
  | finite s m e =>
    obtain ⟨cs, v, hcs, hshows, -⟩ := Binary64.toText_shows s m e
    obtain ⟨c, hc, hmark⟩ := hshows.exists_mark
    rw [hcs]
    exact ⟨numeral_signText s hshows.unsigned, c, List.mem_append_right _ hc, hmark⟩

end Json

end JavaSurvey
