import JavaSurvey.Json.Reader
import JavaSurvey.Number.Decimal
import JavaSurvey.Proofs.Number.Digits

set_option autoImplicit false

namespace JavaSurvey.Json

/-! ### Numerals -/

def Digits (ds : List Char) : Prop := ds ≠ [] ∧ ∀ c ∈ ds, c.isDigit

/-- Digits without a zero in front, or a zero alone. -/
inductive Whole : List Char → Prop
  | zero : Whole ['0']
  | nonzero {c : Char} {ds : List Char} (head : c ≠ '0') (digits : Digits (c :: ds)) :
      Whole (c :: ds)

inductive Fraction : List Char → Prop
  | none : Fraction []
  | point {ds : List Char} (digits : Digits ds) : Fraction ('.' :: ds)

inductive Power : List Char → Prop
  | none : Power []
  | plain {e : Char} {ds : List Char} (letter : e = 'e' ∨ e = 'E') (digits : Digits ds) :
      Power (e :: ds)
  | signed {e s : Char} {ds : List Char} (letter : e = 'e' ∨ e = 'E') (sign : s = '+' ∨ s = '-')
      (digits : Digits ds) : Power (e :: s :: ds)

inductive Unsigned : List Char → Prop
  | mk {w f p : List Char} (whole : Whole w) (fraction : Fraction f) (power : Power p) :
      Unsigned (w ++ f ++ p)

inductive Numeral : List Char → Prop
  | positive {cs : List Char} (unsigned : Unsigned cs) : Numeral cs
  | negative {cs : List Char} (unsigned : Unsigned cs) : Numeral ('-' :: cs)

theorem Whole.digits {w : List Char} (h : Whole w) : Digits w := by
  cases h with
  | zero =>
    refine ⟨by simp, fun c hc => ?_⟩
    rw [List.mem_singleton.mp hc]
    rfl
  | nonzero _ digits => exact digits

theorem Unsigned.of_fraction {w f : List Char} (whole : Whole w) (fraction : Fraction f) :
    Unsigned (w ++ f) := by
  have hu := Unsigned.mk whole fraction .none
  rwa [List.append_nil] at hu

/-- What follows does not go on with a number. -/
def Stops (rest : List Char) : Prop :=
  ∀ c ∈ rest.head?, c.isDigit = false ∧ c ≠ '.' ∧ c ≠ 'e' ∧ c ≠ 'E'

theorem stops_nil : Stops [] := by simp [Stops]

theorem readDigits_append {ds rest : List Char} (h : Digits ds)
    (hr : ∀ c ∈ rest.head?, c.isDigit = false) : readDigits (ds ++ rest) = some (ds, rest) := by
  have htake : rest.takeWhile Char.isDigit = [] ∧ rest.dropWhile Char.isDigit = rest := by
    cases rest with
    | nil => simp
    | cons c rest => simp [hr c rfl]
  simp [readDigits, List.takeWhile_append_of_pos h.2, List.dropWhile_append_of_pos h.2, htake, h.1]

theorem readWhole_append {w rest : List Char} (h : Whole w)
    (hr : ∀ c ∈ rest.head?, c.isDigit = false) : readWhole (w ++ rest) = some (w, rest) := by
  cases h with
  | zero => rfl
  | @nonzero c ds head digits =>
    rw [List.cons_append, readWhole, ← List.cons_append, readDigits_append digits hr]
    rintro left ⟨⟩
    exact head rfl

theorem readFraction_append {f rest : List Char} (h : Fraction f)
    (hr : ∀ c ∈ rest.head?, c.isDigit = false ∧ c ≠ '.') :
    readFraction (f ++ rest) = some (f, rest) := by
  cases h with
  | none =>
    rw [List.nil_append, readFraction]
    rintro left rfl
    exact (hr '.' rfl).2 rfl
  | point digits =>
    rw [List.cons_append, readFraction, readDigits_append digits fun c hc => (hr c hc).1]
    rfl

theorem Fraction.head_not_digit {f rest : List Char} (h : Fraction f)
    (hr : ∀ c ∈ rest.head?, c.isDigit = false) :
    ∀ c ∈ (f ++ rest).head?, c.isDigit = false := by
  cases h with
  | none => exact hr
  | point digits =>
    rintro c ⟨⟩
    rfl

theorem Power.head_not_digit {p rest : List Char} (h : Power p) (hr : Stops rest) :
    ∀ c ∈ (p ++ rest).head?, c.isDigit = false ∧ c ≠ '.' := by
  have hletter : ∀ e : Char, e = 'e' ∨ e = 'E' → e.isDigit = false ∧ e ≠ '.' := by
    rintro e (rfl | rfl) <;> decide
  cases h with
  | none => exact fun c hc => ⟨(hr c hc).1, (hr c hc).2.1⟩
  | plain letter digits =>
    rintro c ⟨⟩
    exact hletter _ letter
  | signed letter sign digits =>
    rintro c ⟨⟩
    exact hletter _ letter

theorem digits_toDigits (n : Nat) : Digits (Nat.toDigits 10 n) :=
  ⟨Nat.toDigits_ne_nil, fun _ hc => Nat.isDigit_of_mem_toDigits (by decide) (by decide) hc⟩

theorem exists_toDigits {n : Nat} (h : n ≠ 0) :
    ∃ c ds, Nat.toDigits 10 n = c :: ds ∧ c ≠ '0' := by
  induction n using Nat.strongRecOn with
  | ind n ih =>
    by_cases hlt : n < 10
    · rw [Nat.toDigits_of_lt_base hlt]
      exact ⟨_, [], rfl, by simpa using h⟩
    · obtain ⟨c, ds, he, hc⟩ := ih (n / 10) (by omega) (by omega)
      rw [Nat.toDigits_of_base_le (by decide) (by omega), he]
      exact ⟨c, _, rfl, hc⟩

theorem Whole.unsigned {w : List Char} (h : Whole w) : Unsigned w := by
  have hu := Unsigned.of_fraction h .none
  rwa [List.append_nil] at hu

theorem digits_append {as bs : List Char} (hne : as ≠ [] ∨ bs ≠ []) (ha : ∀ c ∈ as, c.isDigit)
    (hb : ∀ c ∈ bs, c.isDigit) : Digits (as ++ bs) := by
  refine ⟨fun hnil => ?_, fun c hc => ?_⟩
  · obtain ⟨rfl, rfl⟩ := List.append_eq_nil_iff.mp hnil
    rcases hne with hne | hne <;> exact hne rfl
  · rcases List.mem_append.mp hc with hc | hc
    · exact ha c hc
    · exact hb c hc

theorem isDigit_of_mem_zeros {n : Nat} {c : Char} (h : c ∈ Binary64.zeros n) : c.isDigit := by
  rw [List.eq_of_mem_replicate h]
  rfl

theorem digits_zero : Digits ['0'] := Whole.zero.digits

end JavaSurvey.Json
