import JavaSurvey.Json.Writer
import JavaSurvey.Proofs.Json.Numeral
import Mathlib.Data.List.Chain

set_option autoImplicit false

namespace JavaSurvey.Json

/-! ### Strings -/

mutual

/-- The value with surrogates joined in all its strings and names. -/
def joined : Json → Json
  | .null => .null
  | .bool b => .bool b
  | .integer n => .integer n
  | .real text => .real text
  | .string s => .string (CodePoint.joined s)
  | .array vs => .array (joinedItems vs)
  | .object ms => .object (joinedMembers ms)

def joinedItems : List Json → List Json
  | [] => []
  | v :: vs => joined v :: joinedItems vs

def joinedMembers : List (List CodePoint × Json) → List (List CodePoint × Json)
  | [] => []
  | (k, v) :: ms => (CodePoint.joined k, joined v) :: joinedMembers ms

end

/-- Every number in the value that is no integer is a numeral that is not taken for one, and all
strings and names have the property `P`. -/
inductive Lawful (P : List CodePoint → Prop) : Json → Prop
  | null : Lawful P .null
  | bool (b : Bool) : Lawful P (.bool b)
  | integer (n : Int) : Lawful P (.integer n)
  | real {text : String} (numeral : Numeral text.toList)
      (marked : ∃ c ∈ text.toList, c ≠ '-' ∧ c.isDigit = false) : Lawful P (.real text)
  | string {s : List CodePoint} (proper : P s) : Lawful P (.string s)
  | array {vs : List Json} (items : ∀ v ∈ vs, Lawful P v) : Lawful P (.array vs)
  | object {ms : List (List CodePoint × Json)} (proper : ∀ m ∈ ms, P m.1)
      (members : ∀ m ∈ ms, Lawful P m.2) : Lawful P (.object ms)

variable {P : List CodePoint → Prop}

theorem lawful_object_iff {ms : List (List CodePoint × Json)} :
    Lawful P (.object ms) ↔ (∀ m ∈ ms, P m.1) ∧ ∀ m ∈ ms, Lawful P m.2 := by
  constructor
  · intro h
    cases h with
    | object proper members => exact ⟨proper, members⟩
  · rintro ⟨proper, members⟩
    exact .object proper members

def Ascii (cs : List Char) : Prop := ∀ c ∈ cs, c.toNat < 0x80

@[simp] theorem ascii_nil : Ascii [] := by simp [Ascii]

@[simp] theorem ascii_cons {c : Char} {cs : List Char} :
    Ascii (c :: cs) ↔ c.toNat < 0x80 ∧ Ascii cs := by simp [Ascii]

@[simp] theorem ascii_append {as bs : List Char} : Ascii (as ++ bs) ↔ Ascii as ∧ Ascii bs := by
  simp [Ascii, or_imp, forall_and]

theorem Digits.ascii {ds : List Char} (h : Digits ds) : Ascii ds := by
  intro c hc
  have hdigit := h.2 c hc
  simp only [Char.isDigit, Bool.and_eq_true, decide_eq_true_eq, ge_iff_le,
    UInt32.le_iff_toNat_le] at hdigit
  exact Nat.lt_of_le_of_lt hdigit.2 (by decide)

theorem Fraction.ascii {f : List Char} (h : Fraction f) : Ascii f := by
  cases h with
  | none => simp
  | point digits => simp [digits.ascii]

theorem Power.ascii {p : List Char} (h : Power p) : Ascii p := by
  cases h with
  | none => simp
  | plain letter digits => rcases letter with rfl | rfl <;> simp [digits.ascii]
  | signed letter sign digits =>
    rcases letter with rfl | rfl <;> rcases sign with rfl | rfl <;> simp [digits.ascii]

theorem Numeral.ascii {cs : List Char} (h : Numeral cs) : Ascii cs := by
  have hunsigned {ds : List Char} (hu : Unsigned ds) : Ascii ds := by
    obtain ⟨whole, fraction, power⟩ := hu
    simp [whole.digits.ascii, fraction.ascii, power.ascii]
  cases h with
  | positive unsigned => exact hunsigned unsigned
  | negative unsigned => simp [hunsigned unsigned]

end JavaSurvey.Json
