set_option autoImplicit false

namespace JavaSurvey

/-- Code points with the surrogates among them. -/
abbrev CodePoint := Fin 0x110000

namespace CodePoint

def ofNat (n : Nat) : CodePoint := ⟨n % 0x110000, Nat.mod_lt n (by decide)⟩

def ofChar (c : Char) : CodePoint :=
  ⟨c.toNat, by
    have h : c.toNat < 0xD800 ∨ 0xDFFF < c.toNat ∧ c.toNat < 0x110000 := c.valid
    omega⟩

def ofString (s : String) : List CodePoint := s.toList.map ofChar

def isHigh (p : CodePoint) : Bool := 0xD800 ≤ p.val && p.val < 0xDC00

def isLow (p : CodePoint) : Bool := 0xDC00 ≤ p.val && p.val < 0xE000

def pair (h l : CodePoint) : CodePoint :=
  ofNat (0x10000 + (h.val - 0xD800) * 0x400 + (l.val - 0xDC00))

/-- Every high surrogate with a low one after it as one code point. -/
def joined : List CodePoint → List CodePoint
  | h :: l :: rest =>
    if h.isHigh && l.isLow then pair h l :: joined rest else h :: joined (l :: rest)
  | ps => ps

theorem isHigh_iff {p : CodePoint} : p.isHigh ↔ 0xD800 ≤ p.val ∧ p.val < 0xDC00 := by
  simp [isHigh]

theorem joined_cons_of_not_high {h : CodePoint} (hh : h.isHigh = false) (ps : List CodePoint) :
    joined (h :: ps) = h :: joined ps := by
  cases ps with
  | nil => rfl
  | cons l rest => rw [joined, hh, Bool.false_and, if_neg Bool.false_ne_true]

theorem isHigh_ofChar (c : Char) : (ofChar c).isHigh = false := by
  have h : c.toNat < 0xD800 ∨ 0xDFFF < c.toNat ∧ c.toNat < 0x110000 := c.valid
  rw [Bool.eq_false_iff, ne_eq, isHigh_iff]
  change ¬ (0xD800 ≤ c.toNat ∧ c.toNat < 0xDC00)
  omega

theorem joined_ofString (s : String) : joined (ofString s) = ofString s := by
  unfold ofString
  induction s.toList with
  | nil => rfl
  | cons c cs ih => rw [List.map_cons, joined_cons_of_not_high (isHigh_ofChar c), ih]

theorem ofChar_inj {c d : Char} : ofChar c = ofChar d ↔ c = d := by
  constructor
  · intro h
    exact Char.toNat_inj.mp (Fin.mk.inj h)
  · rintro rfl
    rfl

theorem ofString_inj {s t : String} : ofString s = ofString t ↔ s = t := by
  constructor
  · intro h
    exact String.toList_inj.mp ((List.map_inj_right fun _ _ => ofChar_inj.mp).mp h)
  · rintro rfl
    rfl

end CodePoint

end JavaSurvey
