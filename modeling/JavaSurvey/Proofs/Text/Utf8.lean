import JavaSurvey.Text.Utf8

set_option autoImplicit false

namespace JavaSurvey.Utf8

theorem toNat_valid (c : Char) : c.toNat < 0xD800 ∨ 0xDFFF < c.toNat ∧ c.toNat < 0x110000 := c.valid

theorem toNat_ofNat_of_lt {n : Nat} (h : n < 0x100) : (UInt8.ofNat n).toNat = n := by
  rw [UInt8.toNat_ofNat']
  exact Nat.mod_eq_of_lt h

/-! ### The bytes of a text -/

theorem encodeChar_eq (c : Char) : encodeChar c = String.utf8EncodeChar c := by
  have hc := toNat_valid c
  have hval : c.val.toNat = c.toNat := rfl
  have hlast : c.toNat % 64 + 128 = 128 + c.toNat % 64 := Nat.add_comm _ _
  have hthird : c.toNat / 64 % 64 + 128 = 128 + c.toNat / 64 % 64 := Nat.add_comm _ _
  have hsecond : c.toNat / 4096 % 64 + 128 = 128 + c.toNat / 4096 % 64 := Nat.add_comm _ _
  simp only [encodeChar, String.utf8EncodeChar, hval, hlast, hthird, hsecond]
  by_cases h1 : c.toNat < 0x80
  · have h1' : c.toNat ≤ 127 := by omega
    simp only [h1, h1', ↓reduceIte]
  have h1' : ¬ c.toNat ≤ 127 := by omega
  by_cases h2 : c.toNat < 0x800
  · have h2' : c.toNat ≤ 2047 := by omega
    have hfirst : c.toNat / 64 % 32 + 192 = 192 + c.toNat / 64 := by omega
    simp only [h1, h1', h2, h2', hfirst, ↓reduceIte]
  have h2' : ¬ c.toNat ≤ 2047 := by omega
  by_cases h3 : c.toNat < 0x10000
  · have h3' : c.toNat ≤ 65535 := by omega
    have hfirst : c.toNat / 4096 % 16 + 224 = 224 + c.toNat / 4096 := by omega
    simp only [h1, h1', h2, h2', h3, h3', hfirst, ↓reduceIte]
  · have h3' : ¬ c.toNat ≤ 65535 := by omega
    have hfirst : c.toNat / 262144 % 8 + 240 = 240 + c.toNat / 262144 := by omega
    simp only [h1, h1', h2, h2', h3, h3', hfirst, ↓reduceIte]

theorem encode_eq (s : String) : encode s = s.toUTF8.data.toList := by
  have hbytes : encodeChar = String.utf8EncodeChar := funext encodeChar_eq
  have hs : s.toUTF8 = s.toList.utf8Encode := String.utf8Encode_toList.symm
  rw [encode, hbytes, hs, List.utf8Encode, List.data_toByteArray]

/-! ### First bytes

What a first byte promises is kept by the second byte of every character that starts with it. -/

theorem lead?_two {n : Nat} (hlow : 0x80 ≤ n) (hhigh : n < 0x800) :
    ∃ low high, lead? (0xC0 + n / 0x40) = some ⟨n / 0x40, low, high, 0⟩ ∧
      low ≤ 0x80 + n % 0x40 ∧ 0x80 + n % 0x40 ≤ high := by
  refine ⟨0x80, 0xBF, ?_, by omega, by omega⟩
  rw [lead?, if_neg (by omega), if_pos (by omega), Nat.add_sub_cancel_left]

/-- After 0xE0 the second byte is high, lest fewer bytes would do, and after 0xED it is low, lest the
character be a surrogate. -/
theorem lead?_three {n : Nat} (hlow : 0x800 ≤ n) (hhigh : n < 0x10000)
    (hvalid : n < 0xD800 ∨ 0xDFFF < n) :
    ∃ low high, lead? (0xE0 + n / 0x1000) = some ⟨n / 0x1000, low, high, 1⟩ ∧
      low ≤ 0x80 + n / 0x40 % 0x40 ∧ 0x80 + n / 0x40 % 0x40 ≤ high := by
  by_cases hE0 : n / 0x1000 = 0
  · exact ⟨0xA0, 0xBF, by rw [hE0]; rfl, by omega, by omega⟩
  by_cases hED : n / 0x1000 = 0xD
  · exact ⟨0x80, 0x9F, by rw [hED]; rfl, by omega, by omega⟩
  refine ⟨0x80, 0xBF, ?_, by omega, by omega⟩
  rw [lead?, if_neg (by omega), if_neg (by omega), if_neg (by omega), if_neg (by omega),
    if_pos (by omega), Nat.add_sub_cancel_left]

/-- After 0xF0 it is high again, and after 0xF4 low, since no character lies beyond. -/
theorem lead?_four {n : Nat} (hlow : 0x10000 ≤ n) (hhigh : n < 0x110000) :
    ∃ low high, lead? (0xF0 + n / 0x40000) = some ⟨n / 0x40000, low, high, 2⟩ ∧
      low ≤ 0x80 + n / 0x1000 % 0x40 ∧ 0x80 + n / 0x1000 % 0x40 ≤ high := by
  by_cases hF0 : n / 0x40000 = 0
  · exact ⟨0x90, 0xBF, by rw [hF0]; rfl, by omega, by omega⟩
  by_cases hF4 : n / 0x40000 = 4
  · exact ⟨0x80, 0x8F, by rw [hF4]; rfl, by omega, by omega⟩
  refine ⟨0x80, 0xBF, ?_, by omega, by omega⟩
  rw [lead?, if_neg (by omega), if_neg (by omega), if_neg (by omega), if_neg (by omega),
    if_neg (by omega), if_neg (by omega), if_pos (by omega), Nat.add_sub_cancel_left]

/-! ### Round trip -/

theorem finish_ofNat (k n : Nat) {m : Nat} (h : m < 0x40) (bs : List UInt8) :
    finish (k + 1) n (.ofNat (0x80 + m) :: bs) = finish k (n * 0x40 + m) bs := by
  have hb : (UInt8.ofNat (0x80 + m)).toNat = 0x80 + m := toNat_ofNat_of_lt (by omega)
  rw [finish, hb, if_pos (by omega), Nat.add_sub_cancel_left]

theorem decodeChar_of_lead {b m : Nat} {l : Lead} (hb : b < 0x100) (hl : lead? b = some l)
    (hlow : l.low ≤ 0x80 + m) (hhigh : 0x80 + m ≤ l.high) (hm : m < 0x40) {rest left : List UInt8}
    {n : Nat} (hf : finish l.more (l.bits * 0x40 + m) rest = (some n, left)) :
    decodeChar (.ofNat b) (.ofNat (0x80 + m) :: rest) = (Char.ofNat n, left) := by
  have hfirst : (UInt8.ofNat b).toNat = b := toNat_ofNat_of_lt hb
  have hsecond : (UInt8.ofNat (0x80 + m)).toNat = 0x80 + m := toNat_ofNat_of_lt (by omega)
  have hnot : ¬ b < 0x80 := by
    intro h
    rw [lead?, if_pos (by omega)] at hl
    cases hl
  simp only [decodeChar, hfirst, hsecond, if_neg hnot, hl, hlow, hhigh, and_self, ↓reduceIte,
    Nat.add_sub_cancel_left, hf]

theorem decodeChars_encodeChar (c : Char) (rest : List UInt8) :
    decodeChars (encodeChar c ++ rest) = c :: decodeChars rest := by
  have hc := toNat_valid c
  simp only [encodeChar]
  by_cases h1 : c.toNat < 0x80
  · have hb : (UInt8.ofNat c.toNat).toNat = c.toNat := toNat_ofNat_of_lt (by omega)
    simp only [h1, ↓reduceIte, List.singleton_append, decodeChars, decodeChar, hb, Char.ofNat_toNat]
  by_cases h2 : c.toNat < 0x800
  · obtain ⟨low, high, hlead, hlow, hhigh⟩ := lead?_two (by omega) h2
    have hd := decodeChar_of_lead (by omega) hlead hlow hhigh (by omega)
      (rfl : finish 0 _ rest = (some _, rest))
    have hn : c.toNat / 0x40 * 0x40 + c.toNat % 0x40 = c.toNat := by omega
    simp only [h1, h2, ↓reduceIte, List.cons_append, List.nil_append, decodeChars, hd, hn,
      Char.ofNat_toNat]
  by_cases h3 : c.toNat < 0x10000
  · obtain ⟨low, high, hlead, hlow, hhigh⟩ := lead?_three (by omega) h3 (by omega)
    have hd := decodeChar_of_lead (by omega) hlead hlow hhigh (by omega)
      (finish_ofNat 0 _ (Nat.mod_lt c.toNat (by omega)) rest)
    have hn : (c.toNat / 0x1000 * 0x40 + c.toNat / 0x40 % 0x40) * 0x40 + c.toNat % 0x40 =
      c.toNat := by omega
    simp only [h1, h2, h3, ↓reduceIte, List.cons_append, List.nil_append, decodeChars, hd, hn,
      Char.ofNat_toNat]
  · obtain ⟨low, high, hlead, hlow, hhigh⟩ := lead?_four (n := c.toNat) (by omega) (by omega)
    have hd := decodeChar_of_lead (by omega) hlead hlow hhigh (by omega)
      ((finish_ofNat 1 _ (Nat.mod_lt (c.toNat / 0x40) (by omega)) _).trans
        (finish_ofNat 0 _ (Nat.mod_lt c.toNat (by omega)) rest))
    have hn : ((c.toNat / 0x40000 * 0x40 + c.toNat / 0x1000 % 0x40) * 0x40 +
      c.toNat / 0x40 % 0x40) * 0x40 + c.toNat % 0x40 = c.toNat := by omega
    simp only [h1, h2, h3, ↓reduceIte, List.cons_append, List.nil_append, decodeChars, hd, hn,
      Char.ofNat_toNat]

theorem decodeChars_encodeChars (cs : List Char) (rest : List UInt8) :
    decodeChars (cs.flatMap encodeChar ++ rest) = cs ++ decodeChars rest := by
  induction cs with
  | nil => rfl
  | cons c cs ih =>
    rw [List.flatMap_cons, List.append_assoc, decodeChars_encodeChar, ih, List.cons_append]

theorem decode_encode (s : String) : decode (encode s) = s := by
  have h := decodeChars_encodeChars s.toList []
  rw [List.append_nil, decodeChars, List.append_nil] at h
  rw [decode, encode, h, String.ofList_toList]

theorem encode_append (s t : String) : encode (s ++ t) = encode s ++ encode t := by
  rw [encode, String.toList_append, List.flatMap_append, encode, encode]

/-! ### Cuts

A character that is broken off takes no byte of what comes after it, unless that byte could have gone
on with it. -/

def IsTail (b : UInt8) : Prop := 0x80 ≤ b.toNat ∧ b.toNat ≤ 0xBF

/-- The first byte, if there is one, does not go on with anything. -/
def Restarts (bs : List UInt8) : Prop := ∀ b ∈ bs.head?, ¬ IsTail b

theorem restarts_nil : Restarts [] := by simp [Restarts]

theorem Restarts.take {bs : List UInt8} (h : Restarts bs) (n : Nat) : Restarts (bs.take n) := by
  cases n with
  | zero => exact restarts_nil
  | succ n => rwa [Restarts, List.head?_take]

theorem restarts_ofNat {n : Nat} (hn : n < 0x80 ∨ 0xBF < n ∧ n < 0x100) (bs : List UInt8) :
    Restarts (.ofNat n :: bs) := by
  intro b hb
  obtain rfl := Option.some_inj.mp hb
  rw [IsTail, toNat_ofNat_of_lt (by omega)]
  omega

theorem restarts_encodeChar (c : Char) (bs : List UInt8) : Restarts (encodeChar c ++ bs) := by
  have hc := toNat_valid c
  simp only [encodeChar]
  repeat' split
  all_goals exact restarts_ofNat (by omega) _

theorem restarts_encode (s : String) : Restarts (encode s) := by
  rw [encode]
  cases s.toList with
  | nil => exact restarts_nil
  | cons c cs => exact restarts_encodeChar c _

theorem lead?_bounds {b : Nat} {l : Lead} (h : lead? b = some l) : 0x80 ≤ l.low ∧ l.high ≤ 0xBF := by
  grind [lead?]

theorem finish_append (k n : Nat) (xs : List UInt8) {ys : List UInt8} (hys : Restarts ys) :
    finish k n (xs ++ ys) = ((finish k n xs).1, (finish k n xs).2 ++ ys) := by
  induction k generalizing n xs with
  | zero => rfl
  | succ k ih =>
    cases xs with
    | nil =>
      cases ys with
      | nil => rfl
      | cons y ys =>
        have hy : ¬ (0x80 ≤ y.toNat ∧ y.toNat ≤ 0xBF) := hys y rfl
        simp only [List.nil_append, finish, if_neg hy]
    | cons x xs =>
      simp only [List.cons_append, finish]
      split
      · exact ih _ xs
      · rfl

theorem decodeChar_append (b : UInt8) (xs : List UInt8) {ys : List UInt8} (hys : Restarts ys) :
    decodeChar b (xs ++ ys) = ((decodeChar b xs).1, (decodeChar b xs).2 ++ ys) := by
  unfold decodeChar
  split
  · rfl
  cases hl : lead? b.toNat with
  | none => rfl
  | some l =>
    cases xs with
    | nil =>
      cases ys with
      | nil => rfl
      | cons y ys =>
        -- a second byte in bounds would go on with the first
        have hy : ¬ (l.low ≤ y.toNat ∧ y.toNat ≤ l.high) := by
          have hbounds := lead?_bounds hl
          have hnot : ¬ (0x80 ≤ y.toNat ∧ y.toNat ≤ 0xBF) := hys y rfl
          omega
        simp only [List.nil_append, if_neg hy]
    | cons x xs =>
      simp only [List.cons_append, finish_append _ _ xs hys]
      split
      · rcases finish l.more (l.bits * 0x40 + (x.toNat - 0x80)) xs with ⟨_ | n, left⟩ <;> rfl
      · rfl

theorem decodeChars_append (xs : List UInt8) {ys : List UInt8} (hys : Restarts ys) :
    decodeChars (xs ++ ys) = decodeChars xs ++ decodeChars ys := by
  fun_induction decodeChars xs with
  | case1 => rfl
  | case2 b rest ih =>
    rw [List.cons_append, decodeChars, decodeChar_append b rest hys, ih, List.cons_append]

/-- Bytes that restart are read apart from those before them, whatever these are. -/
theorem decode_append (xs : List UInt8) {ys : List UInt8} (hys : Restarts ys) :
    decode (xs ++ ys) = decode xs ++ decode ys := by
  rw [decode, decodeChars_append xs hys, String.ofList_append, decode, decode]

end JavaSurvey.Utf8
