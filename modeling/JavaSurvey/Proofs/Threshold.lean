import JavaSurvey.Proofs.Json.Numeral
import JavaSurvey.Report.Basic
import Mathlib.Data.List.DropRight
import Mathlib.Data.Nat.Digits.Defs
import Mathlib.Tactic.IntervalCases

set_option autoImplicit false

namespace JavaSurvey

/-! ### Blanks around a text -/

namespace Blank

/-- `t` is left of `s` when the blanks at both ends are gone. -/
structure Trimmed (s t : List Char) : Prop where
  around : ∃ l r, s = l ++ t ++ r ∧ (∀ c ∈ l, isBlank c) ∧ ∀ c ∈ r, isBlank c
  first : ∀ c ∈ t.head?, isBlank c = false
  last : ∀ c ∈ t.getLast?, isBlank c = false

theorem trimList_eq_rdropWhile (cs : List Char) :
    trimList cs = (cs.dropWhile isBlank).rdropWhile isBlank := rfl

theorem head?_dropWhile (cs : List Char) {c : Char} (hc : c ∈ (cs.dropWhile isBlank).head?) :
    isBlank c = false := by
  have h := List.head?_dropWhile_not isBlank cs
  rwa [hc] at h

theorem trimmed_trimList (s : List Char) : Trimmed s (trimList s) where
  around := by
    refine ⟨s.takeWhile isBlank, (s.dropWhile isBlank).rtakeWhile isBlank, ?_,
      fun c => List.mem_takeWhile_imp, fun c => List.mem_rtakeWhile_imp⟩
    rw [trimList_eq_rdropWhile, List.append_assoc, List.rdropWhile_append_rtakeWhile,
      List.takeWhile_append_dropWhile]
  first := by
    intro c hc
    obtain ⟨rest, hrest⟩ := List.rdropWhile_prefix isBlank (s.dropWhile isBlank)
    refine head?_dropWhile s ?_
    rw [← hrest, ← trimList_eq_rdropWhile, List.head?_append, hc]
    rfl
  last := by
    intro c hc
    rw [trimList, List.getLast?_reverse] at hc
    exact head?_dropWhile _ hc

theorem dropWhile_of_head? {cs : List Char} (h : ∀ c ∈ cs.head?, isBlank c = false) :
    cs.dropWhile isBlank = cs := by
  cases cs with
  | nil => rfl
  | cons c cs => simp [h c rfl]

theorem Trimmed.trimList_eq {s t : List Char} (h : Trimmed s t) : trimList s = t := by
  obtain ⟨⟨l, r, rfl, hl, hr⟩, hfirst, hlast⟩ := h
  have hr' : ∀ c ∈ r.reverse, isBlank c := by simpa using hr
  rw [trimList, List.append_assoc, List.dropWhile_append_of_pos hl]
  cases t with
  | nil =>
    rw [List.nil_append, List.dropWhile_eq_nil_iff.mpr hr]
    rfl
  | cons c t =>
    -- the first character stops the search from the left, the last one that from the right
    have hstop : (c :: t ++ r).dropWhile isBlank = c :: t ++ r := dropWhile_of_head? hfirst
    have hlast' : ∀ d ∈ (c :: t).reverse.head?, isBlank d = false := by
      rwa [List.head?_reverse]
    rw [hstop, List.reverse_append, List.dropWhile_append_of_pos hr', dropWhile_of_head? hlast',
      List.reverse_reverse]

theorem trimmed_iff {s t : List Char} : Trimmed s t ↔ t = trimList s := by
  constructor
  · exact fun h => h.trimList_eq.symm
  · rintro rfl
    exact trimmed_trimList s

end Blank

/-! ### Numerals -/

namespace Threshold

theorem isNumeral_iff {cs : List Char} : isNumeral cs ↔ Json.Digits cs := by
  simp [isNumeral, Json.Digits]

theorem not_isBlank_of_isDigit {c : Char} (h : c.isDigit) : Blank.isBlank c = false := by
  simp only [Char.isDigit, ge_iff_le, Bool.and_eq_true, decide_eq_true_eq, UInt32.le_iff_toNat_le] at h
  have hdigit : ∀ n, 48 ≤ n → n ≤ 57 → Blank.table.has n = false := by
    intro n hlow hhigh
    interval_cases n <;> decide
  exact hdigit c.toNat h.1 h.2

theorem digitsValue_eq_ofDigits (cs : List Char) :
    digitsValue cs = Nat.ofDigits 10 (cs.reverse.map fun c => c.toNat - '0'.toNat) := by
  rw [digitsValue, List.foldl_eq_foldr_reverse, Nat.ofDigits_eq_foldr, List.foldr_map]
  simp only [Nat.cast_id, Nat.add_comm]

/-- What becomes of a text of which `t` is left without the blanks around it. -/
structure ReadAs (s : String) (t : List Char) : Prop where
  taken : ∀ n, parse (.text s) = .ok n ↔ Json.Digits t ∧ t.length ≤ 4300 ∧
    n = Nat.ofDigits 10 (t.reverse.map fun c => c.toNat - '0'.toNat)
  tooLong : ∀ k, parse (.text s) = .error (.tooLong k) ↔
    Json.Digits t ∧ 4300 < t.length ∧ k = t.length
  refused : ∀ v, parse (.text s) = .error (.invalid v) ↔ ¬ Json.Digits t ∧ v = .text s

theorem readAs {s : String} {t : List Char} (h : Blank.Trimmed s.toList t) : ReadAs s t := by
  have hparse : parse (.text s) = if isNumeral t then
      if t.length ≤ 4300 then .ok (digitsValue t) else .error (.tooLong t.length)
    else .error (.invalid (.text s)) := by
    rw [parse, ofText, h.trimList_eq]
    rfl
  by_cases hd : Json.Digits t
  · rw [if_pos (isNumeral_iff.mpr hd)] at hparse
    by_cases hlen : t.length ≤ 4300
    · rw [if_pos hlen, digitsValue_eq_ofDigits] at hparse
      constructor <;> simp [hparse, hd, hlen, Nat.not_lt.mpr hlen, eq_comm]
    · rw [if_neg hlen] at hparse
      constructor <;> simp [hparse, hd, hlen, Nat.not_le.mp hlen, eq_comm]
  · rw [if_neg (mt isNumeral_iff.mp hd)] at hparse
    constructor <;> simp [hparse, hd, eq_comm]

theorem trimmed_numeral {l r ds : List Char} (hl : ∀ c ∈ l, Blank.isBlank c)
    (hr : ∀ c ∈ r, Blank.isBlank c) (hds : Json.Digits ds) : Blank.Trimmed (l ++ ds ++ r) ds := by
  have hdigit : ∀ c ∈ ds, Blank.isBlank c = false := fun c hc =>
    not_isBlank_of_isDigit (hds.2 c hc)
  refine ⟨⟨l, r, rfl, hl, hr⟩, fun c hc => hdigit c ?_, fun c hc => hdigit c ?_⟩
  · exact List.mem_of_mem_head? hc
  · exact List.mem_of_getLast? hc

theorem parse_padded (n z : Nat) {l r : List Char} (hlen : z + (toString n).toList.length ≤ 4300)
    (hl : ∀ c ∈ l, Blank.isBlank c) (hr : ∀ c ∈ r, Blank.isBlank c) :
    parse (.text (String.ofList (l ++ (List.replicate z '0' ++ (toString n).toList) ++ r))) = .ok n := by
  have htext : (toString n).toList = Nat.toDigits 10 n := String.toList_ofList
  have hdigits : Json.Digits (List.replicate z '0' ++ Nat.toDigits 10 n) :=
    Json.digits_append (.inr Nat.toDigits_ne_nil) (fun c hc => Json.isDigit_of_mem_zeros hc)
      (Json.digits_toDigits n).2
  rw [htext] at hlen ⊢
  have htrim : Blank.Trimmed (String.ofList (l ++ (List.replicate z '0' ++ Nat.toDigits 10 n) ++
      r)).toList (List.replicate z '0' ++ Nat.toDigits 10 n) := by
    rw [String.toList_ofList]
    exact trimmed_numeral hl hr hdigits
  refine ((readAs htrim).taken n).mpr ⟨hdigits, ?_, ?_⟩
  · rw [List.length_append, List.length_replicate]
    exact hlen
  · rw [← digitsValue_eq_ofDigits, digitsValue_zeros_append, digitsValue_toDigits]

theorem refuse_eq_invalid_iff {v : Given} :
    ThresholdError.refuse v = .invalid v ↔ ∀ n ∈ v.wholes, Writable n := by
  unfold ThresholdError.refuse
  split
  · exact iff_of_true rfl ‹_›
  · exact iff_of_false (by simp) ‹_›

theorem refuse_eq_unshown_iff {v : Given} :
    ThresholdError.refuse v = .unshown .exceeded ↔ ∃ n ∈ v.wholes, ¬ Writable n := by
  have hsome : (∃ n ∈ v.wholes, ¬ Writable n) ↔ ¬ ∀ n ∈ v.wholes, Writable n := by
    simp only [Classical.not_forall, exists_prop]
  unfold ThresholdError.refuse
  rw [hsome]
  split
  · exact iff_of_false (by simp) (not_not_intro ‹_›)
  · exact iff_of_true rfl ‹_›

theorem parse_of_not_text {v : Given} (h : ∀ s, v ≠ .text s) :
    (∃ n : Nat, v = .whole n ∧ parse v = .ok n) ∨
      (∀ n : Nat, v ≠ .whole n) ∧ parse v = .error (.refuse v) := by
  cases v with
  | text s => exact absurd rfl (h s)
  | whole n =>
    by_cases hn : 0 ≤ n
    · obtain ⟨m, rfl⟩ := Int.eq_ofNat_of_zero_le hn
      exact .inl ⟨m, rfl, parse_whole m⟩
    · refine .inr ⟨fun m hm => hn ?_, by simp [parse, hn]⟩
      rw [Given.whole.inj hm]
      exact Int.natCast_nonneg m
  | nothing | truth _ | real _ | list _ | table _ => exact .inr ⟨by simp, rfl⟩

end Threshold

/-! ### Queries and reports -/

theorem Inventory.classesWithMinMethods_eq (inv : Inventory) {v : Given} {n : Nat}
    (h : Threshold.parse v = .ok n) : inv.classesWithMinMethods v = .ok (inv.withAtLeast n) := by
  rw [classesWithMinMethods, h]
  rfl

namespace Survey

theorem overThreshold_eq (s : Survey) {v : Given} (h : v ≠ .nothing) :
    s.overThreshold v = (Threshold.parse v).map fun n => some (n, s.inventory.withAtLeast n) := by
  rw [overThreshold]
  · cases Threshold.parse v with
    | error e => rfl
    | ok n =>
      simp only [bind, Except.bind, s.inventory.classesWithMinMethods_eq (Threshold.parse_whole n)]
      rfl
  · exact h

theorem report_eq_threshold_error_iff {s : Survey} {v : Given} {e : ThresholdError} :
    s.report v = .error (.threshold e) ↔ s.overThreshold v = .error e := by
  unfold report
  cases s.overThreshold v with
  | error e' => simp [bind, Except.bind, Except.mapError]
  | ok reached =>
    cases s.inventory.averageMethodsPerClass <;> cases s.inventory.averageLinesPerMethod <;>
      cases s.inventory.averageAttributesPerClass <;>
        simp [bind, Except.bind, Except.mapError, pure, Except.pure]

theorem overThreshold_of_report {s : Survey} {v : Given} {r : Report} (h : s.report v = .ok r) :
    ∃ reached, s.overThreshold v = .ok reached ∧ r.threshold = reached.map Prod.fst ∧
      r.classesOverThreshold = reached.map Prod.snd := by
  unfold report at h
  cases hover : s.overThreshold v with
  | error e => simp [hover, bind, Except.bind, Except.mapError] at h
  | ok reached =>
    refine ⟨reached, rfl, ?_⟩
    cases hm : s.inventory.averageMethodsPerClass <;> cases hl : s.inventory.averageLinesPerMethod <;>
      cases ha : s.inventory.averageAttributesPerClass <;>
        simp [hover, hm, hl, ha, bind, Except.bind, Except.mapError, pure, Except.pure] at h
    subst h
    exact ⟨rfl, rfl⟩

theorem report_of_refused (s : Survey) {v : Given} {e : ThresholdError}
    (h : Threshold.parse v = .error e) (hv : v ≠ .nothing) : s.report v = .error (.threshold e) := by
  rw [report_eq_threshold_error_iff, s.overThreshold_eq hv, h]
  rfl

theorem overThreshold_of_taken (s : Survey) {v : Given} {n : Nat} (h : Threshold.parse v = .ok n) :
    s.overThreshold v = .ok (some (n, s.inventory.withAtLeast n)) := by
  have hv : v ≠ .nothing := by
    rintro rfl
    cases h
  rw [s.overThreshold_eq hv, h]
  rfl

theorem report_of_taken {s : Survey} {v : Given} {n : Nat} (h : Threshold.parse v = .ok n)
    {r : Report} (hr : s.report v = .ok r) :
    r.threshold = some n ∧ r.classesOverThreshold = some (s.inventory.withAtLeast n) := by
  obtain ⟨reached, hreached, hthreshold, hclasses⟩ := overThreshold_of_report hr
  rw [s.overThreshold_of_taken h, Except.ok.injEq] at hreached
  subst hreached
  exact ⟨hthreshold, hclasses⟩

end Survey

namespace Threshold

/-- A text is taken if all that is left of it without the blanks around it is at most 4300 decimal digits,
for the number that they stand for; any other value is taken only if it is a natural number. The error
for a value that is not taken shows the value, unless there is a whole number in it of more than 4300
digits. A value that is refused is refused with the same error by queries and by reports. From a value
that is taken they get the number, and taking that again changes nothing. -/
theorem parse_takes_numerals :
    (∀ s : String, ∃ t, (∀ t', Blank.Trimmed s.toList t' ↔ t' = t) ∧ ReadAs s t) ∧
    (∀ (n z : Nat) (l r : List Char), z + (toString n).toList.length ≤ 4300 →
      (∀ c ∈ l, Blank.isBlank c) → (∀ c ∈ r, Blank.isBlank c) →
      parse (.text (String.ofList (l ++ (List.replicate z '0' ++ (toString n).toList) ++ r))) =
        parse (.whole n) ∧ parse (.whole n) = .ok n) ∧
    (∀ v : Given, (∀ s, v ≠ .text s) → (∀ n, parse v = .ok n ↔ v = .whole n) ∧
      (parse v = .error (.invalid v) ↔
        (∀ n : Nat, v ≠ .whole n) ∧ ∀ n ∈ v.wholes, Writable n) ∧
      (parse v = .error (.unshown .exceeded) ↔
        (∀ n : Nat, v ≠ .whole n) ∧ ∃ n ∈ v.wholes, ¬ Writable n)) ∧
    (∀ (s : Survey) (v : Given) (e : ThresholdError), parse v = .error e →
      s.inventory.classesWithMinMethods v = .error e ∧
        (v ≠ .nothing → s.report v = .error (.threshold e))) ∧
    (∀ (s : Survey) (v : Given) (n : Nat), parse v = .ok n → parse (.whole n) = .ok n ∧
      s.inventory.classesWithMinMethods v = .ok (s.inventory.withAtLeast n) ∧
      s.inventory.classesWithMinMethods (.whole n) = .ok (s.inventory.withAtLeast n) ∧
      (∀ e, s.report v ≠ .error (.threshold e)) ∧
      ∀ r, s.report v = .ok r →
        r.threshold = some n ∧ r.classesOverThreshold = some (s.inventory.withAtLeast n)) := by
  refine ⟨fun s => ?_, fun n z l r hlen hl hr => ?_, fun v hv => ?_, fun s v e he => ?_,
    fun s v n hn => ?_⟩
  · exact ⟨Blank.trimList s.toList, fun _ => Blank.trimmed_iff, readAs (Blank.trimmed_trimList _)⟩
  · rw [parse_padded n z hlen hl hr, parse_whole]
    exact ⟨rfl, rfl⟩
  · rcases parse_of_not_text hv with ⟨m, rfl, h⟩ | ⟨hno, h⟩
    · rw [h]
      simp
    · rw [h]
      refine ⟨fun n => by simpa using hno n, ?_, ?_⟩
      · rw [Except.error.injEq, refuse_eq_invalid_iff]
        exact (and_iff_right hno).symm
      · rw [Except.error.injEq, refuse_eq_unshown_iff]
        exact (and_iff_right hno).symm
  · refine ⟨?_, s.report_of_refused he⟩
    rw [Inventory.classesWithMinMethods, he]
    rfl
  · refine ⟨parse_whole n, s.inventory.classesWithMinMethods_eq hn,
      s.inventory.classesWithMinMethods_eq (parse_whole n), fun e he => ?_,
      fun r hr => Survey.report_of_taken hn hr⟩
    rw [Survey.report_eq_threshold_error_iff, s.overThreshold_of_taken hn] at he
    cases he

theorem parse_takes_numerals_padded :
    let padded := Given.text "\u2003 007\n"
    parse padded = .ok 7 ∧ parse (.truth true) = .error (.invalid (.truth true)) ∧
      ({} : Survey).report (.truth true) = .error (.threshold (.invalid (.truth true))) ∧
      ∃ r, ({} : Survey).report padded = .ok r ∧ r.threshold = some 7 := by
  intro padded
  obtain ⟨-, hpadded, hother, hrefused, htaken⟩ := parse_takes_numerals
  have hseven : parse padded = .ok 7 := by
    have hl : ∀ c ∈ ['\u2003', ' '], Blank.isBlank c :=
      List.forall_mem_cons.mpr ⟨rfl, List.forall_mem_singleton.mpr rfl⟩
    have hr : ∀ c ∈ ['\n'], Blank.isBlank c := List.forall_mem_singleton.mpr rfl
    obtain ⟨h, hwhole⟩ := hpadded 7 2 _ _ (by decide) hl hr
    exact h.trans hwhole
  have htruth : parse (.truth true) = .error (.invalid (.truth true)) :=
    (hother (.truth true) (by simp)).2.1.mpr (by simp [Given.wholes])
  obtain ⟨r, hr⟩ : ∃ r, ({} : Survey).report padded = .ok r := ⟨_, rfl⟩
  obtain ⟨-, -, -, -, hreport⟩ := htaken {} padded 7 hseven
  exact ⟨hseven, htruth, (hrefused {} _ _ htruth).2 (by simp), r, hr, (hreport r hr).1⟩

/-- The information separators, which are controls and have no property of white space, are blanks all
the same. Neither a number below zero nor a list is taken, but no error can show these two. -/
theorem parse_separated_and_unshown :
    parse (.text "\x1c5") = .ok 5 ∧
      (∀ v, parse (.whole (-10 ^ 4300)) ≠ .error (.invalid v)) ∧
      parse (.whole (-10 ^ 4300)) = .error (.unshown .exceeded) ∧
      parse (.list [.whole (10 ^ 4300)]) = .error (.unshown .exceeded) := by
  have hlong : ¬ Writable (10 ^ 4300) := not_writable_of_pow_le (Nat.le_refl _) (Int.le_refl _)
  have hneg : ThresholdError.refuse (.whole (-10 ^ 4300)) = .unshown .exceeded :=
    refuse_eq_unshown_iff.mpr ⟨_, List.mem_singleton_self _, mt writable_neg.mp hlong⟩
  have hlist : ThresholdError.refuse (.list [.whole (10 ^ 4300)]) = .unshown .exceeded :=
    refuse_eq_unshown_iff.mpr ⟨_, List.mem_singleton_self _, hlong⟩
  have hlt : ¬ (0 : Int) ≤ -10 ^ 4300 :=
    Int.not_le.mpr (Int.neg_neg_of_pos (Int.pow_pos (by decide)))
  have hparse : parse (.whole (-10 ^ 4300)) = .error (.unshown .exceeded) := by
    rw [parse, if_neg hlt, hneg]
  refine ⟨?_, fun v hv => ?_, hparse, ?_⟩
  · exact parse_padded 5 0 (by decide) (l := ['\x1c']) (r := [])
      (List.forall_mem_singleton.mpr rfl) (by simp)
  · rw [hparse] at hv
    cases hv
  · rw [← hlist]
    rfl

end Threshold

end JavaSurvey
