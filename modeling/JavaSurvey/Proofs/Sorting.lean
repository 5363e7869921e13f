import JavaSurvey.Text.Sorted
import Mathlib.Data.List.Nodup

set_option autoImplicit false

namespace JavaSurvey

section MergeSort

variable {α : Type} {le : α → α → Bool}

/-- A list that is cut where `q` begins to hold can be cut there in one way only. -/
theorem append_inj_of_filter {q : α → Bool} {xs xs' ys ys' : List α} (h : xs ++ xs' = ys ++ ys')
    (hxs : ∀ a ∈ xs, q a = false) (hxs' : ∀ a ∈ xs', q a = true)
    (hys : ∀ a ∈ ys, q a = false) (hys' : ∀ a ∈ ys', q a = true) : xs = ys ∧ xs' = ys' := by
  have hcut : ∀ {as bs : List α}, (∀ a ∈ as, q a = false) → (∀ a ∈ bs, q a = true) →
      (as ++ bs).filter (fun a => !q a) = as ∧ (as ++ bs).filter q = bs := by
    intro as bs ha hb
    constructor
    · rw [List.filter_append, List.filter_eq_self.mpr fun a h => by simp [ha a h],
        List.filter_eq_nil_iff.mpr fun a h => by simp [hb a h], List.append_nil]
    · rw [List.filter_append, List.filter_eq_nil_iff.mpr fun a h => by simp [ha a h],
        List.filter_eq_self.mpr hb, List.nil_append]
  obtain ⟨hx, hx'⟩ := hcut hxs hxs'
  obtain ⟨hy, hy'⟩ := hcut hys hys'
  exact ⟨by rw [← hx, h, hy], by rw [← hx', h, hy']⟩

theorem filter_mergeSort (trans : ∀ a b c, le a b → le b c → le a c)
    (total : ∀ a b, le a b || le b a) (p : α → Bool) (l : List α) :
    (l.mergeSort le).filter p = (l.filter p).mergeSort le := by
  induction l with
  | nil => simp
  | cons a l ih =>
    obtain ⟨l₁, l₂, hs, hl, hlow⟩ := List.mergeSort_cons trans total a l
    by_cases hp : p a
    · -- both sides put `a` right before the first element that it does not exceed
      obtain ⟨k₁, k₂, ks, kl, klow⟩ := List.mergeSort_cons trans total a (l.filter p)
      have hsorted := List.pairwise_mergeSort trans total (a :: l)
      have ksorted := List.pairwise_mergeSort trans total (a :: l.filter p)
      rw [hs, List.pairwise_append, List.pairwise_cons] at hsorted
      rw [ks, List.pairwise_append, List.pairwise_cons] at ksorted
      have he : l₁.filter p ++ l₂.filter p = k₁ ++ k₂ := by
        rw [← List.filter_append, ← hl, ih, kl]
      obtain ⟨h₁, h₂⟩ := append_inj_of_filter (q := le a) he
        (fun b hb => by simpa using hlow b (List.mem_of_mem_filter hb))
        (fun b hb => hsorted.2.1.1 b (List.mem_of_mem_filter hb))
        (fun b hb => by simpa using klow b hb) ksorted.2.1.1
      rw [hs, List.filter_cons_of_pos hp, ks, List.filter_append, List.filter_cons_of_pos hp, h₁, h₂]
    · rw [hs, List.filter_cons_of_neg hp, List.filter_append, List.filter_cons_of_neg hp,
        ← List.filter_append, ← hl, ih]

end MergeSort

section Named

variable {α β : Type}

theorem named_le_iff {a b : String × α} : (!decide (b.1 < a.1)) = true ↔ a.1 ≤ b.1 := by
  rw [Bool.not_eq_true', decide_eq_false_iff_not]
  exact Iff.rfl

theorem named_le_trans (a b c : String × α) (hab : !decide (b.1 < a.1)) (hbc : !decide (c.1 < b.1)) :
    !decide (c.1 < a.1) :=
  named_le_iff.mpr (String.le_trans (named_le_iff.mp hab) (named_le_iff.mp hbc))

theorem named_le_total (a b : String × α) : !decide (b.1 < a.1) || !decide (a.1 < b.1) := by
  rw [Bool.or_eq_true, named_le_iff, named_le_iff]
  exact String.le_total a.1 b.1

theorem sortNamed_perm (xs : List (String × α)) : (sortNamed xs).Perm xs := List.mergeSort_perm _ _

theorem pairwise_sortNamed (xs : List (String × α)) :
    (sortNamed xs).Pairwise fun a b => a.1 ≤ b.1 :=
  (List.pairwise_mergeSort named_le_trans named_le_total xs).imp named_le_iff.mp

theorem filter_sortNamed (p : String × α → Bool) (xs : List (String × α)) :
    (sortNamed xs).filter p = sortNamed (xs.filter p) :=
  filter_mergeSort named_le_trans named_le_total p xs

theorem map_sortNamed {f : String × α → String × β} (hf : ∀ a, (f a).1 = a.1)
    (xs : List (String × α)) : (sortNamed xs).map f = sortNamed (xs.map f) :=
  List.map_mergeSort fun a _ b _ => by rw [hf, hf]

theorem nodup_of_names {xs : List (String × α)} (h : (xs.map Prod.fst).Nodup) : xs.Nodup :=
  h.of_map Prod.fst

theorem eq_of_name_eq {xs : List (String × α)} (h : (xs.map Prod.fst).Nodup) {a b : String × α}
    (ha : a ∈ xs) (hb : b ∈ xs) (he : a.1 = b.1) : a = b := List.inj_on_of_nodup_map h ha hb he

theorem pairwise_lt_sortNamed {xs : List (String × α)} (h : (xs.map Prod.fst).Nodup) :
    (sortNamed xs).Pairwise fun a b => a.1 < b.1 := by
  have hn : ((sortNamed xs).map Prod.fst).Nodup := ((sortNamed_perm xs).map Prod.fst).nodup_iff.mpr h
  rw [List.nodup_iff_pairwise_ne, List.pairwise_map] at hn
  refine (List.pairwise_and_iff.mpr ⟨pairwise_sortNamed xs, hn⟩).imp fun {a b} ⟨hle, hne⟩ => ?_
  rw [← String.not_le]
  exact fun hge => hne (String.le_antisymm hle hge)

theorem sortNamed_congr {xs ys : List (String × α)} (hx : (xs.map Prod.fst).Nodup)
    (hy : (ys.map Prod.fst).Nodup) (h : ∀ a, a ∈ xs ↔ a ∈ ys) : sortNamed xs = sortNamed ys := by
  have hperm : xs.Perm ys :=
    (List.perm_ext_iff_of_nodup (nodup_of_names hx) (nodup_of_names hy)).mpr h
  refine List.Perm.eq_of_pairwise (fun a b ha hb hab hba => ?_) (pairwise_sortNamed xs)
    (pairwise_sortNamed ys) (((sortNamed_perm xs).trans hperm).trans (sortNamed_perm ys).symm)
  exact eq_of_name_eq hx (mem_sortNamed.mp ha) ((h b).mpr (mem_sortNamed.mp hb))
    (String.le_antisymm hab hba)

theorem sortNames_eq (names : List String) :
    sortNames names = (sortNamed (names.map fun a => (a, ()))).map Prod.fst := by
  have hmap : (sortNamed (names.map fun a => (a, ()))).map Prod.fst =
      sortNames ((names.map fun a => (a, ())).map Prod.fst) := List.map_mergeSort fun _ _ _ _ => rfl
  rw [hmap, List.map_map]
  exact congrArg sortNames (List.map_id names).symm

theorem length_sortNames (names : List String) : (sortNames names).length = names.length :=
  List.length_mergeSort names

theorem sortNames_eq_nil_iff {names : List String} : sortNames names = [] ↔ names = [] := by
  rw [← List.length_eq_zero_iff, length_sortNames, List.length_eq_zero_iff]

theorem sortNames_congr {names names' : List String} (h : names.Perm names') :
    sortNames names = sortNames names' := by
  have hsorted (ns : List String) : (sortNames ns).Pairwise (· ≤ ·) := by
    rw [sortNames_eq, List.pairwise_map]
    exact pairwise_sortNamed _
  have hperm (ns : List String) : (sortNames ns).Perm ns := List.mergeSort_perm _ _
  exact List.Perm.eq_of_pairwise (fun _ _ _ _ => String.le_antisymm) (hsorted names)
    (hsorted names') (((hperm names).trans h).trans (hperm names').symm)

theorem pairwise_lt_sortNames {names : List String} (h : names.Nodup) :
    (sortNames names).Pairwise (· < ·) := by
  rw [sortNames_eq, List.pairwise_map]
  refine pairwise_lt_sortNamed ?_
  rw [List.map_map]
  exact (List.map_id names).symm ▸ h

end Named

end JavaSurvey
