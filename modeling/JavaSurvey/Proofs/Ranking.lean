import JavaSurvey.Statistics.Metrics
import Mathlib.Data.List.Sort

set_option autoImplicit false

namespace JavaSurvey

theorem topDecileSize_bounds (n : Nat) : 0 ≤ topDecileSize n ∧ topDecileSize n ≤ n := by
  unfold topDecileSize
  split <;> omega

section Rank

variable {α : Type} {key : α → Int}

theorem rank_trans (a b c : α) (hab : decide (key b ≤ key a)) (hbc : decide (key c ≤ key b)) :
    decide (key c ≤ key a) := by
  simp only [decide_eq_true_eq] at *
  omega

theorem rank_total (a b : α) : decide (key b ≤ key a) || decide (key a ≤ key b) := by
  simp only [Bool.or_eq_true, decide_eq_true_eq]
  omega

theorem rankBy_perm (xs : List α) : (rankBy key xs).Perm xs := List.mergeSort_perm _ _

theorem pairwise_rankBy (xs : List α) : (rankBy key xs).Pairwise fun a b => key b ≤ key a :=
  (List.pairwise_mergeSort rank_trans rank_total xs).imp of_decide_eq_true

theorem descending_rankBy (xs : List α) : ((rankBy key xs).map key).Pairwise fun m n => n ≤ m := by
  rw [List.pairwise_map]
  exact pairwise_rankBy xs

theorem map_rankBy {β : Type} (f : β → α) (xs : List β) :
    (rankBy (fun b => key (f b)) xs).map f = rankBy key (xs.map f) :=
  List.map_mergeSort fun _ _ _ _ => rfl

/-- Ranking one more entry puts it right behind those of larger keys. -/
theorem rankBy_cons (x : α) (xs : List α) : ∃ larger rest,
    rankBy key (x :: xs) = larger ++ x :: rest ∧ rankBy key xs = larger ++ rest ∧
      (∀ b ∈ larger, key x < key b) ∧ ∀ b ∈ rest, key b ≤ key x := by
  obtain ⟨larger, rest, hcons, htail, hlarger⟩ := List.mergeSort_cons rank_trans rank_total x xs
  have hsorted : (rankBy key (x :: xs)).Pairwise fun a b => key b ≤ key a := pairwise_rankBy _
  rw [rankBy, hcons, List.pairwise_append, List.pairwise_cons] at hsorted
  refine ⟨larger, rest, hcons, htail, fun b hb => ?_, hsorted.2.1.1⟩
  simpa only [Bool.not_eq_true', decide_eq_false_iff_not, Int.not_le] using hlarger b hb

/-- Whatever order `R` the list has is kept among entries of one key. -/
theorem stable_rankBy {R : α → α → Prop} {xs : List α} (h : xs.Pairwise R) :
    (rankBy key xs).Pairwise fun a b => key b < key a ∨ key b = key a ∧ R a b := by
  induction xs with
  | nil => simp [rankBy]
  | cons x xs ih =>
    obtain ⟨hx, hxs⟩ := List.pairwise_cons.mp h
    obtain ⟨larger, rest, hcons, htail, hlarger, hsmaller⟩ := rankBy_cons x xs
    have hrest : ∀ b ∈ rest, b ∈ xs := fun b hb =>
      (rankBy_perm xs).mem_iff.mp (htail ▸ List.mem_append_right _ hb)
    have htails := ih hxs
    rw [htail, List.pairwise_append] at htails
    rw [hcons, List.pairwise_append, List.pairwise_cons]
    refine ⟨htails.1, ⟨fun b hb => ?_, htails.2.1⟩, fun a ha b hb => ?_⟩
    · rcases Int.lt_or_eq_of_le (hsmaller b hb) with hlt | heq
      · exact .inl hlt
      · exact .inr ⟨heq, hx b (hrest b hb)⟩
    · rcases List.mem_cons.mp hb with rfl | hb
      · exact .inl (hlarger a ha)
      · exact htails.2.2 a ha b hb

/-- Unlike merge sort, insertion sort can be evaluated. -/
theorem rankBy_eq_insertionSort (xs : List α) :
    rankBy key xs = xs.insertionSort fun a b => key b ≤ key a := by
  induction xs with
  | nil => simp [rankBy]
  | cons x xs ih =>
    obtain ⟨larger, rest, hcons, htail, hlarger, hsmaller⟩ := rankBy_cons x xs
    have hpass : ∀ b ∈ larger, decide ¬ key b ≤ key x := fun b hb =>
      decide_eq_true (Int.not_le.mpr (hlarger b hb))
    rw [hcons, List.insertionSort_cons, ← ih, htail, List.orderedInsert_eq_take_drop,
      List.takeWhile_append_of_pos hpass, List.dropWhile_append_of_pos hpass]
    cases rest with
    | nil => simp
    | cons b rest =>
      have hb : key b ≤ key x := hsmaller b List.mem_cons_self
      simp [hb]

theorem length_topDecile (xs : List α) :
    ((topDecile key xs).length : Int) = topDecileSize xs.length := by
  have hsize := topDecileSize_bounds xs.length
  rw [topDecile, List.length_take, length_rankBy]
  omega

theorem topDecile_sublist (xs : List α) : (topDecile key xs).Sublist (rankBy key xs) :=
  List.take_sublist _ _

theorem mem_of_mem_topDecile {xs : List α} {a : α} (h : a ∈ topDecile key xs) : a ∈ xs :=
  (rankBy_perm xs).mem_iff.mp ((topDecile_sublist xs).subset h)

theorem nodup_map_topDecile {β : Type} {f : α → β} {xs : List α} (h : (xs.map f).Nodup) :
    ((topDecile key xs).map f).Nodup := by
  have hranked : ((rankBy key xs).map f).Nodup := ((rankBy_perm xs).map f).nodup_iff.mpr h
  exact hranked.sublist ((topDecile_sublist xs).map f)

theorem descending_topDecile (xs : List α) :
    ((topDecile key xs).map key).Pairwise fun m n => n ≤ m :=
  (descending_rankBy xs).sublist ((topDecile_sublist xs).map key)

theorem keys_rankBy_eq {xs ys : List α} (h : (xs.map key).Perm (ys.map key)) :
    (rankBy key xs).map key = (rankBy key ys).map key := by
  have hperm : ((rankBy key xs).map key).Perm ((rankBy key ys).map key) :=
    (((rankBy_perm xs).map key).trans h).trans ((rankBy_perm ys).map key).symm
  refine hperm.eq_of_pairwise (fun m n _ _ hmn hnm => ?_) (descending_rankBy xs)
    (descending_rankBy ys)
  omega

theorem keys_topDecile_eq {xs ys : List α} (h : (xs.map key).Perm (ys.map key)) :
    (topDecile key xs).map key = (topDecile key ys).map key := by
  have hlength : xs.length = ys.length := by simpa using h.length_eq
  rw [topDecile, topDecile, List.map_take, List.map_take, keys_rankBy_eq h, hlength]

end Rank

end JavaSurvey
