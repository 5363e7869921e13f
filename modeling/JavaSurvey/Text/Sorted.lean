set_option autoImplicit false

namespace JavaSurvey

def sortNames (names : List String) : List String := names.mergeSort fun a b => !decide (b < a)

theorem mem_sortNames {a : String} {names : List String} : a ∈ sortNames names ↔ a ∈ names :=
  List.mem_mergeSort

def sortNamed {α : Type} (xs : List (String × α)) : List (String × α) :=
  xs.mergeSort fun a b => !decide (b.1 < a.1)

theorem mem_sortNamed {α : Type} {a : String × α} {xs : List (String × α)} :
    a ∈ sortNamed xs ↔ a ∈ xs := List.mem_mergeSort

def rankBy {α : Type} (key : α → Int) (xs : List α) : List α :=
  xs.mergeSort fun a b => decide (key b ≤ key a)

theorem length_rankBy {α : Type} (key : α → Int) (xs : List α) :
    (rankBy key xs).length = xs.length := List.length_mergeSort xs

end JavaSurvey
