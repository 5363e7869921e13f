set_option autoImplicit false

namespace JavaSurvey

abbrev Ranges := List (Nat × Nat)

namespace Ranges

/-- Looks no further than the first range that ends at or after `n`. -/
def has : Ranges → Nat → Bool
  | [], _ => false
  | (low, high) :: rest, n => if n ≤ high then decide (low ≤ n) else has rest n

end Ranges

end JavaSurvey
