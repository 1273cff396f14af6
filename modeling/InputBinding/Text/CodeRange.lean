/-!
Sorted ranges of Unicode code points: the form in which the character properties of the
neighbouring modules are kept.
-/

namespace InputBinding.Text

/-- Looks a code point up in ranges that are sorted and lie apart from each other. -/
def inRanges : List (Nat × Nat) → Nat → Bool
  | [], _ => false
  | (first, last) :: later, code =>
      if code < first then false else decide (code ≤ last) || inRanges later code

end InputBinding.Text
