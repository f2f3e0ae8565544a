/-!
# Text — Ranges of code points

A property of characters as the ranges of code points that have it.

* `inRanges`: whether a code point has it, found by halving.
-/

namespace LintRun.Text

/-- Whether a code point lies in one of the ranges from `low` on, below `low + count`; the ranges are in increasing
order, both ends included. -/
def inRangesFrom (ranges : Array (Nat × Nat)) (n : Nat) : Nat → Nat → Nat → Bool
  | 0, _, _ => false
  | fuel + 1, low, count =>
    if count = 0 then false
    else
      let middle := low + count / 2
      match ranges[middle]? with
      | none => false
      | some (first, last) =>
        if n < first then inRangesFrom ranges n fuel low (count / 2)
        else if last < n then inRangesFrom ranges n fuel (middle + 1) (count - count / 2 - 1)
        else true

/-- Whether a code point lies in one of the ranges. -/
def inRanges (ranges : Array (Nat × Nat)) (n : Nat) : Bool := inRangesFrom ranges n ranges.size 0 ranges.size

end LintRun.Text
