/-!
# Runs of characters

A property of characters is given by the runs of code points that have it, in
their order. A run is written as its first and its last code point.
-/

namespace GraphPattern.Text

/-- Whether a character belongs to one of some runs, which are in order. -/
def inRuns : List (Nat × Nat) → Char → Bool
  | [], _ => false
  | (first, last) :: rest, c =>
    if c.toNat < first then false else c.toNat ≤ last || inRuns rest c

end GraphPattern.Text
