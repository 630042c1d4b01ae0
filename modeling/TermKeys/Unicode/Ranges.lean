/-!
Sets of code points as increasing lists of inclusive ranges. A search reads the
list from the left and stops at the first range that begins above the code point,
so the early ranges answer for ASCII.
-/

set_option autoImplicit false

namespace TermKeys.Unicode

/-- Inclusive ranges of code points, increasing and disjoint. -/
abbrev Ranges := List (Nat × Nat)

/-- Whether a code point lies in one of the ranges. -/
def Ranges.holds : Ranges → Nat → Bool
  | [], _ => false
  | (first, last) :: rest, n =>
    if n < first then false else if n ≤ last then true else Ranges.holds rest n

/-- A run of code points that a case mapping moves by the same distance: every
`step`-th code point from `first` to `last`, the first of them going to `image`. -/
structure CaseRun where
  first : Nat
  last : Nat
  step : Nat
  image : Nat

/-- The image of a code point under increasing, disjoint runs; a code point in no
run is its own image. -/
def CaseRun.apply : List CaseRun → Nat → Nat
  | [], n => n
  | run :: rest, n =>
    if n < run.first then n
    else if n ≤ run.last then
      if (n - run.first) % run.step = 0 then run.image + (n - run.first) else n
    else CaseRun.apply rest n

end TermKeys.Unicode
