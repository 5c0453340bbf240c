import FarmSetup.Text.Point
/-!
Tables of code points as disjoint ranges in increasing order, each entry naming its first and
last point. Looking a point up halves the part of the table still in question at each step, so
a table of `n` entries is searched in about `log₂ n` steps.
-/

namespace FarmSetup

/-- The entry among those of `table` from index `lo` below `hi` whose range holds `c`, where
`bounds` gives an entry's first and last point; `fuel` bounds the number of halvings. -/
def rangeEntryIn {α : Type} (table : Array α) (bounds : α → Nat × Nat) (c : Nat) :
    Nat → Nat → Nat → Option α
  | 0, _, _ => none
  | fuel + 1, lo, hi =>
    if lo < hi then
      let mid := (lo + hi) / 2
      match table[mid]? with
      | some e =>
        if c < (bounds e).1 then rangeEntryIn table bounds c fuel lo mid
        else if (bounds e).2 < c then rangeEntryIn table bounds c fuel (mid + 1) hi
        else some e
      | none => none
    else none

/-- The entry of `table` whose range holds `c`, if there is one. -/
def rangeEntry {α : Type} (table : Array α) (bounds : α → Nat × Nat) (c : Nat) : Option α :=
  rangeEntryIn table bounds c (table.size + 1) 0 table.size

/-- Whether a range of `table`, given by its first and last point, holds `c`. -/
def inRanges (table : Array (Nat × Nat)) (c : Nat) : Bool := (rangeEntry table id c).isSome

example : inRanges #[(1, 3), (7, 7), (10, 20)] 7 = true ∧ inRanges #[(1, 3), (7, 7), (10, 20)] 5 = false :=
  by decide

end FarmSetup
