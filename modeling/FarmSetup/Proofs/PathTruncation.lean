import Mathlib.Data.List.DropRight
import FarmSetup.Text.Truncate
/-!
# Cutting a path to a width

A path shown in a narrow column keeps its tail. `Text.truncatePath t w` is `t` itself when `t`
fits in `w` points; otherwise it is the three dots, themselves cut when the width is below three,
followed by as many of the last points of `t` as the width leaves after them.

Main statement: `Text.truncatePath_law`. For every text and every width `w ≥ 0`, the result is
exactly `min t.length w` points long, and it is always a cut of the dots followed by a suffix
of `t`.
-/

namespace FarmSetup

namespace Text

@[simp] theorem length_ellipsis : ellipsis.length = 3 := rfl

theorem ellipsisPrefix_of_nonneg {n : Int} (h : 0 ≤ n) :
    ellipsisPrefix n = ellipsis.take n.toNat := by
  simp [ellipsisPrefix, h]

section width

variable {t : Text} {w : Int}

theorem truncatePath_of_fits (h : (t.length : Int) ≤ w) : truncatePath t w = t := by
  simp [truncatePath, h]

/-- A text that does not fit keeps its last `w - 3` points, after the dots cut to the width. -/
theorem truncatePath_of_long (h0 : 0 ≤ w) (h : w < t.length) :
    truncatePath t w = ellipsis.take (min w.toNat 3) ++ t.rtake (w.toNat - 3) := by
  have hlong : ¬ (t.length : Int) ≤ w := by omega
  by_cases hw : w ≤ 3
  · -- the dots alone, cut to the width: no point of the text is left
    have hnone : w.toNat - 3 = 0 := by omega
    have hmin : min w.toNat 3 = w.toNat := by omega
    rw [hmin, hnone, List.rtake_zero, List.append_nil]
    simp [truncatePath, hlong, hw, ellipsisPrefix_of_nonneg h0]
  · -- all three dots, then the last `w - 3` points
    have hmin : min w.toNat 3 = 3 := by omega
    have hkeep : (w - 3).toNat = w.toNat - 3 := by omega
    have hdots : ellipsis.take 3 = ellipsis := List.take_of_length_le (by simp)
    have hrtake : t.rtake (w.toNat - 3) = t.drop (t.length - (w.toNat - 3)) := rfl
    simp [truncatePath, hlong, hw, hrtake, hmin, hkeep, hdots]

example : truncatePath (Text.ofString "/media/subspace/farm-01") 12 = Text.ofString "...e/farm-01" := by
  decide

example : truncatePath (Text.ofString "/media/farm") 2 = Text.ofString ".." := by
  decide

theorem length_truncatePath (h0 : 0 ≤ w) : (truncatePath t w).length = min t.length w.toNat := by
  by_cases hfit : (t.length : Int) ≤ w
  · rw [truncatePath_of_fits hfit]
    omega
  · have hrtake : (t.rtake (w.toNat - 3)).length = w.toNat - 3 := by
      rw [List.rtake_eq_reverse_take_reverse, List.length_reverse, List.length_take,
        List.length_reverse]
      omega
    rw [truncatePath_of_long h0 (by omega), List.length_append, List.length_take, length_ellipsis,
      hrtake]
    omega

/-- Whatever the width, the shown text is a cut of the dots followed by a suffix of the path. -/
theorem truncatePath_eq_dots_append_suffix (h0 : 0 ≤ w) :
    ∃ k s, s.IsSuffix t ∧ truncatePath t w = ellipsis.take k ++ s := by
  by_cases hfit : (t.length : Int) ≤ w
  · exact ⟨0, t, List.suffix_refl t, by simp [truncatePath_of_fits hfit]⟩
  · exact ⟨_, _, List.drop_suffix _ t, truncatePath_of_long h0 (by omega)⟩

end width

/-- A path cut to a width `w ≥ 0` is `min t.length w` points long; it is the path itself when the
path fits, and otherwise the first `min w 3` of the three dots followed by the last `w - 3` points
of the path; in every case a cut of the dots followed by a suffix of the path. -/
theorem truncatePath_law (t : Text) (w : Int) (h0 : 0 ≤ w) :
    (truncatePath t w).length = min t.length w.toNat ∧
    ((t.length : Int) ≤ w → truncatePath t w = t) ∧
    (w < t.length →
      truncatePath t w = ellipsis.take (min w.toNat 3) ++ t.rtake (w.toNat - 3)) ∧
    ∃ k s, s.IsSuffix t ∧ truncatePath t w = ellipsis.take k ++ s :=
  ⟨length_truncatePath h0, truncatePath_of_fits, truncatePath_of_long h0,
    truncatePath_eq_dots_append_suffix h0⟩

/-- A width of twelve keeps the last nine points of a longer path. -/
theorem truncatePath_law_keeps_tail :
    (0 : Int) ≤ 12 ∧
    let t := Text.ofString "/media/subspace/farm-01"
    (truncatePath t 12).length = min t.length (12 : Int).toNat ∧
    ((t.length : Int) ≤ 12 → truncatePath t 12 = t) ∧
    ((12 : Int) < t.length →
      truncatePath t 12 = ellipsis.take (min (12 : Int).toNat 3) ++ t.rtake ((12 : Int).toNat - 3)) ∧
    ∃ k s, s.IsSuffix t ∧ truncatePath t 12 = ellipsis.take k ++ s :=
  ⟨by decide, truncatePath_law _ 12 (by decide)⟩

end Text

end FarmSetup
