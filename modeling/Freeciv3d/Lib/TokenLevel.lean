/-
A token bucket that is refilled all the time: what it holds, and what it
lets through in an interval.

# The potential

What went through in `[s, t]` and what is left in the bucket are
together at most the capacity and what came in since `s`
(`Metered.spent`). A refill adds as much to both sides; a token that is
let through leaves the bucket and is counted instead.

# Looking twice

To write the level down at a reading and go on from there changes no
later level (`levelAt_levelAt`), and a bucket that had the time to fill
is a full one (`levelAt_of_full`).
-/
import Mathlib.Algebra.Order.Field.Basic
import Mathlib.Tactic.Linarith
import Mathlib.Tactic.Ring

namespace Lib

variable {α : Type} [Field α] [LinearOrder α]

/-- What a bucket with `level` tokens at `since` holds at `now`. -/
def levelAt (capacity rate level since now : α) : α :=
  min capacity (level + (now - since) * rate)

/-- A bucket and the `passed` tokens it let through in `[s, t]`. -/
structure Metered (capacity rate s t : α) (passed level since : α) :
    Prop where
  level_nonneg : 0 ≤ level
  level_le : level ≤ capacity
  passed_nonneg : 0 ≤ passed
  spent : 0 < passed → passed + level ≤ capacity + (since - s) * rate
  within : passed ≤ capacity + (t - s) * rate

variable {capacity rate level since now later s t passed : α}

theorem levelAt_le : levelAt capacity rate level since now ≤ capacity :=
  min_le_left _ _

theorem levelAt_le_add : levelAt capacity rate level since now
    ≤ level + (now - since) * rate := min_le_right _ _

@[simp] theorem levelAt_self (h : level ≤ capacity) :
    levelAt capacity rate level now now = level := by
  unfold levelAt
  rw [sub_self, zero_mul, add_zero]
  exact min_eq_right h

/-- A bucket that had the time to fill. -/
theorem levelAt_of_full (h : capacity ≤ level + (now - since) * rate) :
    levelAt capacity rate level since now = capacity := min_eq_left h

variable [IsStrictOrderedRing α]

theorem levelAt_nonneg (hrate : 0 ≤ rate) (hcap : 0 ≤ capacity)
    (hlevel : 0 ≤ level) (h : since ≤ now) :
    0 ≤ levelAt capacity rate level since now := by
  have hadd := mul_nonneg (sub_nonneg.mpr h) hrate
  exact le_min hcap (add_nonneg hlevel hadd)

/-- To write the level down changes no later one. -/
theorem levelAt_levelAt (hrate : 0 ≤ rate) (h : now ≤ later) :
    levelAt capacity rate (levelAt capacity rate level since now) now later
      = levelAt capacity rate level since later := by
  have hadd := mul_nonneg (sub_nonneg.mpr h) hrate
  have hsum : level + (now - since) * rate + (later - now) * rate
      = level + (later - since) * rate := by ring
  unfold levelAt
  rw [← min_add_add_right, hsum, ← min_assoc,
    min_eq_left (le_add_of_nonneg_right hadd)]

namespace Metered

/-- A full bucket that let nothing through. -/
theorem full (hrate : 0 ≤ rate) (hcap : 0 ≤ capacity) (hst : s ≤ t)
    (now : α) : Metered capacity rate s t 0 capacity now where
  level_nonneg := hcap
  level_le := le_refl _
  passed_nonneg := le_refl _
  spent h := absurd h (lt_irrefl _)
  within := by
    have hadd := mul_nonneg (sub_nonneg.mpr hst) hrate
    exact add_nonneg hcap hadd

theorem refill (h : Metered capacity rate s t passed level since)
    (hrate : 0 ≤ rate) (hnow : since ≤ now) :
    Metered capacity rate s t passed
      (levelAt capacity rate level since now) now where
  level_nonneg :=
    levelAt_nonneg hrate (h.level_nonneg.trans h.level_le) h.level_nonneg hnow
  level_le := levelAt_le
  passed_nonneg := h.passed_nonneg
  spent hpos := by
    have hspent := h.spent hpos
    have hadd : levelAt capacity rate level since now
        ≤ level + (now - since) * rate := levelAt_le_add
    have hsum : (now - s) * rate
        = (since - s) * rate + (now - since) * rate := by ring
    linarith
  within := h.within

/-- A token is let through. -/
theorem draw (h : Metered capacity rate s t passed level now)
    (hrate : 0 ≤ rate) (hlevel : 1 ≤ level) :
    Metered capacity rate s t
      (if s ≤ now ∧ now ≤ t then passed + 1 else passed) (level - 1) now := by
  have hlow := h.level_le
  by_cases hin : s ≤ now ∧ now ≤ t
  · rw [if_pos hin]
    -- the first token of the interval comes from a bucket full at most
    have hspent : passed + level ≤ capacity + (now - s) * rate := by
      rcases lt_or_eq_of_le h.passed_nonneg with hpos | hzero
      · exact h.spent hpos
      · have hadd := mul_nonneg (sub_nonneg.mpr hin.1) hrate
        linarith
    have hgrow := mul_le_mul_of_nonneg_right (sub_le_sub_right hin.2 s) hrate
    exact {
      level_nonneg := sub_nonneg.mpr hlevel
      level_le := by linarith
      passed_nonneg := by linarith [h.passed_nonneg]
      spent := fun _ => by linarith
      within := by linarith }
  · rw [if_neg hin]
    exact {
      level_nonneg := sub_nonneg.mpr hlevel
      level_le := by linarith
      passed_nonneg := h.passed_nonneg
      spent := fun hpos => by linarith [h.spent hpos]
      within := h.within }

end Metered

end Lib
