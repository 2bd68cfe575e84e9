/-
A pool of running tasks: a list in which a step addresses one task by
its position. The step ends that task (`eraseIdx`) or replaces it by
what is left of it (`set`); every other task stays.
-/
import Mathlib.Algebra.GroupWithZero.Nat
import Mathlib.Data.List.Basic

namespace Lib

variable {α : Type} {l : List α} {i : Nat} {t : α}

/-- Every task is the one at a position or at another one. -/
theorem eq_or_getElem?_ne (ht : l[i]? = some t) {u : α} (hu : u ∈ l) :
    u = t ∨ ∃ j, j ≠ i ∧ l[j]? = some u := by
  obtain ⟨j, hj⟩ := List.mem_iff_getElem?.mp hu
  by_cases hji : j = i
  · subst hji
    rw [ht] at hj
    cases hj
    exact .inl rfl
  · exact .inr ⟨j, hji, hj⟩

/-- Ending one task keeps the others. -/
theorem eq_or_mem_eraseIdx (ht : l[i]? = some t) {u : α} (hu : u ∈ l) :
    u = t ∨ u ∈ l.eraseIdx i := by
  rcases eq_or_getElem?_ne ht hu with heq | hother
  · exact .inl heq
  · exact .inr (List.mem_eraseIdx_iff_getElem?.mpr hother)

/-- Replacing one task keeps the others. -/
theorem eq_or_mem_set (ht : l[i]? = some t) (t' : α) {u : α}
    (hu : u ∈ l) : u = t ∨ u ∈ l.set i t' := by
  rcases eq_or_getElem?_ne ht hu with heq | ⟨j, hji, hj⟩
  · exact .inl heq
  · refine .inr (List.mem_iff_getElem?.mpr ⟨j, ?_⟩)
    rw [List.getElem?_set_ne fun h => hji h.symm]
    exact hj

/-- The replacement is there. -/
theorem mem_set_self (ht : l[i]? = some t) (t' : α) : t' ∈ l.set i t' := by
  obtain ⟨hi, -⟩ := List.getElem?_eq_some_iff.mp ht
  refine List.mem_iff_getElem?.mpr ⟨i, ?_⟩
  rw [List.getElem?_set_self hi]

/-- Where a task is, after one was replaced. -/
theorem eq_or_getElem?_of_set {j : Nat} {b u : α}
    (hj : (l.set i b)[j]? = some u) :
    (j = i ∧ u = b) ∨ (j ≠ i ∧ l[j]? = some u) := by
  rw [List.getElem?_set] at hj
  split at hj
  · rename_i hij
    split at hj
    · exact .inl ⟨hij.symm, (Option.some.inj hj).symm⟩
    · cases hj
  · rename_i hij
    exact .inr ⟨fun hji => hij hji.symm, hj⟩

/-- Where a task is, after one was added. -/
theorem eq_or_getElem?_of_append {j : Nat} {b u : α}
    (hj : (l ++ [b])[j]? = some u) :
    (j = l.length ∧ u = b) ∨ l[j]? = some u := by
  rw [List.getElem?_append] at hj
  split at hj
  · exact .inr hj
  · rename_i hlen
    obtain ⟨hlt, hu⟩ := List.getElem?_eq_some_iff.mp hj
    have hone : j - l.length = 0 := by simpa using hlt
    refine .inl ⟨by omega, ?_⟩
    simpa [hone] using hu.symm

/-- One task has its share in a sum. -/
theorem le_sum_map (f : α → Nat) (hi : l[i]? = some t) :
    f t ≤ (l.map f).sum := by
  induction l generalizing i with
  | nil => cases hi
  | cons c rest ih =>
    simp only [List.map_cons, List.sum_cons]
    cases i with
    | zero =>
      cases hi
      omega
    | succ i =>
      have hrest := ih hi
      omega

/-- One task is replaced: so is its share of a sum. -/
theorem sum_map_set (f : α → Nat) (hi : l[i]? = some t) (b : α) :
    ((l.set i b).map f).sum + f t = (l.map f).sum + f b := by
  induction l generalizing i with
  | nil => cases hi
  | cons c rest ih =>
    cases i with
    | zero =>
      cases hi
      simp only [List.set_cons_zero, List.map_cons, List.sum_cons]
      omega
    | succ i =>
      have hrest := ih hi
      simp only [List.set_cons_succ, List.map_cons, List.sum_cons]
      omega

end Lib
