/-
Every run of the worklist tab: the edits keep the list and the selection
together, whatever is selected in between.

# What is kept

`Kept` asks of each action that it leaves an orderly tab, and of an edit
that its list is drawn from sources as `Edited` says. Between edits only
the selections change.
-/
import Freeciv3d.Web.Proofs.WorklistEdits

namespace Freeciv3d.Web

open Lib

namespace WorklistTab

variable {s : WorklistTab}

theorem Edited.orderly {e : WorklistEdit} {s' : WorklistTab}
    {srcs designated : List Source}
    (h : s.Edited e s' srcs designated) : s'.Orderly where
  fits := by
    rw [h.worklist, List.length_map, List.length_take]
    exact Nat.min_le_left _ _
  whole := by
    intro item hitem
    rw [h.worklist] at hitem
    obtain ⟨src, hsrc, rfl⟩ := List.mem_map.mp hitem
    exact h.real src (List.mem_of_mem_take hsrc)
  increasing := h.increasing
  within := by
    intro t ht
    have hmem : (srcs.take maxLenWorklist)[t]?
        ∈ designated.map some := by
      rw [← h.designates]
      exact List.mem_map_of_mem ht
    obtain ⟨src, -, hsrc⟩ := List.mem_map.mp hmem
    rw [h.worklist, List.length_map]
    exact (List.getElem?_eq_some_iff.mp hsrc.symm).1

-- ==== the selections

theorem Orderly.select (h : s.Orderly) {selection : List Nat}
    (hinc : selection.Pairwise (· < ·))
    (hwithin : ∀ t ∈ selection, t < s.worklist.length) :
    Orderly { s with worklistSelection := selection } where
  fits := h.fits
  whole := h.whole
  increasing := hinc
  within := hwithin

theorem pairwise_insert {idx : Nat} {below above : List Nat}
    (hinc : (below ++ above).Pairwise (· < ·))
    (hb : ∀ t ∈ below, t < idx) (ha : ∀ t ∈ above, idx < t) :
    (below ++ [idx] ++ above).Pairwise (· < ·) := by
  obtain ⟨hbelow, habove, hcross⟩ := List.pairwise_append.mp hinc
  rw [List.append_assoc, List.pairwise_append]
  refine ⟨hbelow, List.pairwise_cons.mpr ⟨ha, habove⟩, ?_⟩
  intro t ht u hu
  rcases List.mem_cons.mp hu with rfl | hu
  · exact hb t ht
  · exact hcross t ht u hu

theorem orderly_select (h : s.Orderly) {idx : Nat}
    (hidx : idx < s.worklist.length) :
    (s.handleCurrentWorklistSelect idx).Orderly := by
  obtain ⟨below, above, hsel, hb, ha⟩ := exists_cut idx h.increasing
  have hinc := h.increasing
  rw [hsel] at hinc
  have hwithin : ∀ t ∈ below ++ [idx] ++ above,
      t < s.worklist.length := by
    intro t ht
    rw [List.append_assoc, List.mem_append, List.mem_append,
      List.mem_singleton] at ht
    rcases ht with ht | rfl | ht
    · exact h.within t (by simp [hsel, ht])
    · exact hidx
    · exact h.within t (by simp [hsel, ht])
  rw [handleCurrentWorklistSelect, hsel, splitAbove_append hb ha]
  cases hlast : below.getLast? with
  | none =>
    have hnil := List.getLast?_eq_none_iff.mp hlast
    simp only [hlast]
    apply h.select (pairwise_insert hinc _ ha) hwithin
    simp [hnil]
  | some last =>
    by_cases hlt : last < idx
    · simp only [hlast, if_pos hlt]
      apply h.select (pairwise_insert hinc _ ha) hwithin
      intro t ht
      have hle := le_of_getLast? (List.pairwise_append.mp hinc).1
        hlast t ht
      omega
    · simp only [hlast, if_neg hlt]
      exact h

theorem orderly_unselect (h : s.Orderly) (idx : Nat) :
    (s.handleCurrentWorklistUnselect idx).Orderly := by
  obtain ⟨below, above, hsel, hb, ha⟩ := exists_cut idx h.increasing
  rw [handleCurrentWorklistUnselect, hsel, splitAbove_append hb ha]
  by_cases hlast : below.getLast? = some idx
  · have hsub : (below.dropLast ++ above).Sublist
        s.worklistSelection := by
      rw [hsel]
      exact (List.dropLast_sublist below).append (.refl above)
    simp only [if_pos hlast]
    exact h.select (h.increasing.sublist hsub)
      fun t ht => h.within t (hsub.subset ht)
  · simp only [if_neg hlast]
    exact h

theorem orderly_click (h : s.Orderly) {idx : Nat}
    (hidx : idx < s.worklist.length) :
    (s.handleCurrentWorklistClick idx).Orderly := by
  rw [handleCurrentWorklistClick]
  split
  · exact h.select .nil (List.forall_mem_nil _)
  · apply h.select (List.pairwise_singleton _ idx)
    simpa using hidx

-- ==== the runs

/-- The edit pushes no selected position to the limit. -/
def NoPush (s : WorklistTab) : WorklistAct → Prop
  | .edit .insert => s.InsertFits
  | .edit .exchange => s.ExchangeFits
  | _ => True

instance : ∀ (s : WorklistTab) (a : WorklistAct), Decidable (s.NoPush a)
  | s, .edit .insert => inferInstanceAs (Decidable s.InsertFits)
  | s, .edit .exchange => inferInstanceAs (Decidable s.ExchangeFits)
  | _, .edit .add => instDecidableTrue
  | _, .edit .up => instDecidableTrue
  | _, .edit .down => instDecidableTrue
  | _, .edit .remove => instDecidableTrue
  | _, .edit (.directRemove _) => instDecidableTrue
  | _, .select _ => instDecidableTrue
  | _, .unselect _ => instDecidableTrue
  | _, .click _ => instDecidableTrue
  | _, .choose _ => instDecidableTrue
  | _, .unchoose _ => instDecidableTrue

/-- What is asked of an action, `des` being what an edit is to leave
selected. -/
def Kept (des : WorklistTab → WorklistEdit → List Source)
    (s : WorklistTab) (a : WorklistAct) : Prop :=
  ∀ s', s.act a = some s' → s'.Orderly ∧
    match a with
    | .edit e => ∃ srcs, s.Edited e s' srcs (des s e)
    | _ => s'.worklist = s.worklist ∧ s'.sent = s.sent

theorem edited_edit (h : s.Orderly) {e : WorklistEdit}
    (hfit : s.NoPush (.edit e)) :
    ∃ srcs, s.Edited e (s.edit e) srcs (s.designated e) := by
  cases e with
  | add => exact edited_add h
  | insert => exact edited_insert h hfit
  | up => exact edited_up h
  | down => exact edited_down h
  | exchange => exact edited_exchange h hfit
  | remove => exact edited_remove h
  | directRemove idx => exact edited_directRemove h idx

theorem kept_act (h : s.Orderly) {a : WorklistAct} (hfit : s.NoPush a) :
    Kept designated s a := by
  intro s' hs
  cases a with
  | edit e =>
    cases hs
    obtain ⟨srcs, hedited⟩ := edited_edit h hfit
    exact ⟨hedited.orderly, srcs, hedited⟩
  | select idx =>
    simp only [act] at hs
    split at hs
    · rename_i hidx
      cases hs
      refine ⟨orderly_select h hidx, ?_⟩
      simp only [handleCurrentWorklistSelect]
      split
      · split <;> exact ⟨rfl, rfl⟩
      · exact ⟨rfl, rfl⟩
    · cases hs
  | unselect idx =>
    cases hs
    refine ⟨orderly_unselect h idx, ?_⟩
    simp only [handleCurrentWorklistUnselect]
    split <;> exact ⟨rfl, rfl⟩
  | click idx =>
    simp only [act] at hs
    split at hs
    · rename_i hidx
      cases hs
      refine ⟨orderly_click h hidx, ?_⟩
      simp only [handleCurrentWorklistClick]
      split <;> exact ⟨rfl, rfl⟩
    · cases hs
  | choose u =>
    cases hs
    simp only [handleWorklistSelect]
    split
    · exact ⟨h, rfl, rfl⟩
    · exact ⟨⟨h.fits, h.whole, h.increasing, h.within⟩, rfl, rfl⟩
  | unchoose u =>
    cases hs
    exact ⟨⟨h.fits, h.whole, h.increasing, h.within⟩, rfl, rfl⟩

/-- In every run from an orderly tab whose insertions and exchanges push no
selected position to the limit, every edit sends a list drawn from the old
list, the production and the production selection without losing or
doubling what it does not mean to, and leaves selected what it means to. -/
theorem worklist_edits_keep (s : WorklistTab) (h : s.Orderly)
    (acts : List WorklistAct) (hfit : worklistRuns.Along NoPush s acts) :
    worklistRuns.Along (Kept designated) s acts :=
  Lts.along_of_along (J := Orderly)
    (fun _ _ _ ho hc hs => ⟨kept_act ho hc, (kept_act ho hc _ hs).1⟩)
    h hfit

def tabOf (n : Nat) (selection : List Nat) : WorklistTab :=
  { cityId := 7
    worklist := List.replicate n (some ⟨1, 2⟩)
    production := ⟨1, 9⟩
    productionSelection := [⟨6, 4⟩, ⟨6, 5⟩]
    worklistSelection := selection
    sent := [] }

theorem orderly_tabOf {n : Nat} {selection : List Nat}
    (hn : n ≤ maxLenWorklist) (hinc : selection.Pairwise (· < ·))
    (hwithin : ∀ t ∈ selection, t < n) :
    (tabOf n selection).Orderly where
  fits := by simpa [tabOf] using hn
  whole := by
    intro item hitem
    rw [List.eq_of_mem_replicate hitem]
    rfl
  increasing := hinc
  within := by simpa [tabOf] using hwithin

theorem worklist_edits_keep_mixed :
    worklistRuns.Along (Kept designated) (tabOf 3 [0, 2])
      [.edit .up, .edit .down, .edit .insert, .edit .exchange,
        .edit (.directRemove 1), .edit .add, .edit .remove] :=
  worklist_edits_keep (tabOf 3 [0, 2])
    (orderly_tabOf (by decide) (by decide) (by decide)) _ (by decide)

/-- The items that stay in the list and were selected before, where an
insertion selects nothing new. -/
def stillDesignated (s : WorklistTab) : WorklistEdit → List Source
  | .insert => s.worklistSelection.map .kept
  | e => s.designated e

/-- An insertion with nothing selected selects what it inserted; and
without the condition one pushes the last selected position out of a full
list. -/
theorem worklist_selection_leaves :
    (¬ ∀ s : WorklistTab, s.Orderly → ∀ acts,
      worklistRuns.Along (Kept stillDesignated) s acts)
    ∧ ¬ ∀ s : WorklistTab, s.Orderly → ∀ acts,
      worklistRuns.Along (Kept designated) s acts := by
  constructor
  · intro hall
    have hrun := hall (tabOf 1 [])
      (orderly_tabOf (by decide) (by decide) (by decide)) [.edit .insert]
    obtain ⟨-, srcs, hedited⟩ := hrun.1 _ rfl
    have hsel := congrArg List.length hedited.designates
    revert hsel
    rw [List.length_map, List.length_map]
    decide
  · intro hall
    have hrun := hall (tabOf 64 [63])
      (orderly_tabOf (by decide) (by decide) (by decide)) [.edit .insert]
    obtain ⟨ho, -⟩ := hrun.1 _ rfl
    have hlt := ho.within 65 (by decide)
    revert hlt
    decide

end WorklistTab

end Freeciv3d.Web
