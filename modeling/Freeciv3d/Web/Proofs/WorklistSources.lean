/-
What the edits of the worklist tab do to the list and to the selection.

# The items of a list

Two items of a list may be equal, so "the same item" is said of where an
item comes from: a position of the list before, a place in the production
selection, or the city's production. An edit has one list of such sources,
each in it once: the new list holds their items, cut at
`MAX_LEN_WORKLIST`, and the selected positions hold the sources the edit
means to leave selected.
-/
import Freeciv3d.Lib.Positions
import Freeciv3d.Web.Worklist
import Mathlib.Data.List.Range
namespace Freeciv3d.Web

open Lib

inductive Source
  | kept (i : Nat)
  | chosen (j : Nat)
  | current

namespace WorklistTab

variable (s : WorklistTab)

def item : Source → Option Universal
  | .kept i => jsGet s.worklist i
  | .chosen j => s.productionSelection[j]?
  | .current => some s.production

-- ==== what the edits are for

/-- `city_worklist_task_up` trades the first item with the production. -/
def Trades (e : WorklistEdit) : Prop :=
  e = .up ∧ s.worklistSelection.head? = some 0
    ∧ jsGet s.worklist 0 ≠ some s.production

/-- `city_exchange_worklist_task` replaces the selected items: by as many,
or a single one by all that are chosen. -/
def Exchanges : Prop :=
  s.productionSelection ≠ []
    ∧ (s.productionSelection.length = s.worklistSelection.length
      ∨ s.worklistSelection.length = 1)

instance : Decidable s.Exchanges :=
  inferInstanceAs (Decidable (_ ∧ _))

/-- The edit takes the item at `i` out of the list. -/
def Loses (i : Nat) : WorklistEdit → Prop
  | .remove => i ∈ s.worklistSelection
  | .directRemove idx => i = idx
  | .exchange => s.Exchanges ∧ i ∈ s.worklistSelection
  | .up => s.Trades .up ∧ i = 0
  | .add | .insert | .down => False

/-- The edit puts the production selection into the list. -/
def UsesChosen : WorklistEdit → Prop
  | .add | .insert => True
  | .exchange => s.Exchanges
  | .up | .down | .remove | .directRemove _ => False

/-- The items that are to be selected after the edit, in their order. -/
def designated : WorklistEdit → List Source
  | .add | .down => s.worklistSelection.map .kept
  | .insert =>
    if s.worklistSelection = [] then
      (List.range (min s.productionSelection.length
        maxLenWorklist)).map .chosen
    else s.worklistSelection.map .kept
  | .up => (s.worklistSelection.filter (· ≠ 0)).map .kept
  | .exchange =>
    if s.Exchanges then
      (List.range s.productionSelection.length).map .chosen
    else s.worklistSelection.map .kept
  | .remove => []
  | .directRemove idx =>
    (s.worklistSelection.filter (· ≠ idx)).map .kept

/-- The request to the city that goes before the new list. -/
def ChangeSent (packets : List WorklistPacket) (e : WorklistEdit) : Prop :=
  (s.Trades e ∧ ∃ u, jsGet s.worklist 0 = some u
      ∧ packets = [.change s.cityId u.kind u.value])
    ∨ (¬ s.Trades e ∧ packets = [])

/-- Nothing is lost or doubled when the new list is drawn from `srcs`, but
for what the edit means to. -/
structure Drawn (e : WorklistEdit) (srcs : List Source) : Prop where
  real : ∀ src ∈ srcs, (s.item src).isSome
  once : srcs.Nodup
  kept : ∀ i < s.worklist.length, .kept i ∈ srcs ↔ ¬ s.Loses i e
  chosen : ∀ j < s.productionSelection.length,
    .chosen j ∈ srcs ↔ s.UsesChosen e
  current : .current ∈ srcs ↔ s.Trades e

/-- What an edit does, `srcs` being where the new list comes from and
`designated` what is to be selected. -/
structure Edited (e : WorklistEdit) (s' : WorklistTab)
    (srcs designated : List Source) : Prop extends s.Drawn e srcs where
  worklist : s'.worklist = (srcs.take maxLenWorklist).map s.item
  sent : (s'.sent = s.sent ∧ s'.worklist = s.worklist)
    ∨ ∃ packets, s.ChangeSent packets e
      ∧ s'.sent = s.sent ++ packets ++ [.worklist s.cityId s'.worklist]
  increasing : s'.worklistSelection.Pairwise (· < ·)
  designates : s'.worklistSelection.map ((srcs.take maxLenWorklist)[·]?)
    = designated.map some

-- ==== lists and their sources

def keptAll : List Source := (List.range s.worklist.length).map .kept

def chosenAll : List Source :=
  (List.range s.productionSelection.length).map .chosen

theorem keptAll_item : s.keptAll.map s.item = s.worklist := by
  apply List.ext_getElem?
  intro i
  by_cases hi : i < s.worklist.length
  · simp [keptAll, item, jsGet, hi]
  · simp [keptAll, hi]

theorem chosenAll_item :
    s.chosenAll.map s.item = s.productionSelection.map some := by
  apply List.ext_getElem?
  intro j
  by_cases hj : j < s.productionSelection.length
  · simp [chosenAll, item, hj]
  · simp [chosenAll, hj]

theorem keptAll_getElem? {i : Nat} (hi : i < s.worklist.length) :
    s.keptAll[i]? = some (.kept i) := by
  simp [keptAll, hi]

@[simp]
theorem length_keptAll : s.keptAll.length = s.worklist.length := by
  simp [keptAll]

theorem nodup_keptAll : s.keptAll.Nodup :=
  List.nodup_range.map fun _ _ h => Source.kept.inj h

theorem nodup_chosenAll : s.chosenAll.Nodup :=
  List.nodup_range.map fun _ _ h => Source.chosen.inj h

@[simp]
theorem kept_mem_keptAll {i : Nat} :
    .kept i ∈ s.keptAll ↔ i < s.worklist.length := by
  simp [keptAll]

@[simp]
theorem chosen_mem_chosenAll {j : Nat} :
    .chosen j ∈ s.chosenAll ↔ j < s.productionSelection.length := by
  simp [chosenAll]

@[simp]
theorem not_mem_keptAll_chosen {j : Nat} : .chosen j ∉ s.keptAll := by
  simp [keptAll]

@[simp]
theorem not_mem_chosenAll_kept {i : Nat} : .kept i ∉ s.chosenAll := by
  simp [chosenAll]

@[simp]
theorem not_mem_keptAll_current : .current ∉ s.keptAll := by
  simp [keptAll]

@[simp]
theorem not_mem_chosenAll_current : .current ∉ s.chosenAll := by
  simp [chosenAll]

variable {s}

theorem Orderly.jsGet_isSome (h : s.Orderly) {i : Nat}
    (hi : i < s.worklist.length) : (jsGet s.worklist i).isSome := by
  simp only [jsGet, List.getElem?_eq_getElem hi, Option.join_some]
  exact h.whole _ (List.getElem_mem hi)

theorem Orderly.real_keptAll (h : s.Orderly) :
    ∀ src ∈ s.keptAll, (s.item src).isSome := by
  intro src hsrc
  obtain ⟨i, hi, rfl⟩ := List.mem_map.mp hsrc
  exact h.jsGet_isSome (List.mem_range.mp hi)

theorem real_chosenAll : ∀ src ∈ s.chosenAll, (s.item src).isSome := by
  intro src hsrc
  obtain ⟨j, hj, rfl⟩ := List.mem_map.mp hsrc
  simp [item, List.mem_range.mp hj]

theorem map_getElem?_eq (sel : List Nat) (srcs : List Source)
    (move : Nat → Nat) (src : Nat → Source)
    (h : ∀ t ∈ sel, move t < maxLenWorklist
      ∧ srcs[move t]? = some (src t)) :
    (sel.map move).map ((srcs.take maxLenWorklist)[·]?)
      = (sel.map src).map some := by
  rw [List.map_map, List.map_map]
  apply List.map_congr_left
  intro t ht
  obtain ⟨hlt, hget⟩ := h t ht
  simp only [Function.comp_apply]
  rw [List.getElem?_take_of_lt hlt, hget]
theorem not_trades {e : WorklistEdit} (he : e ≠ .up) : ¬ s.Trades e :=
  fun h => he h.1

theorem Drawn.perm {e : WorklistEdit} {srcs srcs' : List Source}
    (h : s.Drawn e srcs) (hperm : srcs'.Perm srcs) : s.Drawn e srcs' where
  real src hsrc := h.real src (hperm.mem_iff.mp hsrc)
  once := hperm.nodup_iff.mpr h.once
  kept i hi := hperm.mem_iff.trans (h.kept i hi)
  chosen j hj := hperm.mem_iff.trans (h.chosen j hj)
  current := hperm.mem_iff.trans h.current

theorem kept_mem_eraseAll {gone : List Nat}
    (hinc : gone.Pairwise (· < ·)) {i : Nat}
    (hi : i < s.worklist.length) :
    .kept i ∈ eraseAll s.keptAll gone ↔ i ∉ gone := by
  rw [mem_eraseAll s.nodup_keptAll hinc]
  constructor
  · rintro ⟨-, hne⟩ hmem
    exact hne i hmem (s.keptAll_getElem? hi)
  · intro hmem
    refine ⟨s.kept_mem_keptAll.mpr hi, fun t ht hget => ?_⟩
    have hlt : t < s.worklist.length := by
      by_contra hge
      rw [List.getElem?_eq_none (by simpa using hge)] at hget
      cases hget
    rw [s.keptAll_getElem? hlt, Option.some_inj] at hget
    exact hmem (Source.kept.inj hget ▸ ht)

theorem drawn_gone (h : s.Orderly) {e : WorklistEdit} {gone : List Nat}
    (hinc : gone.Pairwise (· < ·))
    (hloses : ∀ i < s.worklist.length, s.Loses i e ↔ i ∈ gone)
    (huses : 0 < s.productionSelection.length → ¬ s.UsesChosen e)
    (htrades : ¬ s.Trades e) : s.Drawn e (eraseAll s.keptAll gone) where
  real src hsrc :=
    h.real_keptAll src ((eraseAll_sublist _ gone).subset hsrc)
  once := s.nodup_keptAll.sublist (eraseAll_sublist _ gone)
  kept i hi := by rw [kept_mem_eraseAll hinc hi, hloses i hi]
  chosen j hj := by
    have hnot : Source.chosen j ∉ eraseAll s.keptAll gone := fun hmem =>
      s.not_mem_keptAll_chosen ((eraseAll_sublist _ gone).subset hmem)
    simp [hnot, huses (Nat.zero_lt_of_lt hj)]
  current := by
    have hnot : Source.current ∉ eraseAll s.keptAll gone := fun hmem =>
      s.not_mem_keptAll_current ((eraseAll_sublist _ gone).subset hmem)
    simp [hnot, htrades]

/-- An edit that takes the items at `gone` out and puts the production
selection in. -/
theorem drawn_gone_chosen (h : s.Orderly) {e : WorklistEdit}
    {gone : List Nat} (hinc : gone.Pairwise (· < ·))
    (hloses : ∀ i < s.worklist.length, s.Loses i e ↔ i ∈ gone)
    (huses : s.UsesChosen e) (htrades : ¬ s.Trades e) :
    s.Drawn e (eraseAll s.keptAll gone ++ s.chosenAll) where
  real src hsrc := by
    rcases List.mem_append.mp hsrc with hk | hc
    · exact h.real_keptAll src ((eraseAll_sublist _ gone).subset hk)
    · exact real_chosenAll src hc
  once := by
    apply (s.nodup_keptAll.sublist (eraseAll_sublist _ gone)).append
      s.nodup_chosenAll
    intro src hk hc
    obtain ⟨j, -, rfl⟩ := List.mem_map.mp hc
    exact s.not_mem_keptAll_chosen ((eraseAll_sublist _ gone).subset hk)
  kept i hi := by
    simp [kept_mem_eraseAll hinc hi, hloses i hi]
  chosen j hj := by simp [hj, huses]
  current := by
    have hnot : Source.current ∉ eraseAll s.keptAll gone := fun hmem =>
      s.not_mem_keptAll_current ((eraseAll_sublist _ gone).subset hmem)
    simp [hnot, htrades]

theorem drawn_keptAll (h : s.Orderly) {e : WorklistEdit}
    (hloses : ∀ i, ¬ s.Loses i e)
    (huses : 0 < s.productionSelection.length → ¬ s.UsesChosen e)
    (htrades : ¬ s.Trades e) : s.Drawn e s.keptAll :=
  drawn_gone h List.Pairwise.nil (fun i _ => by simp [hloses i]) huses
    htrades

theorem drawn_both (h : s.Orderly) {e : WorklistEdit}
    (hloses : ∀ i, ¬ s.Loses i e) (huses : s.UsesChosen e)
    (htrades : ¬ s.Trades e) :
    s.Drawn e (s.keptAll ++ s.chosenAll) :=
  drawn_gone_chosen h List.Pairwise.nil (fun i _ => by simp [hloses i])
    huses htrades

theorem edited_same (h : s.Orderly) {e : WorklistEdit}
    (hdrawn : s.Drawn e s.keptAll) :
    s.Edited e s s.keptAll (s.worklistSelection.map .kept) := by
  have hcut : s.keptAll.take maxLenWorklist = s.keptAll :=
    List.take_of_length_le (by simpa using h.fits)
  have hdes := map_getElem?_eq s.worklistSelection s.keptAll id .kept ?_
  · rw [List.map_id] at hdes
    exact
      { hdrawn with
        worklist := by rw [hcut, keptAll_item]
        sent := .inl ⟨rfl, rfl⟩
        increasing := h.increasing
        designates := hdes }
  · intro t ht
    have hlt := h.within t ht
    exact ⟨Nat.lt_of_lt_of_le hlt h.fits, s.keptAll_getElem? hlt⟩

theorem edited_sent {e : WorklistEdit} {s' : WorklistTab}
    {srcs designated : List Source} (hdrawn : s.Drawn e srcs)
    (htrades : ¬ s.Trades e)
    (hwl : s'.worklist = (srcs.take maxLenWorklist).map s.item)
    (hsent : s'.sent = s.sent ++ [.worklist s.cityId s'.worklist])
    (hinc : s'.worklistSelection.Pairwise (· < ·))
    (hdes : s'.worklistSelection.map ((srcs.take maxLenWorklist)[·]?)
      = designated.map some) : s.Edited e s' srcs designated :=
  { hdrawn with
    worklist := hwl
    sent := .inr ⟨[], .inr ⟨htrades, rfl⟩, by rw [hsent, List.append_nil]⟩
    increasing := hinc
    designates := hdes }

end WorklistTab

end Freeciv3d.Web
