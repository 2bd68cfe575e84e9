/-
A priority queue: a binary heap of data with integer priorities, the
highest first.

# The heap

The cells are numbered from 1; the children of cell `i` are `2 * i` and
`2 * i + 1`, and none has a higher priority than its parent. A loop that
moves a cell up or down carries a hole: what belongs there is put in last.
The invariants below are of the heap with the hole filled.

# What is proved

The items of the queue, up to order, after each operation; that the order
is kept is a field of the queue.
-/
import Mathlib.Logic.Equiv.Basic
import Mathlib.Data.List.Perm.Basic
import Mathlib.Data.List.Nodup

namespace Lib

open Function

variable {α : Type}

-- ==== cells

/-- Cells 1 to `n` hold the items, in the order of a heap. -/
def HeapOrdered (cells : Nat → α × Int) (n : Nat) : Prop :=
  ∀ i, 1 < i → i ≤ n → (cells i).2 ≤ (cells (i / 2)).2

/-- What is in cells 1 to `n`. -/
def heapItems (cells : Nat → α × Int) (n : Nat) : List (α × Int) :=
  (List.range' 1 n).map cells

theorem mem_cellNumbers {n i : Nat} :
    i ∈ List.range' 1 n ↔ 1 ≤ i ∧ i ≤ n := by
  rw [List.mem_range'_1]
  omega

theorem mem_heapItems {cells : Nat → α × Int} {n : Nat} {x : α × Int} :
    x ∈ heapItems cells n ↔ ∃ i, (1 ≤ i ∧ i ≤ n) ∧ cells i = x := by
  unfold heapItems
  simp only [List.mem_map, mem_cellNumbers]

theorem heapItems_succ (cells : Nat → α × Int) (n : Nat) :
    heapItems cells (n + 1) = heapItems cells n ++ [cells (n + 1)] := by
  unfold heapItems
  rw [List.range'_concat, List.map_append, Nat.one_mul, Nat.add_comm 1 n]
  rfl

theorem heapItems_congr {cells cells' : Nat → α × Int} {n : Nat}
    (h : ∀ i, 1 ≤ i → i ≤ n → cells i = cells' i) :
    heapItems cells n = heapItems cells' n :=
  List.map_congr_left fun i hi =>
    h i (mem_cellNumbers.mp hi).1 (mem_cellNumbers.mp hi).2

/-- Exchanging two cells moves no item in or out. -/
theorem heapItems_swap (cells : Nat → α × Int) {n i j : Nat}
    (hi : 1 ≤ i ∧ i ≤ n) (hj : 1 ≤ j ∧ j ≤ n) :
    (heapItems (cells ∘ Equiv.swap i j) n).Perm (heapItems cells n) := by
  have hin : ∀ x, 1 ≤ x ∧ x ≤ n →
      1 ≤ Equiv.swap i j x ∧ Equiv.swap i j x ≤ n := by
    intro x hx
    by_cases hxi : x = i
    · rw [hxi, Equiv.swap_apply_left]
      exact hj
    · by_cases hxj : x = j
      · rw [hxj, Equiv.swap_apply_right]
        exact hi
      · rw [Equiv.swap_apply_of_ne_of_ne hxi hxj]
        exact hx
  have hnumbers : ((List.range' 1 n).map (Equiv.swap i j)).Perm
      (List.range' 1 n) := by
    refine (List.perm_ext_iff_of_nodup
      (List.Nodup.map (Equiv.swap i j).injective List.nodup_range')
      List.nodup_range').mpr fun x => ?_
    rw [mem_cellNumbers]
    constructor
    · intro hx
      obtain ⟨k, hk, rfl⟩ := List.mem_map.mp hx
      exact hin k (mem_cellNumbers.mp hk)
    · intro hx
      exact List.mem_map.mpr ⟨Equiv.swap i j x,
        mem_cellNumbers.mpr (hin x hx), Equiv.swap_apply_self i j x⟩
  have hcells := hnumbers.map cells
  rw [List.map_map] at hcells
  exact hcells

theorem heapItems_moveHole (cells : Nat → α × Int) (x : α × Int)
    {n i j : Nat} (hi : 1 ≤ i ∧ i ≤ n) (hj : 1 ≤ j ∧ j ≤ n) (hne : j ≠ i) :
    (heapItems (update (update cells i (cells j)) j x) n).Perm
      (heapItems (update cells i x) n) := by
  have hswap : update (update cells i (cells j)) j x
      = update cells i x ∘ Equiv.swap i j := by
    funext k
    by_cases hkj : k = j
    · rw [hkj, update_self, comp_apply, Equiv.swap_apply_right, update_self]
    · rw [update_of_ne hkj, comp_apply]
      by_cases hki : k = i
      · rw [hki, update_self, Equiv.swap_apply_left, update_of_ne hne]
      · rw [update_of_ne hki, Equiv.swap_apply_of_ne_of_ne hki hkj,
          update_of_ne hki]
  rw [hswap]
  exact heapItems_swap _ hi hj

/-- What is in the other cells does not depend on what is put in one. -/
theorem heapItems_update (cells : Nat → α × Int) {n i : Nat}
    (hi : 1 ≤ i ∧ i ≤ n) :
    ∃ rest, ∀ x, (heapItems (update cells i x) n).Perm (x :: rest) := by
  obtain ⟨before, after, hsplit⟩ :=
    List.append_of_mem (mem_cellNumbers.mpr hi)
  have hnodup : (before ++ i :: after).Nodup :=
    hsplit ▸ List.nodup_range' (s := 1) (n := n)
  have hnot := (List.nodup_cons.mp (List.nodup_middle.mp hnodup)).1
  have hbefore : i ∉ before := fun h => hnot (List.mem_append_left _ h)
  have hafter : i ∉ after := fun h => hnot (List.mem_append_right _ h)
  have hsame : ∀ x, ∀ l : List Nat, i ∉ l →
      l.map (update cells i x) = l.map cells :=
    fun x l hl => List.map_congr_left fun k hk =>
      update_of_ne (fun heq : k = i => hl (heq ▸ hk)) _ _
  refine ⟨before.map cells ++ after.map cells, fun x => ?_⟩
  unfold heapItems
  rw [hsplit, List.map_append, List.map_cons, update_self,
    hsame x before hbefore, hsame x after hafter]
  exact List.perm_middle

-- ==== up

/-- Move the hole at `i` up until the item fits there, and put it in. The
first argument bounds the number of moves. -/
def percolateUp (x : α × Int) :
    Nat → (Nat → α × Int) → Nat → Nat → α × Int
  | 0, cells, i => update cells i x
  | fuel + 1, cells, i =>
    if 1 < i ∧ (cells (i / 2)).2 < x.2 then
      percolateUp x fuel (update cells i (cells (i / 2))) (i / 2)
    else update cells i x

theorem heapItems_percolateUp (x : α × Int) {n : Nat} :
    ∀ (fuel : Nat) (cells : Nat → α × Int) (i : Nat), 1 ≤ i ∧ i ≤ n →
      (heapItems (percolateUp x fuel cells i) n).Perm
        (heapItems (update cells i x) n) := by
  intro fuel
  induction fuel with
  | zero => exact fun cells i _ => List.Perm.refl _
  | succ fuel ih =>
    intro cells i hi
    unfold percolateUp
    by_cases hup : 1 < i ∧ (cells (i / 2)).2 < x.2
    · rw [if_pos hup]
      have hhalf : 1 ≤ i / 2 ∧ i / 2 ≤ n := by omega
      exact (ih _ _ hhalf).trans
        (heapItems_moveHole cells x hi hhalf (by omega))
    · rw [if_neg hup]

/-- The heap filled with `x` at `i` is in order but for `i` itself, and
what is below `i` is in order with what is above. -/
structure HoleBelow (cells : Nat → α × Int) (x : α × Int) (i n : Nat) :
    Prop where
  ordered : ∀ k, 1 < k → k ≤ n → k ≠ i →
    (update cells i x k).2 ≤ (update cells i x (k / 2)).2
  across : ∀ k, 1 < i → k ≤ n → k / 2 = i →
    (cells k).2 ≤ (cells (i / 2)).2

theorem ordered_percolateUp (x : α × Int) {n : Nat} :
    ∀ (fuel : Nat) (cells : Nat → α × Int) (i : Nat), 1 ≤ i → i ≤ fuel →
      HoleBelow cells x i n → HeapOrdered (percolateUp x fuel cells i) n := by
  intro fuel
  induction fuel with
  | zero =>
    intro cells i hpos hfuel
    omega
  | succ fuel ih =>
    intro cells i hpos hfuel h
    unfold percolateUp
    by_cases hup : 1 < i ∧ (cells (i / 2)).2 < x.2
    · rw [if_pos hup]
      obtain ⟨hone, hlt⟩ := hup
      refine ih _ _ (by omega) (by omega) ⟨fun k hk hkn hne => ?_,
        fun k hhalf hkn hkhalf => ?_⟩
      · -- the cell that moved down is between its new parent and children
        by_cases hki : k = i
        · rw [hki, update_self, update_of_ne (by omega), update_self]
          exact Int.le_of_lt hlt
        · have hold := h.ordered k hk hkn hki
          rw [update_of_ne hne, update_of_ne hki]
          rw [update_of_ne hki] at hold
          by_cases hpar : k / 2 = i / 2
          · rw [hpar, update_self]
            rw [hpar, update_of_ne (by omega)] at hold
            exact Int.le_trans hold (Int.le_of_lt hlt)
          · rw [update_of_ne hpar]
            by_cases hchild : k / 2 = i
            · rw [hchild, update_self]
              exact h.across k hone hkn hchild
            · rw [update_of_ne hchild]
              rw [update_of_ne hchild] at hold
              exact hold
      · have hgrand := h.ordered (i / 2) hhalf
          (by omega) (by omega)
        rw [update_of_ne (by omega), update_of_ne (by omega)] at hgrand
        rw [update_of_ne (by omega : i / 2 / 2 ≠ i)]
        by_cases hki : k = i
        · rw [hki, update_self]
          exact hgrand
        · have hold := h.ordered k (by omega) hkn hki
          rw [update_of_ne hki, hkhalf, update_of_ne (by omega)] at hold
          rw [update_of_ne hki]
          exact Int.le_trans hold hgrand
    · rw [if_neg hup]
      intro k hk hkn
      by_cases hki : k = i
      · have hnot : ¬ (cells (i / 2)).2 < x.2 :=
          fun hlt => hup ⟨by omega, hlt⟩
        rw [hki, update_self, update_of_ne (by omega)]
        exact Int.not_lt.mp hnot
      · exact h.ordered k hk hkn hki

-- ==== down

/-- The child of `i` with the higher priority, the first on equal ones. -/
def largerChild (cells : Nat → α × Int) (n i : Nat) : Nat :=
  if 2 * i < n ∧ (cells (2 * i)).2 < (cells (2 * i + 1)).2 then 2 * i + 1
  else 2 * i

/-- Move the hole at `i` down until the item fits there, and put it in.
The first argument bounds the number of moves. -/
def percolateDown (x : α × Int) (n : Nat) :
    Nat → (Nat → α × Int) → Nat → Nat → α × Int
  | 0, cells, i => update cells i x
  | fuel + 1, cells, i =>
    if i ≤ n / 2 then
      let j := largerChild cells n i
      if (cells j).2 ≤ x.2 then update cells i x
      else percolateDown x n fuel (update cells i (cells j)) j
    else update cells i x

theorem largerChild_bounds (cells : Nat → α × Int) {n i : Nat}
    (hi : i ≤ n / 2) :
    largerChild cells n i ≤ n ∧ largerChild cells n i / 2 = i := by
  unfold largerChild
  by_cases h : 2 * i < n ∧ (cells (2 * i)).2 < (cells (2 * i + 1)).2
  · rw [if_pos h]
    omega
  · rw [if_neg h]
    omega

theorem le_largerChild (cells : Nat → α × Int) {n i k : Nat}
    (hk : k ≤ n) (hki : k / 2 = i) :
    (cells k).2 ≤ (cells (largerChild cells n i)).2 := by
  have hcases : k = 2 * i ∨ k = 2 * i + 1 := by omega
  unfold largerChild
  by_cases h : 2 * i < n ∧ (cells (2 * i)).2 < (cells (2 * i + 1)).2
  · rw [if_pos h]
    rcases hcases with rfl | rfl
    · exact Int.le_of_lt h.2
    · exact Int.le_refl _
  · rw [if_neg h]
    rcases hcases with rfl | rfl
    · exact Int.le_refl _
    · exact Int.not_lt.mp fun hlt => h ⟨by omega, hlt⟩

/-- The last cell, whose item fills the hole, is never moved up. -/
theorem heapItems_percolateDown (x : α × Int) {n : Nat} :
    ∀ (fuel : Nat) (cells : Nat → α × Int) (i : Nat), 1 ≤ i ∧ i < n →
      cells n = x →
        (heapItems (percolateDown x n fuel cells i) (n - 1)).Perm
          (heapItems (update cells i x) (n - 1)) := by
  intro fuel
  induction fuel with
  | zero => exact fun cells i _ _ => List.Perm.refl _
  | succ fuel ih =>
    intro cells i hi hlast
    unfold percolateDown
    by_cases hdown : i ≤ n / 2
    · rw [if_pos hdown]
      obtain ⟨hjn, hji⟩ := largerChild_bounds cells hdown
      generalize largerChild cells n i = j at hjn hji
      by_cases hfits : (cells j).2 ≤ x.2
      · rw [if_pos hfits]
      · rw [if_neg hfits]
        have hlt : j < n := by
          refine Nat.lt_of_le_of_ne hjn fun heq => hfits ?_
          exact Int.le_of_eq (by rw [heq, hlast])
        exact (ih _ j ⟨by omega, hlt⟩
          (by rw [update_of_ne (by omega), hlast])).trans
          (heapItems_moveHole cells x (by omega) (by omega) (by omega))
    · rw [if_neg hdown]

/-- The heap filled with `x` at `i` is in order but for the children of
`i`, which are in order with what is above `i`. -/
structure HoleAbove (cells : Nat → α × Int) (x : α × Int) (i n : Nat) :
    Prop where
  ordered : ∀ k, 1 < k → k < n → k / 2 ≠ i →
    (update cells i x k).2 ≤ (update cells i x (k / 2)).2
  across : ∀ k, 1 < i → k < n → k / 2 = i →
    (cells k).2 ≤ (cells (i / 2)).2

theorem ordered_percolateDown (x : α × Int) {n : Nat} :
    ∀ (fuel : Nat) (cells : Nat → α × Int) (i : Nat), 1 ≤ i ∧ i < n →
      n ≤ fuel + i → cells n = x → HoleAbove cells x i n →
        HeapOrdered (percolateDown x n fuel cells i) (n - 1) := by
  intro fuel
  induction fuel with
  | zero =>
    intro cells i hi hfuel
    omega
  | succ fuel ih =>
    intro cells i hi hfuel hlast h
    unfold percolateDown
    by_cases hdown : i ≤ n / 2
    · rw [if_pos hdown]
      have hmost : ∀ k, k ≤ n → k / 2 = i →
          (cells k).2 ≤ (cells (largerChild cells n i)).2 :=
        fun k hk hki => le_largerChild cells hk hki
      obtain ⟨hjn, hji⟩ := largerChild_bounds cells hdown
      generalize largerChild cells n i = j at hjn hji hmost
      by_cases hfits : (cells j).2 ≤ x.2
      · rw [if_pos hfits]
        intro k hk hkn
        by_cases hki : k / 2 = i
        · rw [hki, update_self, update_of_ne (by omega)]
          exact Int.le_trans (hmost k (by omega) hki) hfits
        · exact h.ordered k hk (by omega) hki
      · rw [if_neg hfits]
        have hlt : j < n := by
          refine Nat.lt_of_le_of_ne hjn fun heq => hfits ?_
          exact Int.le_of_eq (by rw [heq, hlast])
        refine ih _ j ⟨by omega, hlt⟩ (by omega)
          (by rw [update_of_ne (by omega), hlast])
          ⟨fun k hk hkn hkj => ?_, fun k _ hkn hkj => ?_⟩
        · by_cases hki : k / 2 = i
          · -- the cell that moved up is the larger of the children
            rw [hki, update_of_ne (by omega : i ≠ j), update_self]
            by_cases hkj' : k = j
            · rw [hkj', update_self]
              exact Int.le_of_lt (Int.not_le.mp hfits)
            · rw [update_of_ne hkj', update_of_ne (by omega : k ≠ i)]
              exact hmost k (by omega) hki
          · have hold := h.ordered k hk hkn hki
            have hkj' : k ≠ j := fun heq => hki (heq ▸ hji)
            rw [update_of_ne hkj', update_of_ne hkj, update_of_ne hki]
            rw [update_of_ne hki] at hold
            by_cases hki' : k = i
            · rw [hki', update_self]
              have hacross := h.across j (by omega) hlt hji
              exact hacross
            · rw [update_of_ne hki']
              rw [update_of_ne hki'] at hold
              exact hold
        · rw [hji, update_self, update_of_ne (by omega : k ≠ i)]
          have hold := h.ordered k (by omega) hkn (by omega)
          rw [update_of_ne (by omega : k ≠ i), hkj,
            update_of_ne (by omega : j ≠ i)] at hold
          exact hold
    · rw [if_neg hdown]
      intro k hk hkn
      exact h.ordered k hk (by omega) (by omega)

-- ==== queues

structure PQueue (α : Type) where
  size : Nat
  cells : Nat → α × Int
  ordered : HeapOrdered cells size

namespace PQueue

/-- What is in the queue. -/
def items (q : PQueue α) : List (α × Int) := heapItems q.cells q.size

/-- An empty queue; the item is never read. -/
def empty (x : α × Int) : PQueue α where
  size := 0
  cells _ := x
  ordered i hi hle := by omega

/-- The root has the highest priority. -/
theorem le_root {cells : Nat → α × Int} {n : Nat}
    (h : HeapOrdered cells n) (i : Nat) (hi : 1 ≤ i) (hn : i ≤ n) :
    (cells i).2 ≤ (cells 1).2 := by
  induction i using Nat.strongRecOn with
  | ind i ih =>
    by_cases hone : i = 1
    · exact Int.le_of_eq (by rw [hone])
    · exact Int.le_trans (h i (by omega) hn)
        (ih (i / 2) (by omega) (by omega) (by omega))

def insert (q : PQueue α) (d : α) (p : Int) : PQueue α where
  size := q.size + 1
  cells := percolateUp (d, p) (q.size + 1) q.cells (q.size + 1)
  ordered := by
    refine ordered_percolateUp (d, p) _ _ _ (by omega) (Nat.le_refl _)
      ⟨fun k hk hkn hne => ?_, fun k _ hkn hhalf => by omega⟩
    rw [update_of_ne hne, update_of_ne (by omega)]
    exact q.ordered k hk (by omega)

theorem items_insert (q : PQueue α) (d : α) (p : Int) :
    (q.insert d p).items.Perm ((d, p) :: q.items) := by
  refine (heapItems_percolateUp (d, p) (q.size + 1) q.cells (q.size + 1)
    (by omega : 1 ≤ q.size + 1 ∧ q.size + 1 ≤ q.size + 1)).trans ?_
  have hrest : heapItems (update q.cells (q.size + 1) (d, p)) q.size
      = q.items :=
    heapItems_congr fun i _ hi => update_of_ne (by omega) _ _
  rw [heapItems_succ, hrest, update_self]
  exact List.perm_append_singleton _ _

/-- The last of cells 1 to `i` with the datum, or 0. -/
def findFrom [DecidableEq α] (cells : Nat → α × Int) (d : α) : Nat → Nat
  | 0 => 0
  | i + 1 => if (cells (i + 1)).1 = d then i + 1 else findFrom cells d i

theorem findFrom_spec [DecidableEq α] (cells : Nat → α × Int) (d : α)
    (n : Nat) :
    findFrom cells d n ≤ n
      ∧ (findFrom cells d n = 0 →
        ∀ i, 1 ≤ i → i ≤ n → (cells i).1 ≠ d)
      ∧ (findFrom cells d n ≠ 0 → (cells (findFrom cells d n)).1 = d) := by
  induction n with
  | zero => exact ⟨Nat.le_refl 0, fun _ i hi hle => by omega,
      fun h => absurd rfl h⟩
  | succ n ih =>
    obtain ⟨hle, hnone, hsome⟩ := ih
    unfold findFrom
    by_cases hd : (cells (n + 1)).1 = d
    · rw [if_pos hd]
      exact ⟨Nat.le_refl _, nofun, fun _ => hd⟩
    · rw [if_neg hd]
      refine ⟨by omega, fun h i hi hin => ?_, hsome⟩
      by_cases hlast : i = n + 1
      · rw [hlast]
        exact hd
      · exact hnone h i hi (by omega)

/-- Give a datum a better priority; insert it if it is not there. -/
def replace [DecidableEq α] (q : PQueue α) (d : α) (p : Int) :
    PQueue α :=
  let i := findFrom q.cells d q.size
  if hfound : i = 0 then q.insert d p
  else if hbetter : (q.cells i).2 < p then
    { size := q.size
      cells := percolateUp (d, p) i q.cells i
      ordered := by
        obtain ⟨hle, -, -⟩ := findFrom_spec q.cells d q.size
        refine ordered_percolateUp (d, p) _ _ _ (by omega) (Nat.le_refl _)
          ⟨fun k hk hkn hne => ?_, fun k hone hkn hhalf => ?_⟩
        · rw [update_of_ne hne]
          by_cases hpar : k / 2 = i
          · rw [hpar, update_self]
            exact Int.le_trans (hpar ▸ q.ordered k hk hkn)
              (Int.le_of_lt hbetter)
          · rw [update_of_ne hpar]
            exact q.ordered k hk hkn
        · exact Int.le_trans (hhalf ▸ q.ordered k (by omega) hkn)
            (q.ordered i hone hle) }
  else q

/-- A datum that is not there is inserted; one that is there keeps its
priority or gets a better one. -/
theorem items_replace [DecidableEq α] (q : PQueue α) (d : α) (p : Int) :
    ((∀ x ∈ q.items, x.1 ≠ d)
        ∧ (q.replace d p).items.Perm ((d, p) :: q.items))
      ∨ ∃ p₀ rest, q.items.Perm ((d, p₀) :: rest)
        ∧ ((p₀ < p ∧ (q.replace d p).items.Perm ((d, p) :: rest))
          ∨ (¬ p₀ < p ∧ q.replace d p = q)) := by
  obtain ⟨hle, hnone, hsome⟩ := findFrom_spec q.cells d q.size
  by_cases hfound : findFrom q.cells d q.size = 0
  · refine Or.inl ⟨fun x hx => ?_, ?_⟩
    · obtain ⟨i, ⟨hi, hin⟩, rfl⟩ := mem_heapItems.mp hx
      exact hnone hfound i hi hin
    · unfold replace
      rw [dif_pos hfound]
      exact items_insert q d p
  · have hi : 1 ≤ findFrom q.cells d q.size
        ∧ findFrom q.cells d q.size ≤ q.size := ⟨by omega, hle⟩
    have hd := hsome hfound
    obtain ⟨rest, hrest⟩ := heapItems_update q.cells hi
    refine Or.inr ⟨(q.cells (findFrom q.cells d q.size)).2, rest, ?_, ?_⟩
    · have hold := hrest (q.cells (findFrom q.cells d q.size))
      rw [update_eq_self] at hold
      have hcell : q.cells (findFrom q.cells d q.size)
          = (d, (q.cells (findFrom q.cells d q.size)).2) := Prod.ext hd rfl
      exact hold.trans (by rw [← hcell])
    · by_cases hbetter : (q.cells (findFrom q.cells d q.size)).2 < p
      · refine Or.inl ⟨hbetter, ?_⟩
        unfold replace
        rw [dif_neg hfound, dif_pos hbetter]
        exact (heapItems_percolateUp (d, p) _ _ _ hi).trans (hrest (d, p))
      · refine Or.inr ⟨hbetter, ?_⟩
        unfold replace
        rw [dif_neg hfound, dif_neg hbetter]

/-- Remove an item of the highest priority. -/
def remove (q : PQueue α) : Option (α × PQueue α) :=
  if hsize : q.size = 0 then none
  else some ((q.cells 1).1,
    { size := q.size - 1
      cells := percolateDown (q.cells q.size) q.size q.size q.cells 1
      ordered := by
        by_cases hone : q.size = 1
        · intro i hi hle
          omega
        · refine ordered_percolateDown _ _ _ _ (by omega) (by omega) rfl
            ⟨fun k hk hkn hhalf => ?_, fun k hlt => by omega⟩
          rw [update_of_ne (by omega), update_of_ne hhalf]
          exact q.ordered k hk (by omega) })

theorem items_remove_none {q : PQueue α} (h : q.remove = none) :
    q.items = [] := by
  unfold remove at h
  by_cases hsize : q.size = 0
  · unfold items heapItems
    rw [hsize]
    rfl
  · rw [dif_neg hsize] at h
    cases h

/-- What is removed had the highest priority of all that was there. -/
theorem items_remove {q q' : PQueue α} {d : α}
    (h : q.remove = some (d, q')) :
    ∃ p, q.items.Perm ((d, p) :: q'.items) ∧ ∀ x ∈ q.items, x.2 ≤ p := by
  unfold remove at h
  by_cases hsize : q.size = 0
  · rw [dif_pos hsize] at h
    cases h
  · rw [dif_neg hsize] at h
    cases h
    refine ⟨(q.cells 1).2, ?_, fun x hx => ?_⟩
    · have hsucc : q.size = q.size - 1 + 1 := by omega
      show (heapItems q.cells q.size).Perm (q.cells 1 :: heapItems
        (percolateDown (q.cells q.size) q.size q.size q.cells 1)
        (q.size - 1))
      by_cases hone : q.size = 1
      · rw [hone]
        exact List.Perm.refl _
      · have hdown := heapItems_percolateDown (q.cells q.size) q.size
          q.cells 1 (by omega : 1 ≤ 1 ∧ 1 < q.size) rfl
        -- the root taken out and the last cell put in its place
        have hroot : (heapItems q.cells q.size).Perm (q.cells 1 ::
            heapItems (update q.cells 1 (q.cells q.size))
              (q.size - 1)) := by
          have hswap := heapItems_swap q.cells (n := q.size) (i := 1)
            (j := q.size) (by omega) (by omega)
          refine hswap.symm.trans ?_
          have hlast : (q.cells ∘ Equiv.swap 1 q.size) q.size
              = q.cells 1 := by
            rw [comp_apply, Equiv.swap_apply_right]
          have hrest : heapItems (q.cells ∘ Equiv.swap 1 q.size)
                (q.size - 1)
              = heapItems (update q.cells 1 (q.cells q.size))
                (q.size - 1) := by
            refine heapItems_congr fun i hi hle => ?_
            by_cases hi1 : i = 1
            · rw [hi1, update_self, comp_apply, Equiv.swap_apply_left]
            · rw [update_of_ne hi1, comp_apply,
                Equiv.swap_apply_of_ne_of_ne hi1 (by omega)]
          have hsplit : heapItems (q.cells ∘ Equiv.swap 1 q.size) q.size
              = heapItems (q.cells ∘ Equiv.swap 1 q.size) (q.size - 1)
                ++ [(q.cells ∘ Equiv.swap 1 q.size) (q.size - 1 + 1)] := by
            rw [← heapItems_succ, ← hsucc]
          rw [hsplit, ← hsucc, hlast, hrest]
          exact List.perm_append_singleton _ _
        exact hroot.trans (hdown.symm.cons _)
    · obtain ⟨i, ⟨hi, hle⟩, rfl⟩ := mem_heapItems.mp hx
      exact le_root q.ordered i hi hle

-- ==== queues of keyed items

/-- Each datum is in the queue once at most, with a priority of its own. -/
structure Holds (q : PQueue α) (f : α → Option Int) : Prop where
  mem : ∀ d p, (d, p) ∈ q.items ↔ f d = some p
  nodup : (q.items.map Prod.fst).Nodup

theorem holds_empty (x : α × Int) :
    (empty x).Holds (fun _ => none) where
  mem _ _ := ⟨nofun, nofun⟩
  nodup := List.nodup_nil

/-- Items with one in front are those of the map with that one added. -/
theorem holds_cons [DecidableEq α] {q : PQueue α}
    {rest : List (α × Int)} {f : α → Option Int} {d : α} {p : Int}
    (hitems : q.items.Perm ((d, p) :: rest))
    (hrest : ∀ x y, (x, y) ∈ rest ↔ x ≠ d ∧ f x = some y)
    (hnodup : (rest.map Prod.fst).Nodup) :
    q.Holds (update f d (some p)) where
  mem x y := by
    rw [hitems.mem_iff, List.mem_cons, hrest]
    by_cases hx : x = d
    · rw [hx, update_self]
      exact ⟨fun h => h.elim (fun heq => by cases heq; rfl)
        (fun h => absurd rfl h.1), fun h => by cases h; exact Or.inl rfl⟩
    · rw [update_of_ne hx]
      exact ⟨fun h => h.elim (fun heq => absurd (congrArg Prod.fst heq) hx)
        And.right, fun h => Or.inr ⟨hx, h⟩⟩
  nodup := by
    rw [(hitems.map Prod.fst).nodup_iff]
    refine List.nodup_cons.mpr ⟨fun hmem => ?_, hnodup⟩
    obtain ⟨⟨x, y⟩, hxy, rfl⟩ := List.mem_map.mp hmem
    exact ((hrest x y).mp hxy).1 rfl

/-- The rest of the items, when one is taken out. -/
theorem Holds.rest {q : PQueue α} {f : α → Option Int} (h : q.Holds f)
    {rest : List (α × Int)} {d : α} {p : Int}
    (hitems : q.items.Perm ((d, p) :: rest)) :
    (∀ x y, (x, y) ∈ rest ↔ x ≠ d ∧ f x = some y)
      ∧ (rest.map Prod.fst).Nodup := by
  have hnodup := (hitems.map Prod.fst).nodup_iff.mp h.nodup
  obtain ⟨hnot, hrest⟩ := List.nodup_cons.mp hnodup
  refine ⟨fun x y => ⟨fun hxy => ⟨?_, ?_⟩, fun hxy => ?_⟩, hrest⟩
  · rintro rfl
    exact hnot (List.mem_map.mpr ⟨(x, y), hxy, rfl⟩)
  · exact (h.mem x y).mp (hitems.mem_iff.mpr (List.mem_cons_of_mem _ hxy))
  · have hmem := hitems.mem_iff.mp ((h.mem x y).mpr hxy.2)
    rcases List.mem_cons.mp hmem with heq | hmem
    · exact absurd (congrArg Prod.fst heq) hxy.1
    · exact hmem

theorem Holds.insert [DecidableEq α] {q : PQueue α} {f : α → Option Int}
    (h : q.Holds f) {d : α} (hd : f d = none) (p : Int) :
    (q.insert d p).Holds (update f d (some p)) := by
  refine holds_cons (items_insert q d p) (fun x y => ?_) h.nodup
  rw [h.mem]
  refine ⟨fun hxy => ⟨?_, hxy⟩, And.right⟩
  rintro rfl
  rw [hd] at hxy
  cases hxy

theorem Holds.replace [DecidableEq α] {q : PQueue α} {f : α → Option Int}
    (h : q.Holds f) {d : α} {p p₀ : Int} (hd : f d = some p₀)
    (hlt : p₀ < p) : (q.replace d p).Holds (update f d (some p)) := by
  rcases items_replace q d p with ⟨hnot, -⟩ | ⟨p₁, rest, hitems, hrep⟩
  · exact absurd rfl (hnot (d, p₀) ((h.mem d p₀).mpr hd))
  · obtain ⟨hrest, hnodup⟩ := h.rest hitems
    have hp₁ : f d = some p₁ :=
      (h.mem d p₁).mp (hitems.mem_iff.mpr List.mem_cons_self)
    rw [hd] at hp₁
    cases hp₁
    rcases hrep with ⟨-, hnew⟩ | ⟨hnot, -⟩
    · exact holds_cons hnew hrest hnodup
    · exact absurd hlt hnot

theorem Holds.remove_none {q : PQueue α} {f : α → Option Int}
    (h : q.Holds f) (hremove : q.remove = none) (d : α) : f d = none := by
  cases hd : f d with
  | none => rfl
  | some p =>
    have hmem := (h.mem d p).mpr hd
    rw [items_remove_none hremove] at hmem
    cases hmem

theorem Holds.remove [DecidableEq α] {q q' : PQueue α}
    {f : α → Option Int} (h : q.Holds f) {d : α}
    (hremove : q.remove = some (d, q')) :
    (∃ p, f d = some p ∧ ∀ x y, f x = some y → y ≤ p)
      ∧ q'.Holds (update f d none) := by
  obtain ⟨p, hitems, hmax⟩ := items_remove hremove
  obtain ⟨hrest, hnodup⟩ := h.rest hitems
  refine ⟨⟨p, (h.mem d p).mp (hitems.mem_iff.mpr List.mem_cons_self),
    fun x y hxy => hmax (x, y) ((h.mem x y).mpr hxy)⟩, ⟨fun x y => ?_,
    hnodup⟩⟩
  rw [hrest]
  by_cases hx : x = d
  · rw [hx, update_self]
    exact ⟨fun hxy => absurd rfl hxy.1, nofun⟩
  · rw [update_of_ne hx]
    exact ⟨And.right, fun hxy => ⟨hx, hxy⟩⟩

/-- Which data are in the queue, whatever their priorities. -/
def Keys (q : PQueue α) (S : α → Prop) : Prop :=
  ∃ f, q.Holds f ∧ ∀ d, (f d).isSome ↔ S d

theorem Keys.congr {q : PQueue α} {S S' : α → Prop} (h : q.Keys S)
    (hS : ∀ d, S d ↔ S' d) : q.Keys S' := by
  obtain ⟨f, hf, hmem⟩ := h
  exact ⟨f, hf, fun d => (hmem d).trans (hS d)⟩

theorem Keys.insert [DecidableEq α] {q : PQueue α} {S : α → Prop}
    (h : q.Keys S) {d : α} (hd : ¬ S d) (p : Int) :
    (q.insert d p).Keys fun x => x = d ∨ S x := by
  obtain ⟨f, hf, hmem⟩ := h
  have hnone : f d = none := by
    cases hfd : f d with
    | none => rfl
    | some p₀ => exact absurd ((hmem d).mp (by rw [hfd]; rfl)) hd
  refine ⟨_, hf.insert hnone p, fun x => ?_⟩
  by_cases hx : x = d
  · rw [hx, update_self]
    exact ⟨fun _ => Or.inl rfl, fun _ => rfl⟩
  · rw [update_of_ne hx, hmem x]
    exact ⟨Or.inr, fun h => h.resolve_left hx⟩

theorem Keys.replace [DecidableEq α] {q : PQueue α} {S : α → Prop}
    (h : q.Keys S) {d : α} (hd : S d) (p : Int) :
    (q.replace d p).Keys S := by
  obtain ⟨f, hf, hmem⟩ := h
  obtain ⟨p₀, hp₀⟩ := Option.isSome_iff_exists.mp ((hmem d).mpr hd)
  by_cases hlt : p₀ < p
  · refine ⟨_, hf.replace hp₀ hlt, fun x => ?_⟩
    by_cases hx : x = d
    · rw [hx, update_self]
      exact ⟨fun _ => hd, fun _ => rfl⟩
    · rw [update_of_ne hx, hmem x]
  · rcases items_replace q d p with ⟨hnot, -⟩ | ⟨p₁, rest, hitems, hrep⟩
    · exact absurd rfl (hnot (d, p₀) ((hf.mem d p₀).mpr hp₀))
    · have hp₁ : f d = some p₁ :=
        (hf.mem d p₁).mp (hitems.mem_iff.mpr List.mem_cons_self)
      rw [hp₀] at hp₁
      cases hp₁
      rcases hrep with ⟨hbetter, -⟩ | ⟨-, hsame⟩
      · exact absurd hbetter hlt
      · rw [hsame]
        exact ⟨f, hf, hmem⟩

theorem Keys.remove [DecidableEq α] {q q' : PQueue α} {S : α → Prop}
    (h : q.Keys S) {d : α} (hremove : q.remove = some (d, q')) :
    S d ∧ q'.Keys fun x => S x ∧ x ≠ d := by
  obtain ⟨f, hf, hmem⟩ := h
  obtain ⟨⟨p, hp, -⟩, hrest⟩ := hf.remove hremove
  refine ⟨(hmem d).mp (by rw [hp]; rfl), _, hrest, fun x => ?_⟩
  by_cases hx : x = d
  · rw [hx, update_self]
    exact ⟨nofun, fun h => absurd rfl h.2⟩
  · rw [update_of_ne hx, hmem x]
    exact ⟨fun h => ⟨h, hx⟩, And.left⟩

end PQueue

end Lib
