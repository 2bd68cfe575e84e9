/-
The priority queue of specpq.h, with its array: `_pq_insert`,
`_pq_replace` and `_pq_remove`, every access to a cell checked against
what is allocated.

# The queue behind it

Cell 0 is never used, so a queue of `size` holds `size - 1` items. While
the accesses are in bounds (`InBounds`) and the cells in order, the array
is a `PQueue`, and each operation is the operation on it; the number and
the order of the items are then those of the library.
-/
import Freeciv3d.Lib.Lts
import Freeciv3d.Lib.PriorityQueue

namespace Freeciv3d.Server

namespace SpecPq

open Lib Function

variable {α : Type}

-- ==== the code

structure Pq (α : Type) where
  size : Nat
  avail : Nat
  step : Nat
  /-- The memory from `cells` on; what is not allocated is not ours. -/
  cells : Nat → α × Int

def pqNew (memory : Nat → α × Int) (initialSize : Nat) : Pq α :=
  ⟨1, initialSize, initialSize, memory⟩

namespace Pq

variable (pq : Pq α)

/-- `none` is an access out of bounds. -/
def read (i : Nat) : Option (α × Int) :=
  if i < pq.avail then some (pq.cells i) else none

def write (i : Nat) (x : α × Int) : Option (Pq α) :=
  if i < pq.avail then some { pq with cells := update pq.cells i x } else none

end Pq

/-- The loops of `_pq_insert` and `_pq_replace`; `i / 2` is 0 where the
first of them tests `i > 1`. The first argument bounds the moves. -/
def siftUp (x : α × Int) : Nat → Pq α → Nat → Option (Pq α)
  | 0, pq, i => pq.write i x
  | fuel + 1, pq, i =>
    if i / 2 = 0 then pq.write i x
    else do
      let parent ← pq.read (i / 2)
      if parent.2 < x.2 then siftUp x fuel (← pq.write i parent) (i / 2)
      else pq.write i x

def pqInsert (pq : Pq α) (d : α) (priority : Int) : Option (Pq α) :=
  let pq := if pq.avail ≤ pq.size then { pq with avail := pq.size + pq.step }
    else pq
  siftUp (d, priority) pq.size { pq with size := pq.size + 1 } pq.size

/-- The search of `_pq_replace`, from the last cell down. -/
def lookup [DecidableEq α] (pq : Pq α) (d : α) : Nat → Option Nat
  | 0 => some 0
  | i + 1 => do
      let cell ← pq.read (i + 1)
      if cell.1 = d then some (i + 1) else lookup pq d i

def pqReplace [DecidableEq α] (pq : Pq α) (d : α) (priority : Int) :
    Option (Pq α) := do
  let i ← lookup pq d (pq.size - 1)
  if i = 0 then pqInsert pq d priority
  else
    let cell ← pq.read i
    if cell.2 < priority then siftUp (d, priority) i pq i else some pq

/-- The child that may move up, where `size` is already the smaller one:
the last cell it looks at is the one behind. -/
def largerChildOf (pq : Pq α) (i : Nat) : Option Nat := do
  let first ← pq.read (2 * i)
  if 2 * i < pq.size then do
    let second ← pq.read (2 * i + 1)
    some (if first.2 < second.2 then 2 * i + 1 else 2 * i)
  else some (2 * i)

/-- The loop of `_pq_remove`. -/
def siftDown (x : α × Int) : Nat → Pq α → Nat → Option (Pq α)
  | 0, pq, i => pq.write i x
  | fuel + 1, pq, i =>
    if i ≤ pq.size / 2 then do
      let j ← largerChildOf pq i
      let child ← pq.read j
      if child.2 ≤ x.2 then pq.write i x
      else siftDown x fuel (← pq.write i child) j
    else pq.write i x

/-- With the datum that was taken out, if `TRUE` is returned. -/
def pqRemove (pq : Pq α) : Option (Option α × Pq α) :=
  if pq.size = 1 then some (none, pq)
  else if ¬ pq.size ≤ pq.avail then some (none, pq)
  else do
    let top ← pq.read 1
    let pq := { pq with size := pq.size - 1 }
    let tmp ← pq.read pq.size
    let pq ← siftDown tmp pq.size pq 1
    some (some top.1, pq)

-- ==== the statement

inductive Op (α : Type) where
  | insert (d : α) (priority : Int)
  | replace (d : α) (priority : Int)
  | remove

def system [DecidableEq α] (memory : Nat → α × Int) (initialSize : Nat) :
    Lts (Pq α) (Op α) where
  init pq := pq = pqNew memory initialSize
  step pq op :=
    match op with
    | .insert d priority => pqInsert pq d priority
    | .replace d priority => pqReplace pq d priority
    | .remove => (pqRemove pq).map Prod.snd

def entries (pq : Pq α) : List (α × Int) := heapItems pq.cells (pq.size - 1)

/-- The queue is a heap within its array. -/
structure Sound (pq : Pq α) : Prop where
  pos : 1 ≤ pq.size
  inBounds : pq.size ≤ pq.avail
  grows : 1 ≤ pq.step
  ordered : HeapOrdered pq.cells (pq.size - 1)

/-- What the operations do to the entries; none leaves the array. -/
structure Correct [DecidableEq α] (pq : Pq α) : Prop where
  insert : ∀ d p, ∃ q, pqInsert pq d p = some q
    ∧ (entries q).Perm ((d, p) :: entries pq)
  replace : ∀ d p, ∃ q, pqReplace pq d p = some q
    ∧ ((∀ x ∈ entries pq, x.1 ≠ d) ∧ (entries q).Perm ((d, p) :: entries pq)
      ∨ ∃ p₀ rest, (entries pq).Perm ((d, p₀) :: rest)
        ∧ (p₀ < p ∧ (entries q).Perm ((d, p) :: rest) ∨ ¬ p₀ < p ∧ q = pq))
  remove : ∃ r q, pqRemove pq = some (r, q) ∧ (r = none ↔ entries pq = [])
    ∧ (r = none → q = pq)
    ∧ ∀ d, r = some d → ∃ p, (entries pq).Perm ((d, p) :: entries q)
      ∧ ∀ x ∈ entries pq, x.2 ≤ p

-- ==== the loops

theorem read_eq {pq : Pq α} {i : Nat} (h : i < pq.avail) :
    pq.read i = some (pq.cells i) := if_pos h

theorem write_eq {pq : Pq α} {i : Nat} {x : α × Int} (h : i < pq.avail) :
    pq.write i x = some { pq with cells := update pq.cells i x } := if_pos h

theorem siftUp_eq {x : α × Int} {fuel : Nat} {pq : Pq α} {i : Nat}
    (h : i < pq.avail) :
    siftUp x fuel pq i
      = some { pq with cells := percolateUp x fuel pq.cells i } := by
  induction fuel generalizing pq i with
  | zero => exact write_eq h
  | succ fuel ih =>
    unfold siftUp percolateUp
    by_cases hroot : i / 2 = 0
    · rw [if_pos hroot, if_neg (by omega), write_eq h]
    · have hparent : i / 2 < pq.avail := by omega
      rw [if_neg hroot, read_eq hparent]
      simp only [Option.bind_eq_bind, Option.bind_some]
      by_cases hlt : (pq.cells (i / 2)).2 < x.2
      · rw [if_pos hlt, if_pos ⟨by omega, hlt⟩, write_eq h, Option.bind_some]
        exact ih hparent
      · rw [if_neg hlt, if_neg fun hup => hlt hup.2, write_eq h]

theorem largerChildOf_eq {pq : Pq α} {i : Nat} (hi : 2 * i ≤ pq.size)
    (h : pq.size < pq.avail) :
    largerChildOf pq i = some (largerChild pq.cells pq.size i) := by
  unfold largerChildOf largerChild
  rw [read_eq (by omega)]
  simp only [Option.bind_eq_bind, Option.bind_some]
  by_cases hlt : 2 * i < pq.size
  · rw [if_pos hlt, read_eq (by omega)]
    simp [hlt]
  · simp [hlt]

theorem siftDown_eq {x : α × Int} {fuel : Nat} {pq : Pq α} {i : Nat}
    (h : i < pq.avail) (hsize : pq.size < pq.avail) :
    siftDown x fuel pq i
      = some { pq with cells := percolateDown x pq.size fuel pq.cells i } := by
  induction fuel generalizing pq i with
  | zero => exact write_eq h
  | succ fuel ih =>
    unfold siftDown percolateDown
    by_cases hi : i ≤ pq.size / 2
    · have hchild : largerChild pq.cells pq.size i < pq.avail :=
        Nat.lt_of_le_of_lt (largerChild_bounds pq.cells hi).1 hsize
      rw [if_pos hi, if_pos hi, largerChildOf_eq (by omega) hsize]
      simp only [Option.bind_eq_bind, Option.bind_some]
      rw [read_eq hchild, Option.bind_some]
      by_cases hle : (pq.cells (largerChild pq.cells pq.size i)).2 ≤ x.2
      · rw [if_pos hle, if_pos hle, write_eq h]
      · rw [if_neg hle, if_neg hle, write_eq h, Option.bind_some]
        exact ih hchild hsize
    · rw [if_neg hi, if_neg hi, write_eq h]

theorem lookup_eq [DecidableEq α] {pq : Pq α} {d : α} {i : Nat}
    (h : i < pq.avail) :
    lookup pq d i = some (PQueue.findFrom pq.cells d i) := by
  induction i with
  | zero => rfl
  | succ i ih =>
    unfold lookup PQueue.findFrom
    rw [read_eq h]
    simp only [Option.bind_eq_bind, Option.bind_some]
    split
    · rfl
    · exact ih (by omega)

-- ==== the operations

namespace Sound

variable {pq : Pq α}

def queue (h : Sound pq) : PQueue α := ⟨pq.size - 1, pq.cells, h.ordered⟩

/-- The array after an operation that keeps what is allocated. -/
theorem of_queue (h : Sound pq) (q : PQueue α) {avail : Nat}
    (hq : q.size + 1 ≤ avail) :
    Sound ⟨q.size + 1, avail, pq.step, q.cells⟩ :=
  ⟨by simp, hq, h.grows, q.ordered⟩

theorem insert_eq (h : Sound pq) (d : α) (p : Int) :
    ∃ avail, pq.size + 1 ≤ avail ∧ pqInsert pq d p
      = some ⟨(h.queue.insert d p).size + 1, avail, pq.step,
        (h.queue.insert d p).cells⟩ := by
  have hpos := h.pos
  have hgrows := h.grows
  have hsize : pq.size - 1 + 1 = pq.size := by omega
  unfold pqInsert queue PQueue.insert
  dsimp only
  rw [hsize]
  by_cases hfull : pq.avail ≤ pq.size
  · rw [if_pos hfull]
    refine ⟨pq.size + pq.step, by omega, ?_⟩
    exact siftUp_eq (by show pq.size < pq.size + pq.step; omega)
  · rw [if_neg hfull]
    refine ⟨pq.avail, by omega, ?_⟩
    exact siftUp_eq (by show pq.size < pq.avail; omega)

theorem replace_eq [DecidableEq α] (h : Sound pq) (d : α) (p : Int) :
    ∃ avail, (h.queue.replace d p).size + 1 ≤ avail
      ∧ (avail = pq.avail
        ∨ (h.queue.replace d p).size = h.queue.size + 1)
      ∧ pqReplace pq d p = some ⟨(h.queue.replace d p).size + 1, avail,
        pq.step, (h.queue.replace d p).cells⟩ := by
  have hpos := h.pos
  have hbound := h.inBounds
  have hsize : pq.size - 1 + 1 = pq.size := by omega
  have hfound := (PQueue.findFrom_spec pq.cells d (pq.size - 1)).1
  unfold pqReplace PQueue.replace
  rw [lookup_eq (by omega)]
  simp only [Option.bind_eq_bind, Option.bind_some]
  show ∃ avail, _ ∧ _ ∧ (if PQueue.findFrom pq.cells d (pq.size - 1) = 0 then _
    else _) = _
  by_cases hnone : PQueue.findFrom pq.cells d (pq.size - 1) = 0
  · rw [if_pos hnone, dif_pos (show PQueue.findFrom h.queue.cells d
      h.queue.size = 0 from hnone)]
    obtain ⟨avail, hle, heq⟩ := h.insert_eq d p
    exact ⟨avail, by show pq.size - 1 + 1 + 1 ≤ avail; omega, .inr rfl, heq⟩
  · rw [if_neg hnone, dif_neg (show ¬ PQueue.findFrom h.queue.cells d
      h.queue.size = 0 from hnone), read_eq (by omega), Option.bind_some]
    refine ⟨pq.avail, ?_⟩
    by_cases hlt : (pq.cells (PQueue.findFrom pq.cells d (pq.size - 1))).2 < p
    · rw [if_pos hlt, dif_pos (show (h.queue.cells (PQueue.findFrom
        h.queue.cells d h.queue.size)).2 < p from hlt), siftUp_eq (by omega)]
      show pq.size - 1 + 1 ≤ pq.avail ∧ _
        ∧ _ = some (Pq.mk (pq.size - 1 + 1) _ _ _)
      rw [hsize]
      exact ⟨hbound, .inl rfl, rfl⟩
    · rw [if_neg hlt, dif_neg (show ¬ (h.queue.cells (PQueue.findFrom
        h.queue.cells d h.queue.size)).2 < p from hlt)]
      show pq.size - 1 + 1 ≤ pq.avail ∧ _
        ∧ _ = some (Pq.mk (pq.size - 1 + 1) _ _ _)
      rw [hsize]
      exact ⟨hbound, .inl rfl, rfl⟩

theorem remove_eq (h : Sound pq) :
    (h.queue.remove = none ∧ pqRemove pq = some (none, pq))
      ∨ ∃ d q, h.queue.remove = some (d, q) ∧ q.size + 1 ≤ pq.avail
        ∧ pqRemove pq
          = some (some d, ⟨q.size + 1, pq.avail, pq.step, q.cells⟩) := by
  have hpos := h.pos
  have hbound := h.inBounds
  unfold pqRemove PQueue.remove
  by_cases hempty : pq.size = 1
  · rw [if_pos hempty, dif_pos (show h.queue.size = 0 by
      show pq.size - 1 = 0; omega)]
    exact .inl ⟨rfl, rfl⟩
  · rw [if_neg hempty, if_neg (by omega), dif_neg (show ¬ h.queue.size = 0 by
      show ¬ pq.size - 1 = 0; omega), read_eq (by omega)]
    refine .inr ⟨_, _, rfl, ?_, ?_⟩
    · show pq.size - 1 - 1 + 1 ≤ pq.avail
      omega
    · have hlast : Pq.read { pq with size := pq.size - 1 } (pq.size - 1)
          = some (pq.cells (pq.size - 1)) :=
        read_eq (by show pq.size - 1 < pq.avail; omega)
      simp only [Option.bind_eq_bind, Option.bind_some]
      rw [hlast, Option.bind_some, siftDown_eq
        (by show 1 < pq.avail; omega) (by show pq.size - 1 < pq.avail; omega),
        Option.bind_some]
      show _ = some (_, Pq.mk (pq.size - 1 - 1 + 1) _ _ _)
      rw [show pq.size - 1 - 1 + 1 = pq.size - 1 by omega]
      rfl

theorem correct [DecidableEq α] (h : Sound pq) : Correct pq where
  insert d p := by
    obtain ⟨avail, -, heq⟩ := h.insert_eq d p
    exact ⟨_, heq, h.queue.items_insert d p⟩
  replace d p := by
    obtain ⟨avail, -, hsize, heq⟩ := h.replace_eq d p
    refine ⟨_, heq, ?_⟩
    rcases h.queue.items_replace d p with hnew | ⟨p₀, rest, hold, hcase⟩
    · exact .inl hnew
    · refine .inr ⟨p₀, rest, hold, ?_⟩
      rcases hcase with hraised | ⟨hnot, hsame⟩
      · exact .inl hraised
      · refine .inr ⟨hnot, ?_⟩
        rw [hsame] at hsize ⊢
        have hpos := h.pos
        have hkept : pq.size - 1 + 1 = pq.size := by omega
        rcases hsize with rfl | hgrown
        · show Pq.mk (pq.size - 1 + 1) _ _ _ = _
          rw [hkept]
          rfl
        · omega
  remove := by
    rcases h.remove_eq with ⟨hnone, heq⟩ | ⟨d, q, hsome, -, heq⟩
    · refine ⟨none, pq, heq, ?_, fun _ => rfl, nofun⟩
      exact iff_of_true rfl (PQueue.items_remove_none hnone)
    · obtain ⟨p, hperm, hmax⟩ := PQueue.items_remove hsome
      refine ⟨some d, _, heq, ?_, nofun, ?_⟩
      · refine iff_of_false nofun fun hnil => ?_
        have hnil : h.queue.items = [] := hnil
        rw [hnil] at hperm
        exact List.cons_ne_nil _ _ hperm.nil_eq.symm
      · intro d' hd
        obtain rfl := Option.some.inj hd
        exact ⟨p, hperm, hmax⟩

theorem step [DecidableEq α] {memory : Nat → α × Int} {n : Nat}
    (h : Sound pq) {op : Op α} {q : Pq α}
    (hstep : (system memory n).step pq op = some q) : Sound q := by
  cases op with
  | insert d p =>
    obtain ⟨avail, hle, heq⟩ := h.insert_eq d p
    have hpos := h.pos
    obtain rfl := Option.some.inj (heq.symm.trans hstep)
    exact h.of_queue _ (by show pq.size - 1 + 1 + 1 ≤ avail; omega)
  | replace d p =>
    obtain ⟨avail, hle, -, heq⟩ := h.replace_eq d p
    obtain rfl := Option.some.inj (heq.symm.trans hstep)
    exact h.of_queue _ hle
  | remove =>
    have hstep : (pqRemove pq).map Prod.snd = some q := hstep
    rcases h.remove_eq with ⟨-, heq⟩ | ⟨d, q', -, hle, heq⟩
    · rw [heq] at hstep
      obtain rfl := Option.some.inj hstep
      exact h
    · rw [heq] at hstep
      obtain rfl := Option.some.inj hstep
      exact h.of_queue _ hle

end Sound

theorem sound_new {memory : Nat → α × Int} {n : Nat} (hn : 1 ≤ n) :
    Sound (pqNew memory n) where
  pos := Nat.le_refl 1
  inBounds := hn
  grows := hn
  ordered i hi hle := by
    have hle : i ≤ 0 := hle
    omega

/-- After every run from a new queue the heap is in order within its array,
and each operation does to the entries what it says. -/
theorem priority_queue_sound [DecidableEq α] {n : Nat} (hn : 1 ≤ n)
    (memory : Nat → α × Int) {pq : Pq α}
    (h : (system memory n).Reach pq) : Sound pq ∧ Correct pq := by
  have hsound : Sound pq := by
    refine h.invariant (I := Sound) ?_ fun _ _ _ hs hstep => hs.step hstep
    rintro _ rfl
    exact sound_new hn
  exact ⟨hsound, hsound.correct⟩

/-- Two items in a queue made for one. -/
theorem priority_queue_grown :
    ∃ pq, (system (fun _ => ((0 : Int), 0)) 1).exec
        (pqNew (fun _ => (0, 0)) 1) [.insert 7 3, .insert 8 5] = some pq
      ∧ Sound pq ∧ Correct pq := by
  refine ⟨_, rfl, priority_queue_sound (n := 1) (by decide)
    (fun _ => (0, 0)) ?_⟩
  exact .step (a := .insert 8 5) (.step (a := .insert 7 3) (.init rfl) rfl) rfl

-- ==== the order in which the items leave

/-- `pq_remove` until it returns `FALSE`. -/
def drain : Nat → Pq α → Option (List α)
  | 0, _ => some []
  | fuel + 1, pq => do
    match ← pqRemove pq with
    | (none, _) => some []
    | (some d, pq) => (← drain fuel pq).cons d

theorem Sound.drain_eq [DecidableEq α] {fuel : Nat} {pq : Pq α}
    (h : Sound pq) (hfuel : (entries pq).length ≤ fuel) :
    ∃ l : List (α × Int), drain fuel pq = some (l.map Prod.fst)
      ∧ l.Perm (entries pq) ∧ l.Pairwise fun x y => y.2 ≤ x.2 := by
  induction fuel generalizing pq with
  | zero =>
    rw [List.eq_nil_of_length_eq_zero (Nat.le_zero.mp hfuel)]
    exact ⟨[], rfl, .nil, .nil⟩
  | succ fuel ih =>
    obtain ⟨r, q, heq, hempty, -, htop⟩ := h.correct.remove
    cases r with
    | none =>
      rw [hempty.mp rfl]
      exact ⟨[], by simp [drain, heq], .nil, .nil⟩
    | some d =>
      obtain ⟨p, hperm, hmax⟩ := htop d rfl
      have hq : Sound q := @Sound.step α pq _ pq.cells 0 h .remove q <| by
        show (pqRemove pq).map _ = _
        rw [heq]
        rfl
      have hlen := hperm.length_eq
      rw [List.length_cons] at hlen
      obtain ⟨l, hdrain, hl, hsorted⟩ := ih hq (by omega)
      refine ⟨(d, p) :: l, by simp [drain, heq, hdrain],
        (hl.cons _).trans hperm.symm, .cons (fun y hy => ?_) hsorted⟩
      exact hmax y (hperm.mem_iff.mpr (.tail _ (hl.mem_iff.mp hy)))

/-- Emptied after any run, a queue gives each entry once, the higher
priorities first. -/
theorem drained_by_priority [DecidableEq α] {n : Nat} (hn : 1 ≤ n)
    (memory : Nat → α × Int) {pq : Pq α}
    (h : (system memory n).Reach pq) :
    ∃ l : List (α × Int), drain pq.size pq = some (l.map Prod.fst)
      ∧ l.Perm (entries pq) ∧ l.Pairwise fun x y => y.2 ≤ x.2 := by
  have hsound : Sound pq := by
    refine h.invariant (I := Sound) ?_ fun _ _ _ hs hstep => hs.step hstep
    rintro _ rfl
    exact sound_new hn
  exact hsound.drain_eq (by simp [entries, heapItems])

/-- The two items of the grown queue. -/
theorem drained_by_priority_grown :
    ∃ pq, (system (fun _ => ((0 : Int), 0)) 1).exec
        (pqNew (fun _ => (0, 0)) 1) [.insert 7 3, .insert 8 5] = some pq
      ∧ ∃ l : List (Int × Int), drain pq.size pq = some (l.map Prod.fst)
        ∧ l.Perm (entries pq) ∧ l.Pairwise fun x y => y.2 ≤ x.2 :=
  ⟨_, rfl, drained_by_priority (n := 1) (by decide) (fun _ => (0, 0))
    (.step (a := .insert 8 5) (.step (a := .insert 7 3) (.init rfl) rfl) rfl)⟩

end SpecPq

end Freeciv3d.Server
