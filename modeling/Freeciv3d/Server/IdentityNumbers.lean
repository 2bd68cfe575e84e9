/-
Identity numbers (server/srv_main.c): one counter and one bit vector
number the cities and the units. A number is released when its unit is
removed (`unit_deallocate`), a city's never is. The numbers of a saved
game are left out.
-/
import Mathlib.Data.List.Perm.Basic
import Freeciv3d.Lib.Lts

namespace Freeciv3d.Server

namespace IdentityNumbers

open Lib Function

-- ==== the code

/-- `IDENTITY_NUMBER_SIZE`. -/
def size : Nat := 250000

structure Numbers where
  identityNumber : Nat
  used : Nat → Bool

/-- `server_game_init`: `IDENTITY_NUMBER_SKIP`, with
`IDENTITY_NUMBER_ZERO` reserved. -/
def serverGameInit : Numbers := ⟨100, fun id => id == 0⟩

def identityNumberRelease (n : Numbers) (id : Nat) : Numbers :=
  { n with used := update n.used id false }

def identityNumberReserve (n : Numbers) (id : Nat) : Numbers :=
  { n with used := update n.used id true }

def incrementIdentityNumber (n : Numbers) : Numbers :=
  { n with identityNumber := (n.identityNumber + 1) % size }

/-- The loop of `identity_number`, with the retries that are left; `none`
is the assertion that always fails. -/
def search : Nat → Numbers → Option Numbers
  | 0, _ => none
  | retries + 1, n =>
    let next := incrementIdentityNumber n
    if next.used next.identityNumber then search retries next
    else some (identityNumberReserve next next.identityNumber)

/-- The number returned is the counter's. -/
def identityNumber (n : Numbers) : Option Numbers := search size n

-- ==== the runs

/-- The numbers, with those that cities and units hold. -/
structure World where
  numbers : Numbers
  held : List Nat

inductive Act where
  | create
  | remove (id : Nat)

def numbering : Lts World Act where
  init w := w = ⟨serverGameInit, []⟩
  step w
    | .create => (identityNumber w.numbers).map fun n =>
        ⟨n, n.identityNumber :: w.held⟩
    | .remove id =>
      if id ∈ w.held then
        some ⟨identityNumberRelease w.numbers id, w.held.erase id⟩
      else none

/-- The bits set are that of 0 and those of the numbers held. -/
structure Numbered (w : World) : Prop where
  counter : w.numbers.identityNumber < size
  used : ∀ id, w.numbers.used id = true ↔ id = 0 ∨ id ∈ w.held
  below : ∀ id ∈ w.held, id < size
  nodup : (0 :: w.held).Nodup

-- ==== the search

theorem search_eq_some {retries : Nat} {n n' : Numbers}
    (h : search retries n = some n') :
    n.used n'.identityNumber = false ∧ n'.identityNumber < size
      ∧ n'.used = update n.used n'.identityNumber true := by
  induction retries generalizing n with
  | zero => cases h
  | succ retries ih =>
    simp only [search] at h
    split at h
    case isTrue => exact ih (n := incrementIdentityNumber n) h
    case isFalse hfree =>
      cases h
      exact ⟨Bool.eq_false_iff.mpr hfree, Nat.mod_lt _ (by decide), rfl⟩

theorem search_eq_none {retries : Nat} {n : Numbers}
    (h : search retries n = none) {k : Nat} (hk : k < retries) :
    n.used ((n.identityNumber + 1 + k) % size) = true := by
  induction retries generalizing n k with
  | zero => exact absurd hk k.not_lt_zero
  | succ retries ih =>
    simp only [search] at h
    split at h
    case isFalse => cases h
    case isTrue hused =>
      cases k with
      | zero => exact hused
      | succ k =>
        have hnext : n.used (((n.identityNumber + 1) % size + 1 + k) % size)
            = true := ih h (Nat.lt_of_succ_lt_succ hk)
        rwa [Nat.add_assoc, Nat.mod_add_mod, Nat.add_comm 1 k] at hnext

/-- The search gives up when every number is used. -/
theorem used_of_eq_none {n : Numbers} (hn : n.identityNumber < size)
    (h : identityNumber n = none) {id : Nat} (hid : id < size) :
    n.used id = true := by
  -- `id` is so many numbers behind the counter
  have hbehind : (n.identityNumber + 1
      + (id + size - (n.identityNumber + 1)) % size) % size = id := by
    rw [Nat.add_mod_mod, Nat.add_sub_cancel' (by omega), Nat.add_mod_right,
      Nat.mod_eq_of_lt hid]
  exact hbehind ▸ search_eq_none h (Nat.mod_lt _ (by decide))

namespace Numbered

variable {w w' : World}

theorem fresh (h : Numbered w) {n : Numbers}
    (hn : identityNumber w.numbers = some n) :
    n.identityNumber ∉ 0 :: w.held := by
  rw [List.mem_cons, ← h.used, (search_eq_some hn).1]
  exact Bool.false_ne_true

theorem step {a : Act} (h : Numbered w)
    (hs : numbering.step w a = some w') : Numbered w' := by
  cases a with
  | create =>
    obtain ⟨n, hn, rfl⟩ := Option.map_eq_some_iff.mp hs
    obtain ⟨-, hlt, hused⟩ := search_eq_some hn
    refine ⟨hlt, fun id => ?_, List.forall_mem_cons.mpr ⟨hlt, h.below⟩,
      (List.Perm.swap _ _ _).nodup_iff.mp
        (List.nodup_cons.mpr ⟨h.fresh hn, h.nodup⟩)⟩
    show n.used id = true ↔ id = 0 ∨ id ∈ n.identityNumber :: w.held
    rw [hused, List.mem_cons]
    by_cases hid : id = n.identityNumber
    · simp [hid]
    · rw [update_of_ne hid, h.used, or_iff_right hid]
  | remove id =>
    obtain ⟨hid, heq⟩ := Option.ite_none_right_eq_some.mp hs
    cases heq
    obtain ⟨hzero, hnodup⟩ := List.nodup_cons.mp h.nodup
    refine ⟨h.counter, fun i => ?_,
      fun i hi => h.below i (List.mem_of_mem_erase hi),
      h.nodup.sublist (w.held.erase_sublist.cons_cons 0)⟩
    show update w.numbers.used id false i = true ↔ i = 0 ∨ i ∈ w.held.erase id
    by_cases hi : i = id
    · have hne : i ≠ 0 := fun h0 => hzero (h0 ▸ hi ▸ hid)
      simp [hi ▸ hne, hi, hnodup.not_mem_erase]
    · rw [update_of_ne hi, h.used, List.mem_erase_of_ne hi]

end Numbered

/-- In every run the numbers of the cities and units are distinct, none is
0 or out of the range, and the search for one more fails exactly when all
the others are held. -/
theorem identity_numbers_distinct {w : World} (h : numbering.Reach w) :
    (0 :: w.held).Nodup ∧ (∀ id ∈ w.held, id < size)
      ∧ (identityNumber w.numbers = none
        ↔ ∀ id < size, id = 0 ∨ id ∈ w.held) := by
  have hw : Numbered w := by
    refine h.invariant (I := Numbered) ?_ fun _ _ _ => Numbered.step
    rintro _ rfl
    exact ⟨by decide, by simp [serverGameInit], by simp, by simp⟩
  refine ⟨hw.nodup, hw.below, fun hnone id hid =>
    (hw.used id).mp (used_of_eq_none hw.counter hnone hid), fun hall => ?_⟩
  refine Option.eq_none_iff_forall_ne_some.mpr fun n hn => hw.fresh hn ?_
  exact List.mem_cons.mpr (hall _ (search_eq_some hn).2.1)

/-- The first number is released, and not given again at once. -/
theorem identity_numbers_distinct_released :
    (0 :: [102]).Nodup :=
  (identity_numbers_distinct (w := ⟨_, [102]⟩) (Lts.Reach.exec (.init rfl)
    (l := [.create, .remove 101, .create]) rfl)).1

end IdentityNumbers

end Freeciv3d.Server
