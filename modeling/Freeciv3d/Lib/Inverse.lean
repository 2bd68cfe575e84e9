/-
A table and its index: entries under their keys, each with an owner,
and for every owner the key of its one entry. The two dicts are
`Inverse` when the index answers `k` for an owner exactly if the entry
under `k` is the owner's; then no owner has two entries, and none is
missing from the index.

# How it is kept

An entry may change in place as long as its owner stays. One is added
for an owner that has none, under a new key; entries go together with
the index entries of their owners.
-/
import Freeciv3d.Lib.Dict

namespace Lib

/-- The index has each owner's one key. -/
def Inverse {κ ν α : Type} [DecidableEq κ] [DecidableEq α]
    (table : Dict κ ν) (index : Dict α κ) (owner : ν → α) : Prop :=
  ∀ a k, index.get? a = some k ↔ ∃ v, table.get? k = some v ∧ owner v = a

namespace Inverse

variable {κ ν α : Type} [DecidableEq κ] [DecidableEq α]
  {table : Dict κ ν} {index : Dict α κ} {owner : ν → α}

theorem empty : Inverse (∅ : Dict κ ν) (∅ : Dict α κ) owner := by
  intro a k
  simp [Dict.get?_empty]

/-- The index knows every entry. -/
theorem get?_owner (h : Inverse table index owner) {k : κ} {v : ν}
    (hv : table.get? k = some v) : index.get? (owner v) = some k :=
  (h _ _).mpr ⟨v, hv, rfl⟩

/-- An owner has one entry. -/
theorem key_unique (h : Inverse table index owner) {k k' : κ} {v v' : ν}
    (hv : table.get? k = some v) (hv' : table.get? k' = some v')
    (ho : owner v' = owner v) : k' = k := by
  have hk := h.get?_owner hv
  have hk' := h.get?_owner hv'
  rw [ho, hk] at hk'
  cases hk'
  rfl

/-- What the index answers is in the table. -/
theorem get?_of_index (h : Inverse table index owner) {a : α} {k : κ}
    (hk : index.get? a = some k) :
    ∃ v, table.get? k = some v ∧ owner v = a :=
  (h a k).mp hk

/-- An entry changes and keeps its owner. -/
theorem update (h : Inverse table index owner) {k : κ} {v v' : ν}
    (hv : table.get? k = some v) (ho : owner v' = owner v) :
    Inverse (table.set k v') index owner := by
  intro a k'
  rw [h a k', Dict.get?_set]
  by_cases hk : k' = k
  · subst hk
    rw [if_pos rfl]
    constructor
    · rintro ⟨u, hu, rfl⟩
      rw [hv] at hu
      cases hu
      exact ⟨v', rfl, ho⟩
    · rintro ⟨u, hu, rfl⟩
      cases hu
      exact ⟨v, hv, ho.symm⟩
  · rw [if_neg hk]

/-- An owner that has no entry gets one. -/
theorem insert (h : Inverse table index owner) {k : κ} {v : ν}
    (hk : table.get? k = none) (ho : index.get? (owner v) = none) :
    Inverse (table.set k v) (index.set (owner v) k) owner := by
  intro a k'
  rw [Dict.get?_set, Dict.get?_set]
  by_cases ha : a = owner v
  · subst ha
    rw [if_pos rfl]
    constructor
    · rintro hk'
      cases hk'
      rw [if_pos rfl]
      exact ⟨v, rfl, rfl⟩
    · rintro ⟨u, hu, hou⟩
      split at hu
      case isTrue hkk => rw [hkk]
      case isFalse =>
        rw [(h _ _).mpr ⟨u, hu, hou⟩] at ho
        cases ho
  · rw [if_neg ha, h a k']
    by_cases hkk : k' = k
    · subst hkk
      rw [if_pos rfl]
      constructor
      · rintro ⟨u, hu, -⟩
        rw [hk] at hu
        cases hu
      · rintro ⟨u, hu, hou⟩
        cases hu
        exact absurd hou.symm ha
    · rw [if_neg hkk]

/-- An entry goes, and its owner from the index. -/
theorem remove (h : Inverse table index owner) {k : κ} {v : ν}
    (hv : table.get? k = some v) :
    Inverse (table.erase k) (index.erase (owner v)) owner := by
  intro a k'
  rw [Dict.get?_erase, Dict.get?_erase]
  by_cases ha : a = owner v
  · rw [if_pos ha]
    constructor
    · intro hc
      cases hc
    · rintro ⟨u, hu, hou⟩
      split at hu
      case isTrue => cases hu
      case isFalse hkk =>
        exact absurd (h.key_unique hv hu (hou.trans ha)) hkk
  · rw [if_neg ha, h a k']
    by_cases hkk : k' = k
    · subst hkk
      rw [if_pos rfl]
      constructor
      · rintro ⟨u, hu, hou⟩
        rw [hv] at hu
        cases hu
        exact absurd hou.symm ha
      · rintro ⟨u, hu, -⟩
        cases hu
    · rw [if_neg hkk]

/-- The entries that satisfy `p` go, and their owners from the index. -/
theorem removeAll (h : Inverse table index owner) (p : ν → Bool) :
    Inverse (table.filter fun _ v => !p v)
      (index.filter fun a _ =>
        !table.values.any fun v => p v && decide (owner v = a)) owner := by
  intro a k
  rw [Dict.get?_filter, Dict.get?_filter]
  simp only [Option.filter_eq_some_iff]
  rw [h a k]
  constructor
  · rintro ⟨⟨v, hv, rfl⟩, hnone⟩
    refine ⟨v, ⟨hv, ?_⟩, rfl⟩
    simp only [Bool.not_eq_true', List.any_eq_false, Dict.mem_values_iff]
      at hnone ⊢
    have hv' := hnone v ⟨k, hv⟩
    simpa using hv'
  · rintro ⟨v, ⟨hv, hp⟩, rfl⟩
    refine ⟨⟨v, hv, rfl⟩, ?_⟩
    simp only [Bool.not_eq_true', List.any_eq_false, Dict.mem_values_iff]
      at hp ⊢
    rintro u ⟨k', hu⟩
    simp only [Bool.and_eq_true, decide_eq_true_eq, not_and]
    intro hpu hou
    have hkk := h.key_unique hv hu hou
    rw [hkk, hv] at hu
    cases hu
    rw [hp] at hpu
    cases hpu

end Inverse

end Lib
