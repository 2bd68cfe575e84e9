/-
Items of a list numbered in order, each number kept under a key of its
item. In an ordered list under different keys an item's number is its rank,
the number of items before it. Under an acyclic relation the rank of an item
is the number of those it leads to, and carries an induction.
-/
import Mathlib.Data.Set.Card
import Mathlib.Logic.Function.Basic
import Mathlib.Logic.Relation

namespace Lib

variable {α β κ : Type} [DecidableEq κ]

/-- The items numbered from `i` on, over the numbers already kept. -/
def numberFrom (key : α → κ) :
    List α → Nat → (κ → Option Nat) → κ → Option Nat
  | [], _, kept => kept
  | a :: rest, i, kept =>
    numberFrom key rest (i + 1) (Function.update kept (key a) (some i))

theorem numberFrom_of_notMem {key : α → κ} {l : List α} {i : Nat}
    {kept : κ → Option Nat} {k : κ} (h : k ∉ l.map key) :
    numberFrom key l i kept k = kept k := by
  induction l generalizing i kept with
  | nil => rfl
  | cons a rest ih =>
    rw [List.map_cons, List.mem_cons, not_or] at h
    show numberFrom key rest (i + 1) _ k = _
    rw [ih h.2, Function.update_of_ne h.1]

/-- The number of an item is what stands before it. -/
theorem numberFrom_eq {key : α → κ} {r : α → α → Prop} [DecidableRel r]
    (hasymm : ∀ a b, r a b → ¬ r b a) {l : List α} (hl : l.Pairwise r)
    (hkey : (l.map key).Nodup) {i : Nat} {kept : κ → Option Nat} {v : α}
    (hv : v ∈ l) :
    numberFrom key l i kept (key v) = some (i + l.countP (r · v)) := by
  induction l generalizing i kept with
  | nil => cases hv
  | cons a rest ih =>
    obtain ⟨hfirst, hrest⟩ := List.pairwise_cons.mp hl
    obtain ⟨ha, hkeys⟩ := List.nodup_cons.mp hkey
    show numberFrom key rest (i + 1) _ (key v) = _
    rcases List.mem_cons.mp hv with rfl | hv
    · have hnone : (v :: rest).countP (r · v) = 0 := by
        rw [List.countP_eq_zero]
        intro w hw
        rcases List.mem_cons.mp hw with rfl | hw
        · simpa using fun h => hasymm w w h h
        · simpa using hasymm v w (hfirst w hw)
      rw [numberFrom_of_notMem ha, Function.update_self, hnone]
      rfl
    · rw [ih hrest hkeys hv, List.countP_cons_of_pos (by
        simpa using hfirst v hv)]
      congr 1
      omega

/-- A count over a list is the size of a set. -/
theorem countP_eq_ncard {f : α → β} {p : α → Bool} {l : List α}
    (hl : (l.map f).Nodup) :
    l.countP p = {b | ∃ a ∈ l, p a ∧ f a = b}.ncard := by
  classical
  have hset : {b | ∃ a ∈ l, p a ∧ f a = b}
      = ((l.filter p).map f).toFinset := by
    ext b
    simp [and_assoc]
  rw [hset, Set.ncard_coe_finset, List.toFinset_card_of_nodup
    (hl.sublist (List.filter_sublist.map f)), List.length_map,
    List.countP_eq_length_filter]

-- ==== acyclic relations

/-- Whoever leads to an item leads to more than it does. -/
theorem ncard_reached_lt {r : α → α → Prop} {p : α → Prop}
    (hfinite : {x | p x}.Finite) {a b : α} (hb : p b)
    (hacyclic : ¬ Relation.TransGen r b b) (h : Relation.TransGen r a b) :
    {x | p x ∧ Relation.TransGen r b x}.ncard
      < {x | p x ∧ Relation.TransGen r a x}.ncard := by
  refine Set.ncard_lt_ncard ?_ (hfinite.subset fun x hx => hx.1)
  refine ⟨fun x hx => ⟨hx.1, h.trans hx.2⟩, fun hsub => hacyclic ?_⟩
  have hmem : b ∈ {x | p x ∧ Relation.TransGen r b x} := hsub ⟨hb, h⟩
  exact hmem.2

/-- What holds of an item when it holds of all it leads to holds of all. -/
theorem acyclic_induction {r : α → α → Prop} {p C : α → Prop}
    (hfinite : {x | p x}.Finite)
    (hacyclic : ∀ a, ¬ Relation.TransGen r a a)
    (step : ∀ a, p a → (∀ b, p b → Relation.TransGen r a b → C b) → C a)
    {a : α} (ha : p a) : C a := by
  generalize hn : {x | p x ∧ Relation.TransGen r a x}.ncard = n
  induction n using Nat.strongRecOn generalizing a with
  | ind n ih =>
    refine step a ha fun b hb hab => ih _ ?_ hb rfl
    rw [← hn]
    exact ncard_reached_lt hfinite hb (hacyclic b) hab

end Lib
