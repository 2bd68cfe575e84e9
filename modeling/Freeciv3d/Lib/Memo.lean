/-
Memo tables: answers kept under keys, to be given again. A table is
coherent with a function when every kept answer that may still be asked
for is the function's.

A question asks under one key (`ask`) and leaves a coherent table
coherent. What the table does not see is that the function changes;
`Coherent.transfer` is what has to be shown then: the kept answers that
may be asked for do not change.

# Last use

Ordered dicts that keep their entries by last use: the entry used last
stands last, and making room takes from the front.

A run numbers its uses. `InOrder` says that the numbers of the entries'
last uses increase along the dict; a use puts its entry last, under the
next number (`InOrder.touch`), and whatever else is done leaves a
sublist (`InOrder.sublist`). So what is taken from the front was used
before all that stays (`InOrder.lt_of_take_drop`).
-/
import Mathlib.Logic.Function.Basic
import Freeciv3d.Lib.Dict

namespace Lib

namespace Memo

variable {κ ν : Type} [DecidableEq κ]
variable {d : Dict κ ν} {live live' : κ → Prop} {f g : κ → ν} {k : κ}

/-- The kept answer, or this one, which is kept. -/
def ask (d : Dict κ ν) (k : κ) (answer : ν) : Dict κ ν × ν :=
  match d.get? k with
  | some kept => (d, kept)
  | none => (d.set k answer, answer)

/-- The kept answers under live keys are those of the function. -/
def Coherent (live : κ → Prop) (d : Dict κ ν) (f : κ → ν) : Prop :=
  ∀ k kept, live k → d.get? k = some kept → kept = f k

theorem Coherent.empty : Coherent live (∅ : Dict κ ν) f := by
  intro k kept _ hk
  cases hk

theorem Coherent.ask_snd (h : Coherent live d f) (hk : live k) :
    (ask d k (f k)).2 = f k := by
  unfold ask
  split
  case h_1 kept hkept => exact h k kept hk hkept
  case h_2 => rfl

theorem Coherent.ask_fst (h : Coherent live d f) :
    Coherent live (ask d k (f k)).1 f := by
  unfold ask
  split
  case h_1 => exact h
  case h_2 =>
    intro k' kept hlive hkept
    rw [Dict.get?_set] at hkept
    split at hkept
    case isTrue hk' =>
      cases hkept
      rw [hk']
    case isFalse => exact h k' kept hlive hkept

/-- Another function, and other live keys. -/
theorem Coherent.transfer (h : Coherent live d f)
    (hsame : ∀ k kept, live' k → d.get? k = some kept →
      live k ∧ f k = g k) : Coherent live' d g := by
  intro k kept hlive hkept
  obtain ⟨hlive', hfg⟩ := hsame k kept hlive hkept
  rw [← hfg]
  exact h k kept hlive' hkept

/-- Only the answers that stay have to be those of the new function. -/
theorem Coherent.evict (h : Coherent live d f) {stays : κ → ν → Bool}
    (hsame : ∀ k kept, stays k kept = true → live' k →
      d.get? k = some kept → live k ∧ f k = g k) :
    Coherent live' (d.filter stays) g := by
  intro k kept hlive hkept
  rw [Dict.get?_filter] at hkept
  obtain ⟨hold, hstays⟩ := Option.filter_eq_some_iff.mp hkept
  obtain ⟨hlive', hfg⟩ := hsame k kept hstays hlive hold
  rw [← hfg]
  exact h k kept hlive' hold

end Memo

-- ==== last use

namespace Recency

variable {κ ν : Type}
variable {used : κ → Nat} {count : Nat} {l l' : List (κ × ν)} {k : κ}

/-- The last uses increase along the list. -/
def InOrder (used : κ → Nat) (l : List (κ × ν)) : Prop :=
  l.Pairwise fun a b => used a.1 < used b.1

/-- All last uses have numbers that were given. -/
def UsedBefore (used : κ → Nat) (count : Nat) (l : List (κ × ν)) : Prop :=
  ∀ e ∈ l, used e.1 < count

theorem InOrder.sublist (h : InOrder used l) (hsub : l'.Sublist l) :
    InOrder used l' := List.Pairwise.sublist hsub h

theorem UsedBefore.sublist (h : UsedBefore used count l)
    (hsub : l'.Sublist l) : UsedBefore used count l' :=
  fun e he => h e (hsub.subset he)

theorem UsedBefore.succ (h : UsedBefore used count l) :
    UsedBefore used (count + 1) l :=
  fun e he => Nat.lt_succ_of_lt (h e he)

/-- What is taken from the front was used before what stays. -/
theorem InOrder.lt_of_take_drop (h : InOrder used l) {n : Nat}
    {a b : κ × ν} (ha : a ∈ l.take n) (hb : b ∈ l.drop n) :
    used a.1 < used b.1 := by
  rw [InOrder, ← List.take_append_drop n l, List.pairwise_append] at h
  exact h.2.2 a ha b hb

variable [DecidableEq κ]

/-- A use of `k` is the last one. -/
theorem InOrder.touch (h : InOrder used l) (hbefore : UsedBefore used count l)
    (hnew : ∀ e ∈ l, e.1 ≠ k) (v : ν) :
    InOrder (Function.update used k count) (l ++ [(k, v)]) := by
  refine List.pairwise_append.mpr
    ⟨?_, List.pairwise_singleton _ _, fun a ha b hb => ?_⟩
  · refine List.Pairwise.imp_of_mem (fun {a b} ha hb hab => ?_) h
    rw [Function.update_of_ne (hnew a ha), Function.update_of_ne (hnew b hb)]
    exact hab
  · cases List.mem_singleton.mp hb
    rw [Function.update_self, Function.update_of_ne (hnew a ha)]
    exact hbefore a ha

theorem UsedBefore.touch (hbefore : UsedBefore used count l)
    (hnew : ∀ e ∈ l, e.1 ≠ k) (v : ν) :
    UsedBefore (Function.update used k count) (count + 1)
      (l ++ [(k, v)]) := by
  intro e he
  rcases List.mem_append.mp he with hold | hlast
  · rw [Function.update_of_ne (hnew e hold)]
    exact Nat.lt_succ_of_lt (hbefore e hold)
  · cases List.mem_singleton.mp hlast
    rw [Function.update_self]
    exact Nat.lt_succ_self count

end Recency

end Lib
