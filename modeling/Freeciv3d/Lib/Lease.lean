/-
Leases: a pool hands resources out to owners, and a party keeps a local
table of which owner has which resource. The table is filled from what
the pool handed out, but also from elsewhere, and a resource may go
back to the pool while the table still lists it.

# The rule

Under the `Careful` operations no resource is ever listed for two
owners (`Safe.exclusive`): an entry is created only for a resource that
is out to its owner, and the pool hands a resource out only when no
other owner is still listed with it. Going back to the pool and
dropping entries are free.
-/
import Mathlib.Logic.Function.Basic

namespace Lib

/-- A local table of owners and what the pool has handed out. -/
structure Leases (κ ρ : Type) where
  table : κ → Option ρ
  out : ρ → Option κ

/-- The operations of the party and of the pool. -/
inductive LeaseOp (κ ρ : Type) where
  | create (k : κ) (r : ρ)
  | drop (k : κ)
  | handOut (r : ρ) (k : κ)
  | giveBack (r : ρ)

namespace Leases

variable {κ ρ : Type} [DecidableEq κ] [DecidableEq ρ]

/-- One operation. -/
def apply (l : Leases κ ρ) : LeaseOp κ ρ → Leases κ ρ
  | .create k r => { l with table := Function.update l.table k (some r) }
  | .drop k => { l with table := Function.update l.table k none }
  | .handOut r k => { l with out := Function.update l.out r (some k) }
  | .giveBack r => { l with out := Function.update l.out r none }

/-- What is asked of an operation. -/
def Careful (l : Leases κ ρ) : LeaseOp κ ρ → Prop
  | .create k r => l.out r = some k
  | .drop _ => True
  | .handOut r k => ∀ k', l.table k' = some r → k' = k
  | .giveBack _ => True

/-- No resource is listed twice, and one that is out is listed for no
other owner. -/
structure Safe (l : Leases κ ρ) : Prop where
  exclusive : ∀ k k' r, l.table k = some r → l.table k' = some r → k = k'
  held : ∀ r k k', l.out r = some k → l.table k' = some r → k' = k

omit [DecidableEq κ] [DecidableEq ρ] in
theorem safe_empty :
    Safe (⟨fun _ => none, fun _ => none⟩ : Leases κ ρ) := by
  refine ⟨?_, ?_⟩
  · intro k k' r h
    cases h
  · intro r k k' h
    cases h

/-- Careful operations keep the table safe. -/
theorem Safe.apply {l : Leases κ ρ} (h : Safe l) {op : LeaseOp κ ρ}
    (hop : Careful l op) : Safe (l.apply op) := by
  cases op with
  | create k r =>
    have hheld : ∀ k', l.table k' = some r → k' = k :=
      fun k' => h.held r k k' hop
    have hold : ∀ {k' r'}, k' ≠ k →
        Function.update l.table k (some r) k' = some r' →
        l.table k' = some r' := by
      intro k' r' hne hk'
      rwa [Function.update_of_ne hne] at hk'
    refine ⟨?_, ?_⟩
    · intro a b r' ha hb
      change Function.update l.table k (some r) a = some r' at ha
      change Function.update l.table k (some r) b = some r' at hb
      by_cases hak : a = k <;> by_cases hbk : b = k
      · rw [hak, hbk]
      · subst hak
        rw [Function.update_self] at ha
        cases ha
        exact (hheld b (hold hbk hb)).symm
      · subst hbk
        rw [Function.update_self] at hb
        cases hb
        exact hheld a (hold hak ha)
      · exact h.exclusive a b r' (hold hak ha) (hold hbk hb)
    · intro r' a b hr' hb
      change l.out r' = some a at hr'
      change Function.update l.table k (some r) b = some r' at hb
      by_cases hbk : b = k
      · subst hbk
        rw [Function.update_self] at hb
        cases hb
        have hop' : l.out r = some b := hop
        rw [hop'] at hr'
        exact Option.some.inj hr'
      · exact h.held r' a b hr' (hold hbk hb)
  | drop k =>
    have hold : ∀ {k' r'}, Function.update l.table k none k' = some r' →
        l.table k' = some r' := by
      intro k' r' hk'
      by_cases hkk : k' = k
      · subst hkk
        rw [Function.update_self] at hk'
        cases hk'
      · rwa [Function.update_of_ne hkk] at hk'
    exact ⟨fun a b r' ha hb => h.exclusive a b r' (hold ha) (hold hb),
      fun r' a b hr' hb => h.held r' a b hr' (hold hb)⟩
  | handOut r k =>
    refine ⟨h.exclusive, ?_⟩
    intro r' a b hr' hb
    change Function.update l.out r (some k) r' = some a at hr'
    by_cases hr : r' = r
    · subst hr
      rw [Function.update_self] at hr'
      cases hr'
      exact hop b hb
    · rw [Function.update_of_ne hr] at hr'
      exact h.held r' a b hr' hb
  | giveBack r =>
    refine ⟨h.exclusive, ?_⟩
    intro r' a b hr' hb
    change Function.update l.out r none r' = some a at hr'
    by_cases hr : r' = r
    · subst hr
      rw [Function.update_self] at hr'
      cases hr'
    · rw [Function.update_of_ne hr] at hr'
      exact h.held r' a b hr' hb

end Leases

end Lib
