/-
Computations that change a state and may stop with an error, the state
kept as it was when they stopped: `ExceptT ε (StateM σ)`. A request
handler is one: a row of checks, each of which may answer and return.

# The rules

`eval_…` say what each piece does; `Passes` says that a computation
gets to its end and with what, and is taken apart check by check
(`passes_bind`, `passes_require`, `passes_ofExcept`). `Frame f x` says
that `x` leaves the part `f` of the state as it was, however it ends.
-/
import Mathlib.Tactic.Common

namespace Lib

/-- A computation over a state `σ` that may stop with an `ε`. -/
abbrev Guarded (ε σ α : Type) := ExceptT ε (StateM σ) α

namespace Guarded

variable {ε ε' σ τ α β : Type}

/-- Run from a state: the outcome, and the state it ends in. -/
def eval (x : Guarded ε σ α) (s : σ) : Except ε α × σ := x.run.run s

/-- Go on only if the check holds. -/
def require (c : Prop) [Decidable c] (e : ε) : Guarded ε σ Unit :=
  if c then pure () else throw e

/-- Go on with a result; an error becomes this computation's. -/
def ofExcept (f : ε' → ε) : Except ε' α → Guarded ε σ α
  | .ok a => pure a
  | .error e => throw (f e)

/-- Go on with what is there. -/
def ofOption (e : ε) : Option α → Guarded ε σ α
  | some a => pure a
  | none => throw e

/-- A step of the state with an answer. -/
def step (f : σ → α × σ) : Guarded ε σ α :=
  ExceptT.lift (modifyGet f)

-- ==== evaluation

@[simp] theorem eval_pure (a : α) (s : σ) :
    (pure a : Guarded ε σ α).eval s = (.ok a, s) := rfl

@[simp] theorem eval_throw (e : ε) (s : σ) :
    (throw e : Guarded ε σ α).eval s = (.error e, s) := rfl

@[simp] theorem eval_step (f : σ → α × σ) (s : σ) :
    (step f : Guarded ε σ α).eval s = (.ok (f s).1, (f s).2) := rfl

theorem eval_bind (x : Guarded ε σ α) (f : α → Guarded ε σ β) (s : σ) :
    (x >>= f).eval s = match x.eval s with
      | (.ok a, t) => (f a).eval t
      | (.error e, t) => (.error e, t) := by
  show (match x.eval s with
    | (r, t) => StateT.run (ExceptT.bindCont f r) t) = _
  rcases x.eval s with ⟨r, t⟩
  cases r <;> rfl

-- ==== passing

/-- From `s` the computation gets to its end, with `a`, in `t`. -/
def Passes (x : Guarded ε σ α) (s : σ) (a : α) (t : σ) : Prop :=
  x.eval s = (.ok a, t)

theorem passes_pure {a b : α} {s t : σ} :
    (pure a : Guarded ε σ α).Passes s b t ↔ a = b ∧ s = t := by
  unfold Passes
  simp

theorem passes_bind {x : Guarded ε σ α} {f : α → Guarded ε σ β} {s u : σ}
    {b : β} :
    (x >>= f).Passes s b u
      ↔ ∃ a t, x.Passes s a t ∧ (f a).Passes t b u := by
  unfold Passes
  rw [eval_bind]
  rcases hx : x.eval s with ⟨r, t⟩
  cases r with
  | ok a =>
    constructor
    · intro h
      exact ⟨a, t, rfl, h⟩
    · intro hp
      rcases hp with ⟨a', t', heq, h⟩
      cases heq
      exact h
  | error e => simp

theorem passes_require {c : Prop} [Decidable c] {e : ε} {s t : σ} {u : Unit} :
    (require c e : Guarded ε σ Unit).Passes s u t ↔ c ∧ s = t := by
  unfold Passes require
  by_cases hc : c <;> simp [hc]

theorem passes_ofExcept {f : ε' → ε} {r : Except ε' α} {s t : σ} {a : α} :
    (ofExcept f r : Guarded ε σ α).Passes s a t ↔ r = .ok a ∧ s = t := by
  unfold Passes ofExcept
  cases r <;> simp

theorem passes_ofOption {e : ε} {r : Option α} {s t : σ} {a : α} :
    (ofOption e r : Guarded ε σ α).Passes s a t ↔ r = some a ∧ s = t := by
  unfold Passes ofOption
  cases r <;> simp

theorem passes_step {f : σ → α × σ} {s t : σ} {a : α} :
    (step f : Guarded ε σ α).Passes s a t ↔ (f s).1 = a ∧ (f s).2 = t := by
  unfold Passes
  simp

-- ==== frames

/-- However the computation ends, `f` of the state is as before. -/
def Frame (f : σ → τ) (x : Guarded ε σ α) : Prop :=
  ∀ s, f (x.eval s).2 = f s

variable {f : σ → τ}

theorem Frame.bind {x : Guarded ε σ α} {g : α → Guarded ε σ β}
    (hx : Frame f x) (hg : ∀ a, Frame f (g a)) : Frame f (x >>= g) := by
  intro s
  rw [eval_bind]
  have hs := hx s
  rcases hr : x.eval s with ⟨r, t⟩
  rw [hr] at hs
  cases r with
  | ok a => exact (hg a t).trans hs
  | error e => exact hs

theorem Frame.pure (a : α) : Frame f (Pure.pure a : Guarded ε σ α) :=
  fun _ => rfl

theorem Frame.require (c : Prop) [Decidable c] (e : ε) :
    Frame f (Guarded.require c e : Guarded ε σ Unit) := by
  intro s
  unfold Guarded.require
  split <;> rfl

theorem Frame.ofExcept (g : ε' → ε) (r : Except ε' α) :
    Frame f (Guarded.ofExcept g r : Guarded ε σ α) := by
  intro s
  cases r <;> rfl

theorem Frame.ofOption (e : ε) (r : Option α) :
    Frame f (Guarded.ofOption e r : Guarded ε σ α) := by
  intro s
  cases r <;> rfl

theorem Frame.step {g : σ → α × σ} (h : ∀ s, f (g s).2 = f s) :
    Frame f (Guarded.step g : Guarded ε σ α) := h

end Guarded

end Lib
