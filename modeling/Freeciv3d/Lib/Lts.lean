/-
Labelled transition systems with a partial step function. A label
carries every outcome the program does not decide itself (what a
network call answers, which socket listens), so a step is a function
of state and label, and an interleaving of several parties is a list
of labels.

# The two rules

`Reach.invariant` is the induction "holds initially, kept by every
step". `ReachVia` restricts the runs to those whose steps all meet a
condition on the state before the step and the label;
`ReachVia.invariant` is its induction. A property that holds of
the system only while one branch is not taken is stated over
`ReachVia`.

# Mirrors

A mirror that is told of changes by messages which nothing overtakes.
Each message goes with the state it was sent in; what the receiver does
with the messages on their way decides whether it keeps up.

# Unwinding

Noninterference by unwinding, for runs under a condition.

An observer sees a label as `see` shows it, or not at all. Two runs are
the same to it when they show it the same labels. An `Unwinding` is a
relation on states that a step it does not see keeps, and that two
steps it sees alike keep together; each step may use the condition its
run is under. `Unwinding.runs` is the induction: runs that look the
same end in related states.
-/
import Mathlib.Tactic.Common

namespace Lib

/-- A labelled transition system: initial states and a partial step. -/
structure Lts (σ α : Type) where
  init : σ → Prop
  step : σ → α → Option σ

namespace Lts

variable {σ α : Type} {T : Lts σ α} {C : σ → α → Prop}

/-- Run a list of labels; `none` as soon as one is not enabled. -/
def exec (T : Lts σ α) : σ → List α → Option σ
  | s, [] => some s
  | s, a :: rest => (T.step s a).bind fun s' => exec T s' rest

/-- The states some run reaches. -/
inductive Reach (T : Lts σ α) : σ → Prop
  | init {s : σ} (h : T.init s) : Reach T s
  | step {s s' : σ} {a : α} (hr : Reach T s)
      (hs : T.step s a = some s') : Reach T s'

/-- The states reached by runs whose every step meets `C` in the state
it is taken in. -/
inductive ReachVia (T : Lts σ α) (C : σ → α → Prop) : σ → Prop
  | init {s : σ} (h : T.init s) : ReachVia T C s
  | step {s s' : σ} {a : α} (hr : ReachVia T C s) (hc : C s a)
      (hs : T.step s a = some s') : ReachVia T C s'

/-- The induction on runs, packaged once. -/
theorem Reach.invariant {I : σ → Prop} (h0 : ∀ s, T.init s → I s)
    (hstep : ∀ s a s', I s → T.step s a = some s' → I s') {s : σ}
    (h : Reach T s) : I s := by
  induction h with
  | init h => exact h0 _ h
  | step _ hs ih => exact hstep _ _ _ ih hs

/-- The same for runs under a condition: the step obligation may use
it. -/
theorem ReachVia.invariant {I : σ → Prop} (h0 : ∀ s, T.init s → I s)
    (hstep : ∀ s a s', I s → C s a → T.step s a = some s' → I s')
    {s : σ} (h : ReachVia T C s) : I s := by
  induction h with
  | init h => exact h0 _ h
  | step _ hc hs ih => exact hstep _ _ _ ih hc hs

-- ==== along one run

/-- Every step the list takes from `s` meets `C`; labels that are not
enabled end the run. -/
def Along (T : Lts σ α) (C : σ → α → Prop) : σ → List α → Prop
  | _, [] => True
  | s, a :: rest =>
    match T.step s a with
    | none => True
    | some s' => C s a ∧ Along T C s' rest

/-- Every state the list visits from `s` satisfies `I`. -/
def Always (T : Lts σ α) (I : σ → Prop) : σ → List α → Prop
  | s, [] => I s
  | s, a :: rest =>
    match T.step s a with
    | none => I s
    | some s' => I s ∧ Always T I s' rest

instance decidableAlong [∀ s a, Decidable (C s a)] :
    ∀ s l, Decidable (T.Along C s l)
  | _, [] => isTrue trivial
  | s, a :: rest =>
    match h : T.step s a with
    | none => isTrue (by simp [Along, h])
    | some s' =>
      have := decidableAlong s' rest
      decidable_of_iff (C s a ∧ T.Along C s' rest) (by simp [Along, h])

instance decidableAlways {I : σ → Prop} [∀ s, Decidable (I s)] :
    ∀ s l, Decidable (T.Always I s l)
  | s, [] => inferInstanceAs (Decidable (I s))
  | s, a :: rest =>
    match h : T.step s a with
    | none => decidable_of_iff (I s) (by simp [Always, h])
    | some s' =>
      have := decidableAlways (I := I) s' rest
      decidable_of_iff (I s ∧ T.Always I s' rest)
        (by simp [Always, h])

/-- Executing labels from a reachable state stays reachable. -/
theorem Reach.exec {s s' : σ} (h : Reach T s) {l : List α}
    (hl : T.exec s l = some s') : Reach T s' := by
  induction l generalizing s with
  | nil =>
    cases hl
    exact h
  | cons a rest ih =>
    obtain ⟨t, ht, hrest⟩ := Option.bind_eq_some_iff.mp hl
    exact ih (.step h ht) hrest

/-- A run that gets stuck is taken to have stayed where it began. -/
theorem Reach.exec_getD {s : σ} (h : Reach T s) (l : List α) :
    Reach T ((T.exec s l).getD s) := by
  cases hl : T.exec s l with
  | none => exact h
  | some s' => exact h.exec hl

/-- Executing labels that meet the condition as they are taken stays
in its runs. -/
theorem ReachVia.exec {s s' : σ} (h : ReachVia T C s) {l : List α}
    (hc : T.Along C s l) (hl : T.exec s l = some s') :
    ReachVia T C s' := by
  induction l generalizing s with
  | nil =>
    cases hl
    exact h
  | cons a rest ih =>
    obtain ⟨t, ht, hrest⟩ := Option.bind_eq_some_iff.mp hl
    simp only [Along, ht] at hc
    exact ih (.step h hc.1 ht) hc.2 hrest

/-- A condition on every step holds along every run. -/
theorem along_of_forall (h : ∀ s a, C s a) (s : σ) (l : List α) :
    T.Along C s l := by
  induction l generalizing s with
  | nil => trivial
  | cons a rest ih =>
    cases ht : T.step s a with
    | none => simp [Along, ht]
    | some s' =>
      simp only [Along, ht]
      exact ⟨h s a, ih s'⟩

/-- Two conditions along a run are one. -/
theorem Along.and {D : σ → α → Prop} {s : σ} {l : List α}
    (h : T.Along C s l) (h' : T.Along D s l) :
    T.Along (fun s a => C s a ∧ D s a) s l := by
  induction l generalizing s with
  | nil => trivial
  | cons a rest ih =>
    cases ht : T.step s a with
    | none => simp [Along, ht]
    | some s' =>
      simp only [Along, ht] at h h' ⊢
      exact ⟨⟨h.1, h'.1⟩, ih h.2 h'.2⟩

/-- Conditions that agree at every step agree along every run. -/
theorem along_congr {D : σ → α → Prop}
    (h : ∀ s a s', T.step s a = some s' → (C s a ↔ D s a)) (s : σ)
    (l : List α) : T.Along C s l ↔ T.Along D s l := by
  induction l generalizing s with
  | nil => exact Iff.rfl
  | cons a rest ih =>
    cases ht : T.step s a with
    | none => simp [Along, ht]
    | some s' =>
      simp only [Along, ht]
      rw [h s a s' ht, ih s']

/-- When one step that keeps `J` so far has `P` exactly if it meets `C`,
and the steps that meet `C` keep `J`, all steps of a run have `P`
exactly if they all meet `C`. -/
theorem along_iff_along_of {P : σ → α → Prop} {J : σ → Prop}
    (hstep : ∀ s a s', J s → T.step s a = some s' → (P s a ↔ C s a))
    (hkeep : ∀ s a s', J s → C s a → T.step s a = some s' → J s')
    {s : σ} (hJ : J s) (l : List α) : T.Along P s l ↔ T.Along C s l := by
  induction l generalizing s with
  | nil => exact Iff.rfl
  | cons a rest ih =>
    cases ht : T.step s a with
    | none => simp [Along, ht]
    | some s' =>
      simp only [Along, ht]
      rw [hstep s a s' hJ ht]
      constructor
      · intro h
        exact ⟨h.1, (ih (hkeep s a s' hJ h.1 ht)).mp h.2⟩
      · intro h
        exact ⟨h.1, (ih (hkeep s a s' hJ h.1 ht)).mpr h.2⟩

/-- When a step that meets `C` has `P` and keeps `J`, all steps of a run
have `P` if they all meet `C`. -/
theorem along_of_along {P : σ → α → Prop} {J : σ → Prop}
    (hstep : ∀ s a s', J s → C s a → T.step s a = some s' →
      P s a ∧ J s')
    {s : σ} (hJ : J s) {l : List α} (h : T.Along C s l) :
    T.Along P s l := by
  induction l generalizing s with
  | nil => trivial
  | cons a rest ih =>
    cases ht : T.step s a with
    | none => simp [Along, ht]
    | some s' =>
      simp only [Along, ht] at h ⊢
      obtain ⟨hP, hJ'⟩ := hstep s a s' hJ h.1 ht
      exact ⟨hP, ih hJ' h.2⟩

/-- While the steps meet `C` the invariant `J` is kept, and with it every
visited state satisfies `I`. -/
theorem always_of_along {I J : σ → Prop} (hI : ∀ s, J s → I s)
    (hstep : ∀ s a s', J s → C s a → T.step s a = some s' → J s')
    {s : σ} (hJ : J s) {l : List α} (h : T.Along C s l) :
    T.Always I s l := by
  induction l generalizing s with
  | nil => exact hI s hJ
  | cons a rest ih =>
    cases ht : T.step s a with
    | none =>
      simp only [Always, ht]
      exact hI s hJ
    | some s' =>
      simp only [Along, Always, ht] at h ⊢
      exact ⟨hI s hJ, ih (hstep s a s' hJ h.1 ht) h.2⟩

/-- The first state of a visited list is visited. -/
theorem Always.head {I : σ → Prop} {s : σ} {l : List α}
    (h : T.Always I s l) : I s := by
  cases l with
  | nil => exact h
  | cons a rest =>
    simp only [Always] at h
    split at h
    · exact h
    · exact h.1

/-- What holds in all reachable states holds in all visited ones. -/
theorem Reach.always {I : σ → Prop} (hI : ∀ s, Reach T s → I s) {s : σ}
    (h : Reach T s) (l : List α) : T.Always I s l := by
  induction l generalizing s with
  | nil => exact hI s h
  | cons a rest ih =>
    cases ht : T.step s a with
    | none =>
      simp only [Always, ht]
      exact hI s h
    | some s' =>
      simp only [Always, ht]
      exact ⟨hI s h, ih (.step h ht)⟩

/-- When one step keeps `P` exactly if it meets `C`, a whole run keeps
`P` exactly if all its steps meet `C`. The step may use `J`, which the
steps that meet `C` keep beside `P`. -/
theorem always_iff_along_of {P J : σ → Prop}
    (hstep : ∀ s a s', P s → J s → T.step s a = some s' →
      (P s' ↔ C s a))
    (hkeep : ∀ s a s', P s → J s → C s a → T.step s a = some s' → J s')
    {s : σ} (hP : P s) (hJ : J s) (l : List α) :
    T.Always P s l ↔ T.Along C s l := by
  induction l generalizing s with
  | nil => simp [Always, Along, hP]
  | cons a rest ih =>
    cases ht : T.step s a with
    | none => simp [Always, Along, ht, hP]
    | some s' =>
      simp only [Always, Along, ht, hP, true_and]
      constructor
      · intro h
        have hP' : P s' := h.head
        have hC := (hstep s a s' hP hJ ht).mp hP'
        exact ⟨hC, (ih hP' (hkeep s a s' hP hJ hC ht)).mp h⟩
      · intro h
        have hP' := (hstep s a s' hP hJ ht).mpr h.1
        exact (ih hP' (hkeep s a s' hP hJ h.1 ht)).mpr h.2

/-- The case where the step needs nothing beside the property. -/
theorem always_iff_along {I : σ → Prop}
    (hstep : ∀ s a s', I s → T.step s a = some s' → (I s' ↔ C s a))
    {s : σ} (hs : I s) (l : List α) :
    T.Always I s l ↔ T.Along C s l :=
  always_iff_along_of (J := fun _ => True)
    (fun s a s' hI _ hstep' => hstep s a s' hI hstep')
    (fun _ _ _ _ _ _ _ => trivial) hs trivial l

end Lts

-- ==== mirrors

variable {σ π μ : Type} {deliver : μ → π → μ} {Tracks : μ → σ → Prop}

/-- Delivered in order, each message brings the mirror to the state it was
sent in, and after the last it is with the source. -/
def InStep (deliver : μ → π → μ) (Tracks : μ → σ → Prop) :
    μ → List (π × σ) → σ → Prop
  | m, [], s => Tracks m s
  | m, (p, t) :: rest, s =>
    Tracks (deliver m p) t ∧ InStep deliver Tracks (deliver m p) rest s

/-- What is sent after the messages on their way. -/
theorem InStep.append {m : μ} {queue sent : List (π × σ)} {s s' : σ}
    (h : InStep deliver Tracks m queue s)
    (hsent : ∀ m, Tracks m s → InStep deliver Tracks m sent s') :
    InStep deliver Tracks m (queue ++ sent) s' := by
  induction queue generalizing m with
  | nil => exact hsent m h
  | cons message rest ih => exact ⟨h.1, ih h.2⟩

/-- One message that says all that changed. -/
theorem InStep.singleton {m : μ} {p : π} {s : σ}
    (h : Tracks (deliver m p) s) : InStep deliver Tracks m [(p, s)] s :=
  ⟨h, h⟩

-- ==== unwinding

namespace Lts

variable {σ α β : Type} {T : Lts σ α} {C : σ → α → Prop}

theorem Along.head {s s' : σ} {a : α} {l : List α}
    (h : T.Along C s (a :: l)) (hs : T.step s a = some s') :
    C s a ∧ T.Along C s' l := by
  unfold Along at h
  rw [hs] at h
  exact h

theorem exec_cons_some {s t : σ} {a : α} {l : List α}
    (h : T.exec s (a :: l) = some t) :
    ∃ s', T.step s a = some s' ∧ T.exec s' l = some t :=
  Option.bind_eq_some_iff.mp h

end Lts

/-- A relation between the states of two runs under `C` that look the
same through `see`. -/
structure Unwinding {σ α β : Type} (T : Lts σ α) (C : σ → α → Prop)
    (see : α → Option β) (R : σ → σ → Prop) : Prop where
  symm : ∀ {s t}, R s t → R t s
  /-- A step that is not seen changes nothing that is seen. -/
  hidden : ∀ {s s' t a}, R s t → C s a → see a = none →
    T.step s a = some s' → R s' t
  /-- Two steps that look the same do the same to what is seen. -/
  seen : ∀ {s s' t t' a b}, R s t → C s a → C t b → see a = see b →
    see a ≠ none → T.step s a = some s' → T.step t b = some t' → R s' t'

namespace Unwinding

variable {σ α β : Type} {T : Lts σ α} {C : σ → α → Prop}
  {see : α → Option β} {R : σ → σ → Prop}

/-- A run that shows nothing. -/
theorem hidden_run (U : Unwinding T C see R) {l : List α} {s s' t : σ}
    (hl : l.filterMap see = []) (hC : T.Along C s l)
    (hs : T.exec s l = some s') (h : R s t) : R s' t := by
  induction l generalizing s with
  | nil =>
    cases hs
    exact h
  | cons a l ih =>
    obtain ⟨u, hu, hs⟩ := Lts.exec_cons_some hs
    obtain ⟨ha, hC⟩ := hC.head hu
    rcases hsee : see a with _ | b
    · rw [List.filterMap_cons_none hsee] at hl
      exact ih hl hC hs (U.hidden h ha hsee hu)
    · rw [List.filterMap_cons_some hsee] at hl
      cases hl

/-- Runs that look the same end in related states. -/
theorem runs (U : Unwinding T C see R) {l m : List α} {s s' t t' : σ}
    (hl : l.filterMap see = m.filterMap see)
    (hCl : T.Along C s l) (hCm : T.Along C t m)
    (hs : T.exec s l = some s') (ht : T.exec t m = some t')
    (h : R s t) : R s' t' := by
  induction l generalizing s t m with
  | nil =>
    cases hs
    exact U.symm (U.hidden_run hl.symm hCm ht (U.symm h))
  | cons a l ih =>
    obtain ⟨u, hu, hs⟩ := Lts.exec_cons_some hs
    obtain ⟨ha, hCl⟩ := hCl.head hu
    rcases hsee : see a with _ | b
    · rw [List.filterMap_cons_none hsee] at hl
      exact ih hl hCl hCm hs ht (U.hidden h ha hsee hu)
    · rw [List.filterMap_cons_some hsee] at hl
      -- the other run first takes the steps that are not seen
      induction m generalizing t with
      | nil => cases hl
      | cons c m ihm =>
        obtain ⟨v, hv, ht⟩ := Lts.exec_cons_some ht
        obtain ⟨hc, hCm⟩ := hCm.head hv
        rcases hsee' : see c with _ | b'
        · rw [List.filterMap_cons_none hsee'] at hl
          exact ihm hCm ht (U.symm (U.hidden (U.symm h) hc hsee' hv)) hl
        · rw [List.filterMap_cons_some hsee'] at hl
          obtain ⟨rfl, hrest⟩ := List.cons.inj hl
          refine ih hrest hCl hCm hs ht (U.seen h ha hc ?_ ?_ hu hv)
          · rw [hsee, hsee']
          · rw [hsee]
            exact Option.some_ne_none b

end Unwinding

end Lib
