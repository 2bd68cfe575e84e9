/-
The registry sweep and live connections: when `cleanup_dead_civcoms`
removes a `CivCom` that is neither stopped nor marked dead for long
enough.

# Where it goes wrong

The scan decides on instances, the removals go by key. A reconnection
between the two puts a live instance under a chosen key, either a new
one (`register_game`) or the chosen one brought back to life
(`reattach` clears the dead mark), and the removal stops it.

# What this closes

The invariant `SweepInv` says that every key a sweep still has to
remove leads to an instance that is not live. Every step keeps it
except the two above, so no sweep ever hits a live instance in a run
that leaves pending keys alone (`sweep_harmless_via`).
-/
import Freeciv3d.Proxy.Registry

namespace Freeciv3d.Proxy

open Lib

variable {w w' : RegWorld}

/-- No live instance is put under a key that a running sweep is about
to remove, and none that is registered there is brought back to
life. -/
def LeavesPending (w : RegWorld) : RegAct → Prop
  | .register g a c _ =>
    ∀ s ∈ w.sweeps, (g, a) ∈ s.toRemove.map Prod.fst →
      w.live s.maxDeadAge c = false
  | .reattach g a _ =>
    ∀ c ∈ w.registry.getCivcom g a, (w.heap c).stopped = false →
      ∀ s ∈ w.sweeps, ∀ e ∈ s.toRemove,
        w.registry.instances.get? e.1 ≠ some c
  | _ => True

instance (w : RegWorld) : ∀ a, Decidable (LeavesPending w a)
  | .register g a c _ => inferInstanceAs (Decidable
      (∀ s ∈ w.sweeps, (g, a) ∈ s.toRemove.map Prod.fst →
        w.live s.maxDeadAge c = false))
  | .reattach g a _ => inferInstanceAs (Decidable
      (∀ c ∈ w.registry.getCivcom g a, (w.heap c).stopped = false →
        ∀ s ∈ w.sweeps, ∀ e ∈ s.toRemove,
          w.registry.instances.get? e.1 ≠ some c))
  | .tick _ | .unregister _ | .scan _ | .sweepNext _ | .threadIs _ _
  | .stop _ | .markDead _ _ => isTrue trivial

/-- Every pending key leads to an instance that is not live. -/
structure SweepInv (w : RegWorld) : Prop where
  harmless : w.harmed = []
  pending : ∀ s ∈ w.sweeps, ∀ e ∈ s.toRemove, ∀ c,
    w.registry.instances.get? e.1 = some c →
    w.live s.maxDeadAge c = false

-- ==== what keeps an object dead

/-- An update that brings no object to life. -/
def Buries (f : CivCom → CivCom) : Prop :=
  ∀ (now age : Int) (o : CivCom), o.live now age = false →
    (f o).live now age = false

theorem live_eq_false_of_stopped {o : CivCom} (h : o.stopped = true)
    (now age : Int) : o.live now age = false := by
  simp [CivCom.live, h]

theorem buries_cleanup : Buries CivCom.cleanup :=
  fun now age _ _ => live_eq_false_of_stopped rfl now age

theorem buries_stop : Buries CivCom.stop :=
  fun now age _ _ => live_eq_false_of_stopped rfl now age

theorem buries_retire : Buries CivCom.retire := by
  intro now age o ho
  unfold CivCom.retire
  split
  case isTrue => exact ho
  case isFalse => exact live_eq_false_of_stopped rfl now age

theorem buries_threadIs (alive : Bool) : Buries (CivCom.threadIs alive) :=
  fun _ _ _ ho => ho

theorem buries_markDead (since : Int) :
    Buries (CivCom.markDead since) := by
  intro now age o ho
  unfold CivCom.markDead
  split
  case isTrue => exact ho
  case isFalse hnone =>
    have hdead : o.deadSince = none := by simpa using hnone
    have hstopped : o.stopped = true := by
      simpa [CivCom.live, hdead] using ho
    exact live_eq_false_of_stopped (o := { o with deadSince := some since })
      hstopped now age

/-- A method call on one object, if it buries, keeps every dead object
of the heap dead. -/
theorem live_modify {h : Heap} {f : CivCom → CivCom} (hf : Buries f)
    {c d : CivComId} {now age : Int} (hd : (h d).live now age = false) :
    (h.modify c f d).live now age = false := by
  rw [Heap.modify_apply]
  split
  case isTrue => exact hf now age _ hd
  case isFalse => exact hd

theorem live_tick {o : CivCom} {now age : Int} (n : Nat)
    (ho : o.live now age = false) : o.live (now + n) age = false := by
  unfold CivCom.live at ho ⊢
  cases hs : o.stopped with
  | true => simp
  | false =>
    cases hd : o.deadSince with
    | none => simp [hs, hd] at ho
    | some since =>
      simp only [hs, hd, Option.any_some, Bool.not_false,
        Bool.true_and, Bool.not_eq_false', decide_eq_true_eq] at ho ⊢
      omega

-- ==== the registry's calls

/-- What `unregister_game` leaves: the key is gone, the rest is as it
was, and no object came to life. -/
theorem unregisterGame_instances (r : Registry) (h : Heap) (key k : Key) :
    (r.unregisterGame h key).1.instances.get? k
      = if k = key then none else r.instances.get? k := by
  unfold Registry.unregisterGame
  cases hk : r.instances.get? key with
  | none =>
    by_cases hkk : k = key
    · subst hkk
      simp [hk]
    · simp [hkk]
  | some c => exact Dict.get?_erase ..

theorem unregisterGame_live {r : Registry} {h : Heap} {key : Key}
    {c : CivComId} {now age : Int} (hc : (h c).live now age = false) :
    ((r.unregisterGame h key).2 c).live now age = false := by
  unfold Registry.unregisterGame
  cases r.instances.get? key with
  | none => exact hc
  | some d => exact live_modify buries_cleanup hc

theorem registerGame_ok {r r' : Registry} {h h' : Heap} {g a : String}
    {c : CivComId} {m : Metadata}
    (hok : r.registerGame h g a c m = .ok (r', h')) :
    (∀ k, r'.instances.get? k
      = if k = (g, a) then some c else r.instances.get? k)
    ∧ ∀ d now age, (h d).live now age = false →
        (h' d).live now age = false := by
  unfold Registry.registerGame at hok
  cases hargs : Registry.checkArgs g a with
  | error e => simp [hargs, bind, Except.bind] at hok
  | ok u =>
    simp only [hargs, bind, Except.bind, pure, Except.pure,
      Except.ok.injEq, Prod.mk.injEq] at hok
    obtain ⟨rfl, rfl⟩ := hok
    refine ⟨fun k => Dict.get?_set .., fun d now age hd => ?_⟩
    split
    · exact hd
    · split
      · exact hd
      · exact live_modify buries_retire hd

theorem scan_dead {r : Registry} {h : Heap} {now age : Int}
    {e : Key × String} (he : e ∈ r.scan h now age) {c : CivComId}
    (hc : r.instances.get? e.1 = some c) : (h c).live now age = false := by
  obtain ⟨⟨k, d⟩, hmem, hreason⟩ := List.mem_filterMap.mp he
  obtain ⟨reason, hr, rfl⟩ := Option.map_eq_some_iff.mp hreason
  have hd := Dict.mem_entries_iff.mp hmem
  rw [hc] at hd
  cases hd
  unfold Registry.scanReason at hr
  unfold CivCom.live
  split at hr
  case isTrue hstopped =>
    simp [(Bool.and_eq_true_iff.mp hstopped).1]
  case isFalse =>
    cases hdead : (h c).deadSince with
    | none => simp [hdead] at hr
    | some since =>
      simp only [hdead] at hr
      split at hr
      case isTrue hage => simp [hage]
      case isFalse => cases hr

-- ==== the steps

/-- The invariant survives any change that keeps the sweeps, shrinks
the table and brings nothing to life. -/
private theorem SweepInv.of_buried (h : SweepInv w)
    (hharm : w'.harmed = w.harmed) (hsweeps : w'.sweeps = w.sweeps)
    (hreg : ∀ k c, w'.registry.instances.get? k = some c →
      w.registry.instances.get? k = some c)
    (hlive : ∀ age c, w.live age c = false → w'.live age c = false) :
    SweepInv w' := by
  refine ⟨by rw [hharm, h.harmless], ?_⟩
  rw [hsweeps]
  intro s hs e he c hc
  exact hlive _ _ (h.pending s hs e he c (hreg _ _ hc))

/-- A removal of the sweep hits no live instance. -/
private theorem SweepInv.sweepNext (h : SweepInv w) {i : Nat}
    {age : Int} {k : Key} {reason : String} {rest : List (Key × String)}
    {n : Nat} (hi : w.sweeps[i]? = some ⟨age, (k, reason) :: rest, n⟩) :
    SweepInv { w.sweepRemove age k with
      sweeps := w.sweeps.set i ⟨age, rest, n + 1⟩ } := by
  have hmem := List.mem_of_getElem? hi
  have hdead := h.pending _ hmem (k, reason) (List.mem_cons_self ..)
  have hharm : (w.registry.instances.get? k).filter (w.live age) = none := by
    cases hc : w.registry.instances.get? k with
    | none => rfl
    | some c => simp [hdead c hc]
  constructor
  · show Option.toList _ ++ w.harmed = []
    rw [hharm, h.harmless]
    rfl
  · intro s hs e he c hc
    change (w.registry.unregisterGame w.heap k).1.instances.get? e.1
      = some c at hc
    rw [unregisterGame_instances] at hc
    split at hc
    case isTrue => cases hc
    case isFalse =>
      refine unregisterGame_live ?_
      rcases List.mem_or_eq_of_mem_set hs with hs | rfl
      · exact h.pending s hs e he c hc
      · exact h.pending _ hmem e (List.mem_cons_of_mem _ he) c hc

/-- One step that leaves pending keys alone keeps the invariant. -/
theorem sweepInv_step {a : RegAct} (h : SweepInv w)
    (hcond : LeavesPending w a) (hs : registryRuns.step w a = some w') :
    SweepInv w' := by
  change w.apply a = some w' at hs
  cases a with
  | tick n =>
    cases hs
    exact h.of_buried rfl rfl (fun _ _ hc => hc)
      (fun _ _ hl => live_tick n hl)
  | register g a c m =>
    simp only [RegWorld.apply] at hs
    split at hs
    next =>
      cases hs
      exact h
    next registry heap hok =>
      cases hs
      obtain ⟨hinst, hburied⟩ := registerGame_ok hok
      refine ⟨h.harmless, fun s hs e he d hd => ?_⟩
      have hd : registry.instances.get? e.1 = some d := hd
      rw [hinst] at hd
      split at hd
      next hkey =>
        cases hd
        exact hburied _ _ _
          (hcond s hs (hkey ▸ List.mem_map_of_mem he))
      next => exact hburied _ _ _ (h.pending s hs e he d hd)
  | unregister key =>
    cases hs
    refine h.of_buried rfl rfl (fun k c hc => ?_)
      (fun _ _ hl => unregisterGame_live hl)
    change (w.registry.unregisterGame w.heap key).1.instances.get? k
      = some c at hc
    rw [unregisterGame_instances] at hc
    split at hc
    · cases hc
    · exact hc
  | scan age =>
    cases hs
    refine ⟨h.harmless, fun s hs e he c hc => ?_⟩
    rcases List.mem_append.mp hs with hs | hs
    · exact h.pending s hs e he c hc
    · rw [List.mem_singleton.mp hs] at he ⊢
      exact scan_dead he hc
  | sweepNext i =>
    simp only [RegWorld.apply] at hs
    split at hs
    next age k reason rest n hi =>
      cases hs
      exact h.sweepNext hi
    next => cases hs
  | threadIs c alive =>
    cases hs
    exact h.of_buried rfl rfl (fun _ _ hc => hc)
      (fun _ _ hl => live_modify (buries_threadIs alive) hl)
  | stop c =>
    cases hs
    exact h.of_buried rfl rfl (fun _ _ hc => hc)
      (fun _ _ hl => live_modify buries_stop hl)
  | markDead c since =>
    cases hs
    exact h.of_buried rfl rfl (fun _ _ hc => hc)
      (fun _ _ hl => live_modify (buries_markDead since) hl)
  | reattach g a handler =>
    obtain ⟨c, hc, rfl⟩ := Option.map_eq_some_iff.mp hs
    refine ⟨h.harmless, fun s hs e he d hd => ?_⟩
    have hdead := h.pending s hs e he d hd
    show (w.heap.modify c (CivCom.reattach handler) d).live _ _ = false
    rw [Heap.modify_apply]
    split
    case isFalse => exact hdead
    case isTrue hdc =>
      subst hdc
      cases hstopped : (w.heap d).stopped with
      | true =>
        have hsame : CivCom.reattach handler (w.heap d) = w.heap d := by
          simp [CivCom.reattach, hstopped]
        rw [hsame]
        exact hdead
      | false => exact absurd hd (hcond d hc hstopped s hs e he)

namespace Reconnect

def start : RegWorld where
  registry := ⟨∅, ∅⟩
  heap := fun c => CivCom.init c
  now := 0
  sweeps := []
  harmed := []

/-- Object 0 is registered for an agent, its thread stops, and the
scan chooses its key. -/
def scanned : List RegAct :=
  [.register "g1" "agent" 0 [], .stop 0, .scan 7200]

/-- The agent reconnects with object 1 after the removal. -/
def after : List RegAct :=
  scanned ++ [.sweepNext 0, .register "g1" "agent" 1 []]

/-- The agent reconnects with object 1 before the removal. -/
def between : List RegAct :=
  scanned ++ [.register "g1" "agent" 1 [], .sweepNext 0]

def final (run : List RegAct) : RegWorld :=
  (registryRuns.exec start run).getD start

end Reconnect

/-- In every run in which no live `CivCom` is registered under, or
brought back to life under, a key that a running sweep still has to
remove, no sweep ever cleans up or removes a `CivCom` that is neither
stopped nor marked dead for `max_dead_age_seconds`. -/
theorem sweep_harmless_via (w : RegWorld)
    (h : registryRuns.ReachVia LeavesPending w) : w.harmed = [] := by
  refine (h.invariant (I := SweepInv) ?_ ?_).harmless
  · intro w hp
    rcases hp with ⟨-, hsweeps, hharm⟩
    exact ⟨hharm, by simp [hsweeps]⟩
  · intro w a w' hinv hc hs
    exact sweepInv_step hinv hc hs

/-- The theorem at a reconnection after the removal. -/
theorem sweep_harmless_via_reconnect :
    (Reconnect.final Reconnect.after).harmed = [] :=
  sweep_harmless_via (Reconnect.final Reconnect.after)
    (Lts.ReachVia.exec (.init (s := Reconnect.start) ⟨rfl, rfl, rfl⟩)
      (l := Reconnect.after) (by decide) rfl)

/-- A reconnection between scan and removal: the sweep cleans up and
removes the new connection, which nobody stopped or marked dead. -/
theorem sweep_harms_reconnected :
    ¬∀ w, registryRuns.Reach w → w.harmed = [] := by
  intro h
  have hreach : registryRuns.Reach (Reconnect.final Reconnect.between) :=
    Lts.Reach.exec (.init (s := Reconnect.start) ⟨rfl, rfl, rfl⟩)
      (l := Reconnect.between) rfl
  have hharmed : (Reconnect.final Reconnect.between).harmed = [1] := by
    decide
  rw [h _ hreach] at hharmed
  cases hharmed

-- ==== one connection for an agent

/-- Only a stopped object is dead to whoever looks. -/
theorem stopped_iff {o : CivCom} :
    o.stopped = true ↔ ∀ now age, o.live now age = false := by
  refine ⟨live_eq_false_of_stopped, fun h => ?_⟩
  cases hd : o.deadSince with
  | none => simpa [CivCom.live, hd] using h 0 0
  | some since => simpa [CivCom.live, hd] using h since 1

/-- The object is registered under the key, or stopped. -/
def Held (k : Key) (c : CivComId) (r : Registry) (h : Heap) : Prop :=
  r.instances.get? k = some c ∨ (h c).stopped = true

namespace Held

variable {r r' : Registry} {h h' : Heap} {k : Key} {c : CivComId}

theorem buried (hw : Held k c r h)
    (hb : ∀ now age, (h c).live now age = false → (h' c).live now age = false)
    (hreg : r.instances.get? k = some c → Held k c r' h') : Held k c r' h' :=
  hw.elim hreg fun hs =>
    .inr (stopped_iff.mpr fun now age => hb now age (stopped_iff.mp hs now age))

theorem unregisterGame (hw : Held k c r h) (key : Key) :
    Held k c (r.unregisterGame h key).1 (r.unregisterGame h key).2 := by
  refine hw.buried (fun _ _ => unregisterGame_live) fun hc => ?_
  by_cases hk : k = key
  · subst hk
    right
    unfold Registry.unregisterGame
    simp [hc, CivCom.cleanup]
  · left
    rw [unregisterGame_instances, if_neg hk, hc]

theorem registerGame (hw : Held k c r h) {g a : String} {d : CivComId}
    {m : Metadata} (hok : r.registerGame h g a d m = .ok (r', h')) :
    Held k c r' h' := by
  obtain ⟨hinst, hburied⟩ := registerGame_ok hok
  refine hw.buried (hburied c) fun hc => ?_
  unfold Held
  rw [hinst]
  split
  case isFalse => exact .inl hc
  case isTrue hk =>
    subst hk
    by_cases hd : c = d
    · exact .inl (hd ▸ rfl)
    -- the instance that is replaced
    right
    unfold Registry.registerGame at hok
    cases hargs : Registry.checkArgs g a with
    | error e => simp [hargs, bind, Except.bind] at hok
    | ok u =>
      simp only [hargs, bind, Except.bind, pure, Except.pure, hc, if_neg hd,
        Except.ok.injEq, Prod.mk.injEq] at hok
      rw [← hok.2, Heap.modify_self]
      by_cases hs : (h c).stopped = true <;> simp [CivCom.retire, hs]

theorem step {a : RegAct} (h : Held k c w.registry w.heap)
    (hs : w.apply a = some w') : Held k c w'.registry w'.heap := by
  cases a with
  | register g a d m =>
    simp only [RegWorld.apply] at hs
    split at hs
    next =>
      cases hs
      exact h
    next registry heap hok =>
      cases hs
      exact h.registerGame hok
  | unregister key =>
    cases hs
    exact h.unregisterGame key
  | sweepNext i =>
    simp only [RegWorld.apply] at hs
    split at hs
    next =>
      cases hs
      exact h.unregisterGame _
    next => cases hs
  | reattach g a handler =>
    obtain ⟨d, -, rfl⟩ := Option.map_eq_some_iff.mp hs
    refine h.imp_right fun hc => ?_
    show (w.heap.modify d (CivCom.reattach handler) c).stopped = true
    rw [Heap.modify_apply]
    split
    · rw [CivCom.reattach, if_pos hc, hc]
    · exact hc
  | tick n | scan age =>
    cases hs
    exact h
  | threadIs d alive =>
    cases hs
    exact h.buried (fun _ _ => live_modify (buries_threadIs alive)) .inl
  | stop d =>
    cases hs
    exact h.buried (fun _ _ => live_modify buries_stop) .inl
  | markDead d since =>
    cases hs
    exact h.buried (fun _ _ => live_modify (buries_markDead since)) .inl

end Held

/-- Whatever callers and sweeps do from then on, a `CivCom` registered for
an agent is still registered for it or is stopped. -/
theorem registered_or_stopped {k : Key} {c : CivComId}
    (h : w.registry.instances.get? k = some c) {l : List RegAct}
    (hrun : registryRuns.exec w l = some w') :
    w'.registry.instances.get? k = some c ∨ (w'.heap c).stopped = true := by
  have hheld : Held k c w.registry w.heap := .inl h
  clear h
  induction l generalizing w with
  | nil =>
    cases hrun
    exact hheld
  | cons a l ih =>
    obtain ⟨v, hv, hrun⟩ := Option.bind_eq_some_iff.mp hrun
    exact ih hrun (hheld.step hv)

/-- Object 0 before and after the reconnection with object 1. -/
theorem registered_or_stopped_between :
    (Reconnect.final Reconnect.between).registry.instances.get?
        ("g1", "agent") = some 0
      ∨ ((Reconnect.final Reconnect.between).heap 0).stopped = true :=
  registered_or_stopped (w := Reconnect.final [.register "g1" "agent" 0 []])
    (by decide) (l := Reconnect.between.tail) rfl

end Freeciv3d.Proxy
