/-
The global slots are those of the managed connections and of the ones
that are being closed, and no replacement is refused, exactly as long as
no removal is cancelled in its close and no game asks for another
connection while there is no room for a new one.

# One account

A manager holds a slot for each of its connections and one for the
connection it closes (`held`). Every section of a manager releases as
many slots as it gives up (`held_removeConnectionsUnsafe`), a new
connection reserves one more than its predecessor gives back, and a
cancelled removal forgets the one it was about to release.
-/
import Freeciv3d.Gateway.ConnectionStates
import Freeciv3d.Lib.Tasks

namespace Freeciv3d.Gateway.ConnectionStates

open Lib

open ConnectionStateManager ProxyConnections

variable {m : ConnectionStateManager} {isClosed : Nat → Bool}
  {g : String} {info : ConnectionInfo}

-- ==== one manager

theorem held_of_unlocked (h : m.closing = none) :
    held m = m.connections.size := by
  unfold held
  rw [h]
  rfl

/-- A removal keeps a slot for what is still to be closed, and releases
those of what is gone. -/
theorem held_removeConnectionsUnsafe (isClosed : Nat → Bool)
    (games : List String) :
    held (m.removeConnectionsUnsafe isClosed games).1
      + (m.removeConnectionsUnsafe isClosed games).2
        = m.connections.size := by
  induction games generalizing m with
  | nil => rfl
  | cons g rest ih =>
    unfold removeConnectionsUnsafe
    split
    · exact ih
    next info hg =>
      have hsize := m.connections.size_erase g
      have hin : m.connections.contains g = true :=
        Dict.contains_iff.mpr ⟨info, hg⟩
      rw [if_pos hin] at hsize
      split
      · have hrest := ih
          (m := { m with connections := m.connections.erase g })
        dsimp only at hrest ⊢
        omega
      · exact hsize

theorem held_markConnectionFailed (g : String) :
    held (m.markConnectionFailed g) = held m := by
  unfold markConnectionFailed
  split
  · rfl
  · unfold held
    rw [Dict.size_modify]

theorem held_markConnectionUnhealthyUnsafe (g : String) :
    held (m.markConnectionUnhealthyUnsafe g) = held m := by
  unfold markConnectionUnhealthyUnsafe held
  rw [Dict.size_modify]

theorem held_isConnectionHealthy (g : String) :
    held (m.isConnectionHealthy isClosed g) = held m := by
  unfold isConnectionHealthy
  split
  · rfl
  · split
    · exact held_markConnectionUnhealthyUnsafe g
    · rfl

theorem held_getConnection (g : String) (now : Rat) :
    held (m.getConnection g now) = held m := by
  unfold getConnection held
  rw [Dict.size_modify]

theorem held_checkNext (r : HealthRound) (g : String)
    (info : ConnectionInfo) (rest : List (String × ConnectionInfo)) :
    held (m.checkNext isClosed r g info rest) = held m := by
  unfold checkNext
  split
  · rfl
  · split
    · rfl
    · rfl

theorem held_markUnhealthy (r : HealthRound) :
    held (m.markUnhealthy r) = held m := by
  have hone : ∀ (m : ConnectionStateManager) (g : String),
      held (m.markOne g) = held m := by
    intro m g
    unfold markOne
    split
    · rfl
    · split
      · exact held_markConnectionUnhealthyUnsafe g
      · rfl
  have hfold : ∀ (us : List (String × Nat)) (m : ConnectionStateManager),
      held (us.foldl (fun m u => m.markOne u.1) m) = held m := by
    intro us
    induction us with
    | nil => exact fun m => rfl
    | cons u rest ih =>
      intro m
      rw [List.foldl_cons, ih, hone]
  exact hfold r.unhealthy _

-- ==== the system

namespace ProxyConnections

variable {w w' : ProxyConnections} {i : Nat}

theorem Conserved.put (h : w.Conserved) (hm : w.managers[i]? = some m)
    {r : ConnectionStateManager × Nat} (hr : held r.1 + r.2 = held m) :
    (w.put i r).Conserved := by
  have hsum := sum_map_set held hm r.1
  have hcount := h.count
  have hlimit := h.limit
  refine ⟨?_, ?_, h.accepted⟩
  · show w.globalCount - r.2 = ((w.managers.set i r.1).map held).sum
    omega
  · show w.globalCount - r.2 ≤ globalConnectionLimit
    omega

theorem unlocked?_eq_some (hm : w.unlocked? i = some m) :
    w.managers[i]? = some m ∧ m.closing = none := by
  obtain ⟨hget, hnone⟩ := Option.filter_eq_some_iff.mp hm
  exact ⟨hget, Option.isNone_iff_eq_none.mp hnone⟩

theorem conserved_refuse_iff (h : w.Conserved) (i : Nat) (g : String) :
    (w.refuse i m g).Conserved ↔ ¬ m.connections.contains g = true := by
  unfold refuse
  split
  next hin =>
    constructor
    · intro hafter
      have hrefused := hafter.accepted
      rw [h.accepted] at hrefused
      cases hrefused
    · intro hnot
      exact absurd hin hnot
  next hout => exact ⟨fun _ => hout, fun _ => h⟩

theorem conserved_addConnection_iff (h : w.Conserved) {a : Adding}
    (hm : w.managers[a.manager]? = some m) (hlock : m.closing = none)
    (now : Rat) (raises : Bool) :
    (w.addConnection a m now raises).Conserved
      ↔ (m.connections.contains a.gameId = true →
        m.connections.size < m.maxConnections
          ∧ w.globalCount < globalConnectionLimit) := by
  unfold addConnection
  split
  next hfull =>
    rw [conserved_refuse_iff h]
    refine ⟨fun hnot hin => absurd hin hnot, fun hroom hin => ?_⟩
    have hlt := (hroom hin).1
    omega
  next hlocal =>
    split
    next hfull =>
      rw [conserved_refuse_iff h]
      refine ⟨fun hnot hin => absurd hin hnot, fun hroom hin => ?_⟩
      have hlt := (hroom hin).2
      omega
    next hglobal =>
      refine ⟨fun _ _ => ⟨by omega, by omega⟩, fun _ => ?_⟩
      have herase := m.connections.size_erase a.gameId
      have hheld := held_of_unlocked hlock
      have hcount := h.count
      dsimp only
      split
      · -- the entry is not made
        refine ⟨?_, ?_, h.accepted⟩
        · have hsum := sum_map_set held hm
            { m with connections := m.connections.erase a.gameId }
          have hheld' : held { m with
              connections := m.connections.erase a.gameId }
              = (m.connections.erase a.gameId).size :=
            held_of_unlocked hlock
          show w.globalCount + 1 - (_ + 1) = _
          simp only [ProxyConnections.put]
          omega
        · show w.globalCount + 1 - (_ + 1) ≤ globalConnectionLimit
          omega
      · refine ⟨?_, ?_, h.accepted⟩
        · have hsum := sum_map_set held hm { m with
            connections := (m.connections.erase a.gameId).set a.gameId
              ⟨a.connection, .connected, now, 0, 0⟩ }
          have hset := (m.connections.erase a.gameId).size_set a.gameId
            ⟨a.connection, .connected, now, 0, 0⟩
          have hgone : (m.connections.erase a.gameId).contains a.gameId
              = false := by
            unfold Dict.contains
            rw [Dict.get?_erase_self]
            rfl
          rw [hgone] at hset
          have hheld' : held { m with
              connections := (m.connections.erase a.gameId).set a.gameId
                ⟨a.connection, .connected, now, 0, 0⟩ }
              = ((m.connections.erase a.gameId).set a.gameId
                ⟨a.connection, .connected, now, 0, 0⟩).size :=
            held_of_unlocked hlock
          show w.globalCount + 1 - _ = _
          simp only [ProxyConnections.put]
          simp only [Bool.false_eq_true, if_false] at hset
          omega
        · show w.globalCount + 1 - _ ≤ globalConnectionLimit
          omega

theorem Conserved.keep (h : w.Conserved) (hm : w.managers[i]? = some m)
    {m' : ConnectionStateManager} (hr : held m' = held m) :
    (w.put i (m', 0)).Conserved :=
  h.put hm hr

theorem Conserved.remove (h : w.Conserved) (hm : w.unlocked? i = some m)
    (games : List String) :
    (w.put i (m.removeConnectionsUnsafe w.isClosed games)).Conserved := by
  obtain ⟨hget, hlock⟩ := unlocked?_eq_some hm
  refine h.put hget ?_
  rw [held_removeConnectionsUnsafe, held_of_unlocked hlock]

/-- One step keeps the slots and refuses no replacement exactly when it
is no cancelled close and there is room for what it asks. -/
theorem conserved_step_iff (h : w.Conserved) {e : ConnectionEvent}
    (hs : w.step e = some w') : w'.Conserved ↔ w.HasRoom e := by
  cases e with
  | add i g c =>
    obtain ⟨m, hm, rfl⟩ := Option.map_eq_some_iff.mp hs
    have hroom : w.HasRoom (.add i g c) ↔
        (m.connections.contains g = true →
          w.globalCount < globalConnectionLimit) := by
      simp only [HasRoom]
      rw [hm]
      exact ⟨fun hall => hall m rfl, fun hone m' hm' => by
        cases hm'
        exact hone⟩
    rw [hroom]
    split
    next hfull =>
      rw [conserved_refuse_iff h]
      refine ⟨fun hnot hin => absurd hin hnot, fun hlt hin => ?_⟩
      have := hlt hin
      omega
    next hfree => exact ⟨fun _ _ => by omega, fun _ => ⟨h.1, h.2, h.3⟩⟩
  | addLocked k now raises =>
    obtain ⟨a, ha, hmap⟩ := Option.bind_eq_some_iff.mp hs
    obtain ⟨m, hm, rfl⟩ := Option.map_eq_some_iff.mp hmap
    obtain ⟨hget, hlock⟩ := unlocked?_eq_some hm
    have hroom : w.HasRoom (.addLocked k now raises) ↔
        (m.connections.contains a.gameId = true →
          m.connections.size < m.maxConnections
            ∧ w.globalCount < globalConnectionLimit) := by
      simp only [HasRoom]
      rw [ha]
      constructor
      · exact fun hall => hall a rfl m hget
      · intro hone a' ha' m' hm'
        cases ha'
        rw [hget] at hm'
        cases hm'
        exact hone
    rw [hroom]
    have hrest : Conserved { w with adding := w.adding.eraseIdx k } :=
      ⟨h.1, h.2, h.3⟩
    exact conserved_addConnection_iff hrest hget hlock now raises
  | cancelClose i =>
    obtain ⟨m, hm, hmap⟩ := Option.bind_eq_some_iff.mp hs
    obtain ⟨c, hc, rfl⟩ := Option.map_eq_some_iff.mp hmap
    refine ⟨fun hafter => ?_, fun hfalse => hfalse.elim⟩
    -- the slot of the connection that was being closed is lost
    have hcount := hafter.count
    have hbefore := h.count
    have hsum := sum_map_set held hm { m with closing := none }
    have hheld : held m = held { m with closing := none } + 1 := by
      unfold held
      rw [hc]
      rfl
    simp only [ProxyConnections.put] at hcount
    omega
  | dropAdd k =>
    obtain ⟨a, -, rfl⟩ := Option.map_eq_some_iff.mp hs
    exact iff_of_true ⟨h.1, h.2, h.3⟩ trivial
  | remove i g =>
    obtain ⟨m, hm, rfl⟩ := Option.map_eq_some_iff.mp hs
    exact iff_of_true (h.remove hm [g]) trivial
  | closeAll i =>
    obtain ⟨m, hm, rfl⟩ := Option.map_eq_some_iff.mp hs
    exact iff_of_true (h.remove hm _) trivial
  | closeDone i =>
    obtain ⟨m, hm, hmap⟩ := Option.bind_eq_some_iff.mp hs
    obtain ⟨c, hc, rfl⟩ := Option.map_eq_some_iff.mp hmap
    refine iff_of_true (h.put hm ?_) trivial
    have hrest := held_removeConnectionsUnsafe (m := m) w.isClosed c.games
    have hheld : held m = m.connections.size + 1 := by
      unfold held
      rw [hc]
      rfl
    dsimp only
    omega
  | markFailed i g =>
    obtain ⟨m, hm, rfl⟩ := Option.map_eq_some_iff.mp hs
    have hget := (unlocked?_eq_some hm).1
    exact iff_of_true (h.keep hget (held_markConnectionFailed g)) trivial
  | isHealthy i g =>
    obtain ⟨m, hm, rfl⟩ := Option.map_eq_some_iff.mp hs
    have hget := (unlocked?_eq_some hm).1
    exact iff_of_true (h.keep hget (held_isConnectionHealthy g)) trivial
  | getHealthy i g now =>
    obtain ⟨m, hm, rfl⟩ := Option.map_eq_some_iff.mp hs
    have hget := (unlocked?_eq_some hm).1
    refine iff_of_true (h.keep hget ?_) trivial
    exact (held_getConnection g now).trans (held_isConnectionHealthy g)
  | get i g now =>
    obtain ⟨m, hm, rfl⟩ := Option.map_eq_some_iff.mp hs
    have hget := (unlocked?_eq_some hm).1
    exact iff_of_true (h.keep hget (held_getConnection g now)) trivial
  | snapshot i | collect i now =>
    obtain ⟨m, hm, rfl⟩ := Option.map_eq_some_iff.mp hs
    have hm' := (Option.filter_eq_some_iff.mp hm).1
    exact iff_of_true (h.keep (unlocked?_eq_some hm').1 rfl) trivial
  | check i =>
    obtain ⟨m, hm, hr⟩ := Option.bind_eq_some_iff.mp hs
    obtain ⟨r, -, hnext⟩ := Option.bind_eq_some_iff.mp hr
    split at hnext
    next g info rest _ _ =>
      cases hnext
      exact iff_of_true (h.keep hm (held_checkNext r g info rest)) trivial
    next => cases hnext
  | pinged i ok =>
    obtain ⟨m, hm, hr⟩ := Option.bind_eq_some_iff.mp hs
    obtain ⟨r, -, hnext⟩ := Option.bind_eq_some_iff.mp hr
    split at hnext
    next g info rest _ _ =>
      cases ok with
      | true | false =>
        cases hnext
        exact iff_of_true (h.keep hm rfl) trivial
    next => cases hnext
  | mark i =>
    obtain ⟨m, hm, hr⟩ := Option.bind_eq_some_iff.mp hs
    obtain ⟨r, -, rfl⟩ := Option.map_eq_some_iff.mp hr
    have hget := (unlocked?_eq_some hm).1
    exact iff_of_true (h.keep hget (held_markUnhealthy r)) trivial
  | removeCandidate i =>
    obtain ⟨m, hm, hl⟩ := Option.bind_eq_some_iff.mp hs
    obtain ⟨l, -, hnext⟩ := Option.bind_eq_some_iff.mp hl
    obtain ⟨hget, hlock⟩ := unlocked?_eq_some hm
    cases l with
    | nil =>
      cases hnext
      exact iff_of_true (h.keep hget rfl) trivial
    | cons c rest =>
      cases hnext
      refine iff_of_true (h.put hget ?_) trivial
      rw [held_of_unlocked hlock]
      exact held_removeConnectionsUnsafe
        (m := { m with cleanup := some rest }) w.isClosed [c.1]
  | cancelHealth i | cancelCleanup i =>
    obtain ⟨m, hm, rfl⟩ := Option.map_eq_some_iff.mp hs
    exact iff_of_true (h.keep hm rfl) trivial
  | socketClosed c =>
    cases hs
    exact iff_of_true ⟨h.1, h.2, h.3⟩ trivial

theorem conserved_start (capacities : List Nat) :
    (start capacities).Conserved := by
  refine ⟨?_, Nat.zero_le _, rfl⟩
  show 0 = ((capacities.map ConnectionStateManager.new).map held).sum
  induction capacities with
  | nil => rfl
  | cons capacity rest ih =>
    rw [List.map_cons, List.map_cons, List.sum_cons, ← ih]
    rfl

/-- Along a run with any number of managers the slots are conserved and
no replacement is refused exactly as long as no removal is cancelled in
its close and every game that asks for another connection finds room. -/
theorem slots_conserved_iff (capacities : List Nat)
    (events : List ConnectionEvent) :
    runs.Always Conserved (start capacities) events
      ↔ runs.Along HasRoom (start capacities) events := by
  refine Lts.always_iff_along (I := Conserved) ?_
    (conserved_start capacities) events
  intro w e w' h hs
  exact conserved_step_iff h hs

/-- A manager for one game: its second connection is refused, and one
that is cancelled in its close leaves a slot behind. -/
theorem replacement_refused :
    ¬ runs.Always Conserved (start [1]) [.add 0 "game" 1,
        .addLocked 0 0 false, .add 0 "game" 2, .addLocked 0 1 false]
      ∧ (runs.exec (start [1]) [.add 0 "game" 1, .addLocked 0 0 false,
        .add 0 "game" 2, .addLocked 0 1 false]).map (·.refused)
          = some [(0, "game")]
      ∧ (runs.exec (start [1]) [.add 0 "game" 1, .addLocked 0 0 false,
        .collect 0 1, .remove 0 "game", .cancelClose 0]).map
          (fun w => (w.globalCount, w.managers.map held)) = some (1, [0]) :=
  ⟨by decide +kernel, by decide +kernel, by decide +kernel⟩

end ProxyConnections

end Freeciv3d.Gateway.ConnectionStates
