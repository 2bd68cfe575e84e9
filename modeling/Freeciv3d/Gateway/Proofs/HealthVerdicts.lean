/-
Health checks and clean-ups act on the connection they have seen to
fail, as long as the game was not given another one in between.

# The invariant

An entry that is not connected, or has a failure or a retry to its
name, belongs to a connection that failed (`Blamed`), and so do the
entries of the rounds' lists. A round then only has to meet the
connection of its list again; it looks it up by the game.
-/
import Freeciv3d.Gateway.ConnectionStates

namespace Freeciv3d.Gateway.ConnectionStates

open Lib

namespace ConnectionInfo

/-- Something has been held against the entry. -/
def Blamed (info : ConnectionInfo) : Prop :=
  info.status ≠ .connected ∨ 0 < info.retryCount
    ∨ 0 < info.healthCheckFailures

theorem blamed_of_isCandidate {info : ConnectionInfo} {now : Rat}
    (h : ConnectionStateManager.isCandidate info now = true) :
    info.Blamed := by
  unfold ConnectionStateManager.isCandidate at h
  rcases of_decide_eq_true h with hfailures | hretries | ⟨hstatus, -⟩
  · exact .inr (.inr (Nat.lt_of_lt_of_le (by decide) hfailures))
  · exact .inr (.inl (Nat.lt_of_lt_of_le (by decide) hretries))
  · refine .inl ?_
    rcases hstatus with hf | hd
    · rw [hf]
      decide
    · rw [hd]
      decide

end ConnectionInfo

namespace ConnectionStateManager

/-- Whoever is blamed has failed. -/
structure Sound (m : ConnectionStateManager) : Prop where
  entries : ∀ g info, m.connections.get? g = some info → info.Blamed →
    info.connection ∈ m.failed
  unhealthy : ∀ r ∈ m.health, ∀ u ∈ r.unhealthy, u.2 ∈ m.failed
  candidates : ∀ l ∈ m.cleanup, ∀ c ∈ l, c.2 ∈ m.failed
  verdicts : ∀ c ∈ m.marked ++ m.closed, c ∈ m.failed

variable {m : ConnectionStateManager} {isClosed : Nat → Bool}
  {g : String} {info : ConnectionInfo}

-- ==== the entries

theorem Sound.erase (h : m.Sound) (g : String)
    (closing : Option Closing) :
    Sound { m with
      connections := m.connections.erase g, closing := closing } := by
  refine ⟨?_, h.unhealthy, h.candidates, h.verdicts⟩
  intro g' info hget
  rw [Dict.get?_erase] at hget
  split at hget
  · cases hget
  · exact h.entries g' info hget

theorem Sound.closing (h : m.Sound) (closing : Option Closing) :
    Sound { m with closing := closing } :=
  ⟨h.entries, h.unhealthy, h.candidates, h.verdicts⟩

theorem Sound.set (h : m.Sound) (g : String) (connection : Nat)
    (now : Rat) :
    let info : ConnectionInfo := ⟨connection, .connected, now, 0, 0⟩
    Sound { m with connections := m.connections.set g info } := by
  refine ⟨?_, h.unhealthy, h.candidates, h.verdicts⟩
  intro g' info hget hblamed
  rw [Dict.get?_set] at hget
  split at hget
  · cases hget
    rcases hblamed with hstatus | hretry | hfailures
    · exact absurd rfl hstatus
    · exact absurd hretry (Nat.lt_irrefl 0)
    · exact absurd hfailures (Nat.lt_irrefl 0)
  · exact h.entries g' info hget hblamed

theorem Sound.removeConnectionsUnsafe (h : m.Sound)
    (isClosed : Nat → Bool) (games : List String) :
    (m.removeConnectionsUnsafe isClosed games).1.Sound := by
  induction games generalizing m with
  | nil => exact h.closing none
  | cons g rest ih =>
    unfold ConnectionStateManager.removeConnectionsUnsafe
    split
    · exact ih h
    · dsimp only
      split
      · exact ih (h.erase g m.closing)
      · exact h.erase g _

theorem failed_removeConnectionsUnsafe (games : List String) :
    (m.removeConnectionsUnsafe isClosed games).1.failed = m.failed := by
  induction games generalizing m with
  | nil => rfl
  | cons g rest ih =>
    unfold ConnectionStateManager.removeConnectionsUnsafe
    split
    · exact ih
    · dsimp only
      split
      · exact ih
      · rfl

/-- An update of one entry that keeps its connection, once that has
failed. -/
theorem Sound.modify (h : m.Sound) {f : ConnectionInfo → ConnectionInfo}
    (hf : ∀ info, (f info).connection = info.connection)
    (hg : m.connections.get? g = some info) (hfail : info.connection ∈ m.failed)
    (marked : List Nat) (hmarked : ∀ c ∈ marked, c ∈ m.failed) :
    Sound { m with
      connections := m.connections.modify g f, marked := marked } := by
  refine ⟨?_, h.unhealthy, h.candidates, ?_⟩
  · intro g' info' hget hblamed
    rw [Dict.get?_modify] at hget
    split at hget
    next heq =>
      subst heq
      rw [hg] at hget
      cases hget
      rw [hf]
      exact hfail
    next => exact h.entries g' info' hget hblamed
  · intro c hc
    rcases List.mem_append.mp hc with hc | hc
    · exact hmarked c hc
    · exact h.verdicts c (List.mem_append_right _ hc)

theorem Sound.fail (h : m.Sound) (c : Nat) :
    Sound { m with failed := m.failed ++ [c] } where
  entries g info hget hblamed :=
    List.mem_append_left _ (h.entries g info hget hblamed)
  unhealthy r hr u hu := List.mem_append_left _ (h.unhealthy r hr u hu)
  candidates l hl c' hc' :=
    List.mem_append_left _ (h.candidates l hl c' hc')
  verdicts c' hc' := List.mem_append_left _ (h.verdicts c' hc')

theorem Sound.markConnectionFailed (h : m.Sound) (g : String) :
    (m.markConnectionFailed g).Sound := by
  unfold ConnectionStateManager.markConnectionFailed
  split
  · exact h
  next info hg =>
    have hfail := h.fail info.connection
    refine hfail.modify ?_ hg ?_ m.marked ?_
    · exact fun _ => rfl
    · exact List.mem_append_right _ List.mem_cons_self
    · exact fun c hc => hfail.verdicts c (List.mem_append_left _ hc)

theorem Sound.isConnectionHealthy (h : m.Sound) (g : String) :
    (m.isConnectionHealthy isClosed g).Sound := by
  unfold ConnectionStateManager.isConnectionHealthy
  split
  · exact h
  next info hg =>
    split
    · have hfail := h.fail info.connection
      dsimp only [markConnectionUnhealthyUnsafe]
      refine hfail.modify ?_ hg ?_ m.marked ?_
      · exact fun _ => rfl
      · exact List.mem_append_right _ List.mem_cons_self
      · exact fun c hc => hfail.verdicts c (List.mem_append_left _ hc)
    · exact h

theorem Sound.getConnection (h : m.Sound) (g : String) (now : Rat) :
    (m.getConnection g now).Sound := by
  refine ⟨?_, h.unhealthy, h.candidates, h.verdicts⟩
  intro g' info' hget hblamed
  unfold ConnectionStateManager.getConnection at hget
  rw [Dict.get?_modify] at hget
  split at hget
  next heq =>
    subst heq
    obtain ⟨info, hinfo, rfl⟩ := Option.map_eq_some_iff.mp hget
    split at hblamed
    next hstatus =>
      have hold := h.entries g' info hinfo hblamed
      rw [if_pos hstatus]
      exact hold
    next hstatus =>
      rw [if_neg hstatus]
      exact h.entries g' info hinfo hblamed
  next => exact h.entries g' info' hget hblamed

-- ==== the rounds

theorem Sound.takeSnapshot (h : m.Sound) : m.takeSnapshot.Sound := by
  refine ⟨h.entries, ?_, h.candidates, h.verdicts⟩
  intro r hr u hu
  cases hr
  cases hu

theorem Sound.health (h : m.Sound) {r : HealthRound}
    (hr : m.health = some r) (snapshot : List (String × ConnectionInfo))
    (pinging : Bool) :
    Sound { m with health := some ⟨snapshot, pinging, r.unhealthy⟩ } := by
  refine ⟨h.entries, ?_, h.candidates, h.verdicts⟩
  intro r' hr' u hu
  cases hr'
  exact h.unhealthy r hr u hu

theorem Sound.failCheck (h : m.Sound) {r : HealthRound}
    (hr : m.health = some r) (g : String) (info : ConnectionInfo)
    (rest : List (String × ConnectionInfo)) :
    (m.failCheck r g info rest).Sound := by
  have hfail := h.fail info.connection
  refine ⟨hfail.entries, ?_, hfail.candidates, hfail.verdicts⟩
  intro r' hr' u hu
  cases hr'
  rcases List.mem_append.mp hu with hold | hnew
  · exact hfail.unhealthy r hr u hold
  · rw [List.mem_singleton.mp hnew]
    exact List.mem_append_right _ List.mem_cons_self

theorem Sound.checkNext (h : m.Sound) {r : HealthRound}
    (hr : m.health = some r) (g : String) (info : ConnectionInfo)
    (rest : List (String × ConnectionInfo)) :
    (m.checkNext isClosed r g info rest).Sound := by
  unfold ConnectionStateManager.checkNext
  split
  · exact h.health hr rest r.pinging
  · split
    · exact h.failCheck hr g info rest
    · exact h.health hr r.snapshot true

theorem Sound.markOne (h : m.Sound) {u : String × Nat}
    (hu : u.2 ∈ m.failed) (hsame : ∀ info ∈ m.connections.get? u.1,
      info.status = .connected → info.connection = u.2) :
    (m.markOne u.1).Sound := by
  unfold ConnectionStateManager.markOne
  split
  · exact h
  next info hg =>
    split
    next hstatus =>
      have hfail : info.connection ∈ m.failed := by
        rw [hsame info hg hstatus]
        exact hu
      dsimp only [markConnectionUnhealthyUnsafe]
      refine h.modify ?_ hg hfail _ ?_
      · exact fun _ => rfl
      · intro c hc
        rcases List.mem_append.mp hc with hold | hnew
        · exact h.verdicts c (List.mem_append_left _ hold)
        · rw [List.mem_singleton.mp hnew]
          exact hfail
    next => exact h

theorem failed_markOne (m : ConnectionStateManager) (g : String) :
    (m.markOne g).failed = m.failed := by
  unfold ConnectionStateManager.markOne
  split
  · rfl
  · split
    · rfl
    · rfl

/-- Marking puts no game in another's place: what is still connected has
the connection it had. -/
theorem connected_markOne {g g' : String} {info : ConnectionInfo}
    (hget : (m.markOne g).connections.get? g' = some info)
    (hstatus : info.status = .connected) :
    m.connections.get? g' = some info := by
  unfold ConnectionStateManager.markOne at hget
  split at hget
  · exact hget
  · split at hget
    next =>
      change (m.connections.modify g _).get? g' = some info at hget
      rw [Dict.get?_modify] at hget
      split at hget
      next =>
        obtain ⟨old, -, rfl⟩ := Option.map_eq_some_iff.mp hget
        cases hstatus
      next => exact hget
    next => exact hget

/-- The marking, by induction over the games that failed. -/
theorem Sound.markUnhealthy (h : m.Sound) {r : HealthRound}
    (hr : m.health = some r) (hsame : ∀ u ∈ r.unhealthy,
      ∀ info ∈ m.connections.get? u.1, info.status = .connected →
        info.connection = u.2) : (m.markUnhealthy r).Sound := by
  have hfold : ∀ (us : List (String × Nat)) (m : ConnectionStateManager),
      m.Sound → (∀ u ∈ us, u.2 ∈ m.failed) →
      (∀ u ∈ us, ∀ info ∈ m.connections.get? u.1,
        info.status = .connected → info.connection = u.2) →
      (us.foldl (fun m u => m.markOne u.1) m).Sound := by
    intro us
    induction us with
    | nil => exact fun m h _ _ => h
    | cons u rest ih =>
      intro m h hfailed hsame
      rw [List.foldl_cons]
      refine ih _ ?_ ?_ ?_
      · exact h.markOne (hfailed u List.mem_cons_self)
          (hsame u List.mem_cons_self)
      · intro u' hu'
        rw [failed_markOne]
        exact hfailed u' (List.mem_cons_of_mem _ hu')
      · intro u' hu' info hget hstatus
        exact hsame u' (List.mem_cons_of_mem _ hu') info
          (connected_markOne hget hstatus) hstatus
  refine hfold r.unhealthy { m with health := none } ?_
    (h.unhealthy r hr) hsame
  exact ⟨h.entries, nofun, h.candidates, h.verdicts⟩

theorem Sound.collect (h : m.Sound) (now : Rat) : (m.collect now).Sound := by
  refine ⟨h.entries, h.unhealthy, ?_, h.verdicts⟩
  intro l hl c hc
  cases hl
  obtain ⟨e, he, rfl⟩ := List.mem_map.mp hc
  obtain ⟨hmem, hcandidate⟩ := List.mem_filter.mp he
  exact h.entries e.1 e.2 (Dict.mem_entries_iff.mp hmem)
    (ConnectionInfo.blamed_of_isCandidate hcandidate)

theorem Sound.cleanup (h : m.Sound) {l : Option (List (String × Nat))}
    (hl : ∀ l' ∈ l, ∀ c ∈ l', c.2 ∈ m.failed) :
    Sound { m with cleanup := l } :=
  ⟨h.entries, h.unhealthy, hl, h.verdicts⟩

theorem Sound.removeCandidate (h : m.Sound) {g : String} {c : Nat}
    {rest : List (String × Nat)} (hl : m.cleanup = some ((g, c) :: rest))
    (hsame : ∀ info ∈ m.connections.get? g, info.connection = c) :
    (m.removeCandidate isClosed g rest).1.Sound := by
  have hc := h.candidates _ hl
  have hrest : Sound { m with cleanup := some rest } := by
    refine h.cleanup ?_
    intro l' hl' c' hc'
    cases hl'
    exact hc c' (List.mem_cons_of_mem _ hc')
  have hremoved := hrest.removeConnectionsUnsafe isClosed [g]
  refine ⟨hremoved.entries, hremoved.unhealthy, hremoved.candidates, ?_⟩
  intro c' hc'
  rcases List.mem_append.mp hc' with hmarked | hclosed
  · exact hremoved.verdicts c' (List.mem_append_left _ hmarked)
  · rcases List.mem_append.mp hclosed with hold | hnew
    · exact hremoved.verdicts c' (List.mem_append_right _ hold)
    · -- the connection that is closed is the one collected
      obtain ⟨info, hinfo, rfl⟩ :=
        Option.map_eq_some_iff.mp (Option.mem_toList.mp hnew)
      have hg := (Option.filter_eq_some_iff.mp hinfo).1
      rw [hsame info hg]
      show c ∈ (ConnectionStateManager.removeConnectionsUnsafe isClosed _
        [g]).1.failed
      rw [failed_removeConnectionsUnsafe]
      exact hc _ List.mem_cons_self

end ConnectionStateManager

namespace ProxyConnections

variable {w w' : ProxyConnections} {i : Nat} {m : ConnectionStateManager}

-- ==== the system

def AllSound (w : ProxyConnections) : Prop := ∀ m ∈ w.managers, m.Sound

theorem AllSound.put (h : w.AllSound) {r : ConnectionStateManager × Nat}
    (hr : r.1.Sound) : (w.put i r).AllSound := by
  intro m hm
  rcases List.mem_or_eq_of_mem_set hm with hold | rfl
  · exact h m hold
  · exact hr

theorem AllSound.get (h : w.AllSound) (hm : w.managers[i]? = some m) :
    m.Sound :=
  h m (List.mem_of_getElem? hm)

theorem get_of_unlocked? (h : w.unlocked? i = some m) :
    w.managers[i]? = some m :=
  (Option.filter_eq_some_iff.mp h).1

theorem AllSound.unlocked (h : w.AllSound) (hm : w.unlocked? i = some m) :
    m.Sound :=
  h.get (get_of_unlocked? hm)

theorem AllSound.refuse (h : w.AllSound) (i : Nat) (g : String) :
    (w.refuse i m g).AllSound := by
  unfold ProxyConnections.refuse
  split
  · exact h
  · exact h

theorem AllSound.addConnection (h : w.AllSound) {a : Adding} (hm : m.Sound)
    (now : Rat) (raises : Bool) :
    (w.addConnection a m now raises).AllSound := by
  have herase := hm.erase a.gameId m.closing
  unfold ProxyConnections.addConnection
  split
  · exact h.refuse a.manager a.gameId
  · split
    · exact h.refuse a.manager a.gameId
    · dsimp only
      split
      · exact AllSound.put h herase
      · exact AllSound.put h (herase.set a.gameId a.connection now)

/-- Every step keeps the managers sound, if the rounds meet the
connections they have seen. -/
theorem AllSound.step (h : w.AllSound) {e : ConnectionEvent}
    (hsame : w.SameConnection e) (hs : w.step e = some w') :
    w'.AllSound := by
  cases e with
  | add i g c =>
    obtain ⟨m, hm, rfl⟩ := Option.map_eq_some_iff.mp hs
    split
    · exact h.refuse i g
    · exact h
  | addLocked k now raises =>
    obtain ⟨a, -, ha⟩ := Option.bind_eq_some_iff.mp hs
    obtain ⟨m, hm, rfl⟩ := Option.map_eq_some_iff.mp ha
    have hrest : AllSound { w with adding := w.adding.eraseIdx k } := h
    exact hrest.addConnection (h.unlocked hm) now raises
  | dropAdd k =>
    obtain ⟨a, -, rfl⟩ := Option.map_eq_some_iff.mp hs
    exact h
  | remove i g =>
    obtain ⟨m, hm, rfl⟩ := Option.map_eq_some_iff.mp hs
    exact h.put ((h.unlocked hm).removeConnectionsUnsafe _ [g])
  | closeAll i =>
    obtain ⟨m, hm, rfl⟩ := Option.map_eq_some_iff.mp hs
    exact h.put ((h.unlocked hm).removeConnectionsUnsafe _ _)
  | closeDone i =>
    obtain ⟨m, hm, hc⟩ := Option.bind_eq_some_iff.mp hs
    obtain ⟨c, -, rfl⟩ := Option.map_eq_some_iff.mp hc
    exact h.put ((h.get hm).removeConnectionsUnsafe _ c.games)
  | cancelClose i =>
    obtain ⟨m, hm, hc⟩ := Option.bind_eq_some_iff.mp hs
    obtain ⟨c, -, rfl⟩ := Option.map_eq_some_iff.mp hc
    exact h.put ((h.get hm).closing none)
  | markFailed i g =>
    obtain ⟨m, hm, rfl⟩ := Option.map_eq_some_iff.mp hs
    exact h.put ((h.unlocked hm).markConnectionFailed g)
  | isHealthy i g =>
    obtain ⟨m, hm, rfl⟩ := Option.map_eq_some_iff.mp hs
    exact h.put ((h.unlocked hm).isConnectionHealthy g)
  | getHealthy i g now =>
    obtain ⟨m, hm, rfl⟩ := Option.map_eq_some_iff.mp hs
    exact h.put (((h.unlocked hm).isConnectionHealthy g).getConnection g now)
  | get i g now =>
    obtain ⟨m, hm, rfl⟩ := Option.map_eq_some_iff.mp hs
    exact h.put ((h.unlocked hm).getConnection g now)
  | snapshot i =>
    obtain ⟨m, hm, rfl⟩ := Option.map_eq_some_iff.mp hs
    have hm' := (Option.filter_eq_some_iff.mp hm).1
    exact h.put (h.unlocked hm').takeSnapshot
  | check i =>
    obtain ⟨m, hm, hr⟩ := Option.bind_eq_some_iff.mp hs
    obtain ⟨r, hround, hnext⟩ := Option.bind_eq_some_iff.mp hr
    split at hnext
    next g info rest _ _ =>
      cases hnext
      exact h.put ((h.get hm).checkNext hround g info rest)
    next => cases hnext
  | pinged i ok =>
    obtain ⟨m, hm, hr⟩ := Option.bind_eq_some_iff.mp hs
    obtain ⟨r, hround, hnext⟩ := Option.bind_eq_some_iff.mp hr
    split at hnext
    next g info rest _ _ =>
      cases ok with
      | true =>
        cases hnext
        exact h.put ((h.get hm).health hround rest false)
      | false =>
        cases hnext
        exact h.put ((h.get hm).failCheck hround g info rest)
    next => cases hnext
  | mark i =>
    obtain ⟨m, hm, hr⟩ := Option.bind_eq_some_iff.mp hs
    obtain ⟨r, hround, rfl⟩ := Option.map_eq_some_iff.mp hr
    have hround' := (Option.filter_eq_some_iff.mp hround).1
    refine h.put ((h.unlocked hm).markUnhealthy hround' ?_)
    exact hsame m (get_of_unlocked? hm) r hround'
  | collect i now =>
    obtain ⟨m, hm, rfl⟩ := Option.map_eq_some_iff.mp hs
    have hm' := (Option.filter_eq_some_iff.mp hm).1
    exact h.put ((h.unlocked hm').collect now)
  | removeCandidate i =>
    obtain ⟨m, hm, hl⟩ := Option.bind_eq_some_iff.mp hs
    obtain ⟨l, hlist, hnext⟩ := Option.bind_eq_some_iff.mp hl
    cases l with
    | nil =>
      cases hnext
      exact h.put ((h.unlocked hm).cleanup nofun)
    | cons c rest =>
      cases hnext
      refine h.put ((h.unlocked hm).removeCandidate hlist ?_)
      exact hsame m (get_of_unlocked? hm) _ hlist c rfl
  | cancelHealth i =>
    obtain ⟨m, hm, rfl⟩ := Option.map_eq_some_iff.mp hs
    have hsound := h.get hm
    exact h.put ⟨hsound.entries, nofun, hsound.candidates, hsound.verdicts⟩
  | cancelCleanup i =>
    obtain ⟨m, hm, rfl⟩ := Option.map_eq_some_iff.mp hs
    exact h.put ((h.get hm).cleanup nofun)
  | socketClosed c =>
    cases hs
    exact h

theorem allSound_start (capacities : List Nat) :
    (start capacities).AllSound := by
  intro m hm
  obtain ⟨capacity, -, rfl⟩ := List.mem_map.mp hm
  exact ⟨nofun, nofun, nofun, nofun⟩

/-- In every state of a run whose rounds act on the connections they
have seen, what they marked or closed had failed, or been reported. -/
theorem verdicts_hit (w : ProxyConnections)
    (hw : runs.ReachVia SameConnection w) : w.VerdictsHit := by
  have hsound : w.AllSound := by
    refine Lts.ReachVia.invariant (I := AllSound) ?_ ?_ hw
    · rintro w ⟨capacities, rfl⟩
      exact allSound_start capacities
    · intro w e w' h hsame hs
      exact h.step hsame hs
  intro m hm
  exact (hsound m hm).verdicts

/-- The game's connection fails its check, and is replaced and removed
later. -/
def failedCheckEvents : List ConnectionEvent :=
  [.add 0 "game" 1, .addLocked 0 0 false, .snapshot 0, .check 0,
    .pinged 0 false, .mark 0, .collect 0 4000, .removeCandidate 0,
    .closeDone 0, .add 0 "game" 2, .addLocked 0 4001 false]

theorem verdicts_hit_failed_check :
    (runs.exec (start [50]) failedCheckEvents).map (fun w =>
        w.managers.map fun m => (m.marked, m.closed, m.failed))
          = some [([1], [1], [1])]
      ∧ ∀ w ∈ runs.exec (start [50]) failedCheckEvents, w.VerdictsHit := by
  refine ⟨by decide +kernel, ?_⟩
  intro w hw
  refine verdicts_hit w ?_
  have hstart : runs.ReachVia SameConnection (start [50]) :=
    .init ⟨[50], rfl⟩
  exact hstart.exec (by decide +kernel) hw

/-- The game gets another connection while the first is being pinged. -/
def replacedInPingEvents : List ConnectionEvent :=
  [.add 0 "game" 1, .addLocked 0 0 false, .snapshot 0, .check 0,
    .add 0 "game" 2, .addLocked 0 1 false, .pinged 0 false, .mark 0]

/-- The second game gets another connection while the clean-up closes
that of the first. -/
def replacedInCleanupEvents : List ConnectionEvent :=
  [.add 0 "a" 1, .addLocked 0 0 false, .add 0 "b" 2, .addLocked 0 0 false,
    .markFailed 0 "a", .markFailed 0 "a", .markFailed 0 "a",
    .markFailed 0 "b", .markFailed 0 "b", .markFailed 0 "b",
    .collect 0 1, .removeCandidate 0, .add 0 "b" 3, .closeDone 0,
    .addLocked 0 2 false, .removeCandidate 0]

/-- Connection 2 is marked for connection 1, and 3 is closed for 2. -/
theorem verdict_hits_replacement :
    ¬ (∀ w, runs.Reach w → w.VerdictsHit)
      ∧ (runs.exec (start [50]) replacedInPingEvents).map (fun w =>
        w.managers.map fun m => (m.marked, m.failed)) = some [([2], [1])]
      ∧ (runs.exec (start [50]) replacedInCleanupEvents).map (fun w =>
        w.managers.map fun m => (m.closed, m.failed))
          = some [([1, 3], [1, 1, 1, 2, 2, 2])] := by
  refine ⟨?_, by decide +kernel, by decide +kernel⟩
  intro h
  have hmiss : (runs.exec (start [50]) replacedInPingEvents).any
      (fun w => !decide w.VerdictsHit) = true := by decide +kernel
  obtain ⟨w, hw, hverdict⟩ := (Option.any_eq_true _ _).mp hmiss
  have hreach := (Lts.Reach.init (T := runs) (s := start [50])
    ⟨[50], rfl⟩).exec hw
  rw [decide_eq_true (h w hreach)] at hverdict
  cases hverdict

end ProxyConnections

end Freeciv3d.Gateway.ConnectionStates
