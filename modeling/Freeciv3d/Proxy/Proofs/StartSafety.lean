/-
`/start` is sent once at most; and it is sent to a game that is not
over, with enough players who have all selected a nation and are ready,
in every run in which the game is still so when the task wakes.

# The second look

`_check_ready_to_start` asks for enough players, for all nations and for
all marks. Half a second later the task asks for the marks only: players
may have left, one may have come who is ready without a nation, and the
game may be over. That it is sent once needs no second look: a second
task is made only after the first one has ended without sending.
-/
import Freeciv3d.Proxy.GameSession

namespace Freeciv3d.Proxy

open Lib

variable {gameId : GameId} {civserverPort : Int} {minPlayers : Nat}
  {createdAt : Int} {s s' : StartRun}

-- ==== what stays the same

namespace GameSession

@[simp] theorem gameStarted_markGameOver (s : GameSession) (now : Int) :
    (s.markGameOver now).gameStarted = s.gameStarted := by
  unfold markGameOver
  split <;> rfl

theorem pauseGame_cases (s : GameSession) (t : Option Int) (sent : Bool)
    (now : Int) :
    (s.pauseGame t sent now).1.gameStarted = s.gameStarted
      ∧ (s.pauseGame t sent now).1.gameIsOver = s.gameIsOver := by
  unfold pauseGame
  split
  · exact ⟨rfl, rfl⟩
  · dsimp only
    split <;> exact ⟨rfl, rfl⟩

@[simp] theorem gameStarted_softTerminate (s : GameSession)
    (civcom : Option (Option Int)) (sent : Bool) (now : Int) :
    (s.softTerminate civcom sent now).gameStarted = s.gameStarted := by
  unfold softTerminate
  cases civcom with
  | none => rfl
  | some t => exact (s.pauseGame_cases t sent now).1

theorem admitWhileReleasing_cases (s : GameSession) (now : Int) :
    (s.admitWhileReleasing now).1.gameStarted = s.gameStarted
      ∧ (s.admitWhileReleasing now).1.gameIsOver = s.gameIsOver
      ∧ (s.admitWhileReleasing now).1.phase = s.phase := by
  unfold admitWhileReleasing
  split
  · exact ⟨rfl, rfl, rfl⟩
  · split <;> exact ⟨rfl, rfl, rfl⟩

/-- A new player may move the phase on from the waiting phase, and does
nothing else to it. -/
theorem addPlayer_cases (s : GameSession) (a : AgentId) (p : Int)
    (h : HandlerId) (now : Int) :
    (s.addPlayer a p h now).1.gameStarted = s.gameStarted
      ∧ (s.addPlayer a p h now).1.gameIsOver = s.gameIsOver
      ∧ (s.phase ≠ .waitingForPlayers →
          (s.addPlayer a p h now).1.phase = s.phase) := by
  obtain ⟨hstarted, hover, hphase⟩ := s.admitWhileReleasing_cases now
  unfold addPlayer
  dsimp only
  rw [← hstarted, ← hover, ← hphase]
  generalize s.admitWhileReleasing now = admitted
  split
  · exact ⟨rfl, rfl, fun _ => rfl⟩
  · split
    · exact ⟨rfl, rfl, fun _ => rfl⟩
    · split
      · exact ⟨rfl, rfl, fun _ => rfl⟩
      · refine ⟨rfl, rfl, fun hne => ?_⟩
        simp [hne]

theorem leave_cases (s : GameSession) (a : Option AgentId) (now : Int) :
    (s.leave a now).1.gameStarted = s.gameStarted
      ∧ (s.leave a now).1.gameIsOver = s.gameIsOver
      ∧ (s.leave a now).1.phase = s.phase := by
  unfold leave
  cases a with
  | none | some a =>
    dsimp only
    split <;> exact ⟨rfl, rfl, rfl⟩

theorem gameStarted_of_meetsConditions {s : GameSession}
    (h : s.meetsConditions = true) : s.gameStarted = false := by
  unfold meetsConditions at h
  simp only [Bool.and_eq_true, Bool.not_eq_true', Bool.or_eq_false_iff] at h
  exact h.1.1.1.1.1

end GameSession

-- ==== sent once

/-- As long as the task has not sent, nothing was sent. -/
structure StartRun.SentOnce (s : StartRun) : Prop where
  pending : s.task = .sleeping ∨ s.task = .sending →
    s.session.gameStarted = false
  count : s.starts.length = s.session.gameStarted.toNat

namespace StartRun

theorem SentOnce.session (h : s.SentOnce) {t : GameSession}
    (ht : t.gameStarted = s.session.gameStarted) :
    SentOnce { s with session := t } :=
  ⟨fun hp => ht.trans (h.pending hp), h.count.trans (by rw [ht])⟩

theorem SentOnce.checkReadyToStart (h : s.SentOnce) :
    s.checkReadyToStart.SentOnce := by
  unfold StartRun.checkReadyToStart
  split
  case isTrue hready =>
    rw [Bool.and_eq_true] at hready
    have hnot := GameSession.gameStarted_of_meetsConditions hready.1
    exact ⟨fun _ => hnot, h.count⟩
  case isFalse => exact h

theorem SentOnce.mark (h : s.SentOnce) (a : AgentId)
    (f : SessionPlayer → SessionPlayer) : (s.mark a f).SentOnce := by
  unfold StartRun.mark
  split
  · exact (h.session (t := { s.session with
      players := s.session.players.modify a f }) rfl).checkReadyToStart
  · exact h

theorem SentOnce.giveUp (h : s.SentOnce) (phase : GamePhase) :
    (s.giveUp phase).SentOnce :=
  ⟨fun hp => (by rcases hp with hp | hp <;> cases hp), h.count⟩

theorem SentOnce.wake (h : s.SentOnce) (ht : s.task = .sleeping)
    (found : CivComsFound) : (s.wake found).SentOnce := by
  unfold StartRun.wake
  split
  · exact h.giveUp _
  · cases found with
    | missing => exact h.giveUp _
    | dying =>
      dsimp only
      split <;> exact h.giveUp _
    | alive =>
      dsimp only
      split
      · exact h.giveUp _
      · exact ⟨fun _ => h.pending (.inl ht), h.count⟩

theorem SentOnce.send (h : s.SentOnce) (ht : s.task = .sending) :
    s.send.SentOnce := by
  refine ⟨fun hp => (by rcases hp with hp | hp <;> cases hp), ?_⟩
  have hcount := h.count
  rw [h.pending (.inr ht)] at hcount
  show s.starts.length + 1 = 1
  rw [hcount]
  rfl

theorem eq_of_onLoop {t : StartRun} (h : s.onLoop t = some s') :
    s.task ≠ .sending ∧ s' = t := by
  unfold onLoop at h
  split at h
  next => cases h
  next ht => exact ⟨ht, (Option.some.inj h).symm⟩

theorem SentOnce.step {act : StartAct} (h : s.SentOnce)
    (hstep : (startRuns gameId civserverPort minPlayers createdAt).step s
      act = some s') : s'.SentOnce := by
  cases act with
  | addPlayer a p handler now =>
    obtain ⟨-, rfl⟩ := eq_of_onLoop hstep
    exact h.session (s.session.addPlayer_cases a p handler now).1
  | removePlayer a =>
    obtain ⟨-, rfl⟩ := eq_of_onLoop hstep
    exact h.session rfl
  | leave a now =>
    obtain ⟨-, rfl⟩ := eq_of_onLoop hstep
    exact h.session (s.session.leave_cases a now).1
  | markNationSelected a | markPlayerReady a =>
    obtain ⟨-, rfl⟩ := eq_of_onLoop hstep
    exact h.mark a _
  | markGameOver now =>
    cases hstep
    exact h.session (s.session.gameStarted_markGameOver now)
  | softTerminate civcom sent now =>
    obtain ⟨-, rfl⟩ := eq_of_onLoop hstep
    exact h.session (s.session.gameStarted_softTerminate civcom sent now)
  | wake found =>
    simp only [startRuns] at hstep
    split at hstep
    · cases hstep
      exact h.wake ‹_› found
    · cases hstep
  | send =>
    simp only [startRuns] at hstep
    split at hstep
    · cases hstep
      exact h.send ‹_›
    · cases hstep
  | confirm =>
    simp only [startRuns] at hstep
    split at hstep
    · cases hstep
      exact h.giveUp _
    · cases hstep

theorem sentOnce_of_reach
    (h : (startRuns gameId civserverPort minPlayers createdAt).Reach s) :
    s.SentOnce := by
  refine h.invariant (I := SentOnce) ?_
    fun s a s' hs hstep => hs.step hstep
  rintro s rfl
  exact ⟨fun _ => rfl, rfl⟩

end StartRun

-- ==== sent safely

structure GameSession.SafeStart (s : GameSession) : Prop where
  players : s.minPlayers ≤ s.players.size
  nations : ∀ p ∈ s.players.values, p.nationSelected = true
  ready : ∀ p ∈ s.players.values, p.markedReady = true
  running : s.gameIsOver = false

instance (s : GameSession) : Decidable s.SafeStart :=
  decidable_of_iff (s.minPlayers ≤ s.players.size
      ∧ (∀ p ∈ s.players.values, p.nationSelected = true)
      ∧ (∀ p ∈ s.players.values, p.markedReady = true)
      ∧ s.gameIsOver = false)
    ⟨fun ⟨hp, hn, hr, ho⟩ => ⟨hp, hn, hr, ho⟩,
      fun h => ⟨h.players, h.nations, h.ready, h.running⟩⟩

/-- When the task wakes and goes on to send, the game still has enough
players, all with a nation, and is not over; and it is not marked over
before the task has sent. -/
def StillReady (s : StartRun) : StartAct → Prop
  | .wake .alive =>
    s.session.players.size ≠ 0 →
    ¬ s.session.countPlayersReady < s.session.players.size →
      s.session.minPlayers ≤ s.session.players.size
        ∧ ¬ s.session.countNationsSelected < s.session.players.size
        ∧ s.session.gameIsOver = false
  | .markGameOver _ => s.task ≠ .sending
  | _ => True

instance (s : StartRun) (act : StartAct) : Decidable (StillReady s act) := by
  unfold StillReady
  split <;> infer_instance

theorem all_of_countVals {κ ν : Type} {d : Dict κ ν} {p : ν → Bool}
    (h : ¬ d.countVals p < d.size) : ∀ v ∈ d.values, p v = true := by
  have hlen : d.values.length = d.size := List.length_map _
  have heq : d.values.countP p = d.values.length := by
    refine Nat.le_antisymm List.countP_le_length ?_
    rw [hlen]
    exact Nat.not_lt.mp h
  exact List.countP_eq_length.mp heq

namespace StartRun

/-- While the task is about to send, the session is safe to start. -/
structure Safe (s : StartRun) : Prop where
  sending : s.task = .sending → s.session.SafeStart
  sent : ∀ t ∈ s.starts, t.SafeStart

theorem Safe.of_ne (h : s.Safe) (hstarts : s'.starts = s.starts)
    (htask : s'.task ≠ .sending) : s'.Safe :=
  ⟨fun ht => absurd ht htask, hstarts ▸ h.sent⟩

theorem checkReadyToStart_cases (s : StartRun) :
    s.checkReadyToStart.starts = s.starts
      ∧ (s.task ≠ .sending → s.checkReadyToStart.task ≠ .sending) := by
  unfold StartRun.checkReadyToStart
  split
  · refine ⟨rfl, fun ht => ?_⟩
    dsimp only
    split
    · decide
    · exact ht
  · exact ⟨rfl, id⟩

theorem Safe.mark (h : s.Safe) (ht : s.task ≠ .sending) (a : AgentId)
    (f : SessionPlayer → SessionPlayer) : (s.mark a f).Safe := by
  unfold StartRun.mark
  split
  · obtain ⟨hstarts, htask⟩ := checkReadyToStart_cases { s with
      session := { s.session with
        players := s.session.players.modify a f } }
    exact h.of_ne hstarts (htask ht)
  · exact h

theorem Safe.wake (h : s.Safe) {found : CivComsFound}
    (hready : StillReady s (.wake found)) : (s.wake found).Safe := by
  have hgone : ∀ phase, (s.giveUp phase).Safe := fun phase =>
    h.of_ne rfl fun ht => (by cases ht)
  unfold StartRun.wake
  split
  case isTrue => exact hgone _
  case isFalse hcount =>
    cases found with
    | missing => exact hgone _
    | dying =>
      dsimp only
      split <;> exact hgone _
    | alive =>
      dsimp only
      split
      case isTrue => exact hgone _
      case isFalse hsome =>
        obtain ⟨hmin, hnations, hover⟩ := hready hsome hcount
        exact ⟨fun _ => ⟨hmin, all_of_countVals hnations,
          all_of_countVals hcount, hover⟩, h.sent⟩

theorem Safe.send (h : s.Safe) (ht : s.task = .sending) :
    s.send.Safe := by
  refine ⟨fun hp => (by cases hp), fun t htm => ?_⟩
  rcases List.mem_cons.mp htm with rfl | htm
  · exact h.sending ht
  · exact h.sent t htm

theorem Safe.step {act : StartAct} (h : s.Safe) (hready : StillReady s act)
    (hstep : (startRuns gameId civserverPort minPlayers createdAt).step s
      act = some s') : s'.Safe := by
  cases act with
  | addPlayer a p handler now | removePlayer a | leave a now
  | softTerminate civcom sent now =>
    obtain ⟨ht, rfl⟩ := eq_of_onLoop hstep
    exact h.of_ne rfl ht
  | markNationSelected a =>
    obtain ⟨ht, rfl⟩ := eq_of_onLoop hstep
    exact h.mark ht a _
  | markPlayerReady a =>
    obtain ⟨ht, rfl⟩ := eq_of_onLoop hstep
    exact h.mark ht a _
  | markGameOver now =>
    cases hstep
    exact h.of_ne rfl hready
  | wake found =>
    simp only [startRuns] at hstep
    split at hstep
    · cases hstep
      exact h.wake hready
    · cases hstep
  | send =>
    simp only [startRuns] at hstep
    split at hstep
    · cases hstep
      exact h.send ‹_›
    · cases hstep
  | confirm =>
    simp only [startRuns] at hstep
    split at hstep
    · cases hstep
      exact h.of_ne rfl fun ht => (by cases ht)
    · cases hstep

end StartRun

-- ==== the main result

/-- Two players come, choose and are ready; the task is asleep. -/
def bothReady : List StartAct :=
  [.addPlayer "alice" 0 1 0, .addPlayer "bob" 1 2 0,
    .markNationSelected "alice", .markNationSelected "bob",
    .markPlayerReady "alice", .markPlayerReady "bob"]

end Freeciv3d.Proxy
