/-
ENDED stays: once the game is over, the phase is ENDED along a run
exactly as long as no slice writes another phase.

# The writers

None of them looks at `game_is_over`, and `_check_ready_to_start` passes
over the phases STARTING and RUNNING only. So the task that wakes or
confirms, the mark that completes the conditions, and the soft
termination each undo the end. A new player moves on from the waiting
phase only, and the mark itself is the end.
-/
import Freeciv3d.Proxy.Proofs.StartSafety

namespace Freeciv3d.Proxy

open Lib

variable {gameId : GameId} {civserverPort : Int} {minPlayers : Nat}
  {createdAt : Int} {s s' : StartRun}

/-- Over means ENDED. -/
def EndedIsFinal (s : StartRun) : Prop :=
  s.session.gameIsOver = true → s.session.phase = .ended

instance (s : StartRun) : Decidable (EndedIsFinal s) :=
  inferInstanceAs (Decidable (_ → _))

/-- The mark of a player leaves the conditions of a start unmet. -/
def LeavesUnmet (s : GameSession) (agentId : AgentId)
    (f : SessionPlayer → SessionPlayer) : Prop :=
  s.players.contains agentId = true →
    GameSession.meetsConditions
      { s with players := s.players.modify agentId f } = false

/-- Once the game is over nothing writes the phase. -/
def SparesPhase (s : StartRun) : StartAct → Prop
  | .wake _ | .confirm | .softTerminate .. => s.session.gameIsOver = false
  | .markNationSelected a =>
    s.session.gameIsOver = true →
      LeavesUnmet s.session a fun p => { p with nationSelected := true }
  | .markPlayerReady a =>
    s.session.gameIsOver = true →
      LeavesUnmet s.session a fun p => { p with markedReady := true }
  | _ => True

instance (s : StartRun) (act : StartAct) : Decidable (SparesPhase s act) := by
  unfold SparesPhase LeavesUnmet
  split <;> infer_instance

theorem endedIsFinal_of_phase_iff (hphase : s'.session.phase ≠ .ended)
    (hover : s'.session.gameIsOver = s.session.gameIsOver) :
    EndedIsFinal s' ↔ s.session.gameIsOver = false := by
  unfold EndedIsFinal
  rw [hover]
  cases s.session.gameIsOver with
  | false => simp
  | true => simp [hphase]

theorem EndedIsFinal.of_eq (h : EndedIsFinal s)
    (hover : s'.session.gameIsOver = s.session.gameIsOver)
    (hphase : s.session.phase = .ended → s'.session.phase = .ended) :
    EndedIsFinal s' :=
  fun ho => hphase (h (hover ▸ ho))

theorem mark_iff (h : EndedIsFinal s) (a : AgentId)
    (f : SessionPlayer → SessionPlayer) :
    EndedIsFinal (s.mark a f)
      ↔ (s.session.gameIsOver = true → LeavesUnmet s.session a f) := by
  unfold StartRun.mark LeavesUnmet
  split
  case isFalse hno =>
    exact iff_of_true h fun _ hthere => absurd hthere hno
  case isTrue hthere =>
    unfold StartRun.checkReadyToStart
    split
    case isTrue hready =>
      rw [Bool.and_eq_true] at hready
      unfold EndedIsFinal
      constructor
      · intro hend hover
        cases hend hover
      · intro hunmet hover
        rw [hunmet hover hthere] at hready
        cases hready.1
    case isFalse hnot =>
      refine iff_of_true h fun hover _ => ?_
      rw [Bool.and_eq_true, not_and, Bool.not_eq_true] at hnot
      rw [← Bool.not_eq_true]
      intro hmeets
      have hphase := hnot hmeets
      rw [h hover] at hphase
      cases hphase

theorem wake_phase (s : StartRun) (found : CivComsFound) :
    (s.wake found).session.phase ≠ .ended
      ∧ (s.wake found).session.gameIsOver = s.session.gameIsOver := by
  unfold StartRun.wake StartRun.giveUp
  split
  · exact ⟨by simp, rfl⟩
  · cases found with
    | missing => exact ⟨by simp, rfl⟩
    | dying | alive =>
      dsimp only
      split <;> exact ⟨by simp, rfl⟩

theorem endedIsFinal_step_iff {act : StartAct} (h : EndedIsFinal s)
    (hstep : (startRuns gameId civserverPort minPlayers createdAt).step s
      act = some s') : EndedIsFinal s' ↔ SparesPhase s act := by
  cases act with
  | addPlayer a p handler now =>
    obtain ⟨-, rfl⟩ := StartRun.eq_of_onLoop hstep
    obtain ⟨-, hover, hphase⟩ := s.session.addPlayer_cases a p handler now
    refine iff_of_true (h.of_eq hover fun hend => ?_) trivial
    exact (hphase (by rw [hend]; decide)).trans hend
  | removePlayer a =>
    obtain ⟨-, rfl⟩ := StartRun.eq_of_onLoop hstep
    exact iff_of_true (h.of_eq rfl id) trivial
  | leave a now =>
    obtain ⟨-, rfl⟩ := StartRun.eq_of_onLoop hstep
    obtain ⟨-, hover, hphase⟩ := s.session.leave_cases a now
    exact iff_of_true (h.of_eq hover hphase.trans) trivial
  | markNationSelected a | markPlayerReady a =>
    obtain ⟨-, rfl⟩ := StartRun.eq_of_onLoop hstep
    exact mark_iff h a _
  | markGameOver now =>
    cases hstep
    refine iff_of_true ?_ trivial
    unfold EndedIsFinal GameSession.markGameOver
    split
    · exact h
    · exact fun _ => rfl
  | softTerminate civcom sent now =>
    obtain ⟨-, rfl⟩ := StartRun.eq_of_onLoop hstep
    refine endedIsFinal_of_phase_iff ?_ ?_
    · simp [GameSession.softTerminate]
    · unfold GameSession.softTerminate
      cases civcom with
      | none => rfl
      | some t => exact (s.session.pauseGame_cases t sent now).2
  | wake found =>
    simp only [startRuns] at hstep
    split at hstep
    · cases hstep
      obtain ⟨hphase, hover⟩ := wake_phase s found
      exact endedIsFinal_of_phase_iff hphase hover
    · cases hstep
  | send =>
    simp only [startRuns] at hstep
    split at hstep
    · cases hstep
      exact iff_of_true (h.of_eq rfl id) trivial
    · cases hstep
  | confirm =>
    simp only [startRuns] at hstep
    split at hstep
    · cases hstep
      exact endedIsFinal_of_phase_iff (by simp [StartRun.giveUp]) rfl
    · cases hstep

/-- Along every run, over means ENDED in every state exactly if nothing
writes the phase once the game is over. -/
theorem ended_is_final_iff (gameId : GameId) (civserverPort : Int)
    (minPlayers : Nat) (createdAt : Int) (acts : List StartAct) :
    (startRuns gameId civserverPort minPlayers createdAt).Always
        EndedIsFinal
        ⟨.init gameId civserverPort minPlayers createdAt, .none, []⟩ acts
      ↔ (startRuns gameId civserverPort minPlayers createdAt).Along
          SparesPhase
          ⟨.init gameId civserverPort minPlayers createdAt, .none, []⟩
          acts :=
  Lts.always_iff_along
    (fun _ _ _ h hstep => endedIsFinal_step_iff h hstep)
    (fun hover => (by cases hover)) acts

/-- Over while the task sleeps, or while it waits for the first turn. -/
theorem ended_not_final :
    (∃ s, (startRuns "g" 6001 2 0).exec ⟨.init "g" 6001 2 0, .none, []⟩
        (bothReady ++ [.markGameOver 1, .wake .missing]) = some s
      ∧ s.session.gameIsOver = true
      ∧ s.session.phase = .nationsSelecting)
    ∧ ∃ s, (startRuns "g" 6001 2 0).exec ⟨.init "g" 6001 2 0, .none, []⟩
        (bothReady ++ [.wake .alive, .send, .markGameOver 1, .confirm])
          = some s
      ∧ s.session.gameIsOver = true ∧ s.session.phase = .running :=
  ⟨⟨_, rfl, rfl, rfl⟩, ⟨_, rfl, rfl, rfl⟩⟩

end Freeciv3d.Proxy
