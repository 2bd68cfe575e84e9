/-
When a game is paused: after a close that leaves a player without a
connection, and after a reconnection that leaves everybody connected.

# One equation a step

`onClose_isPaused` and `joinGame_isPaused` say what a close and a
reconnection make of the pause flag. Everything else these functions do
leaves the flag alone, one lemma a part. The claim about a step and its
condition then differ by the equation only, and a run is its steps.
-/
import Freeciv3d.Proxy.Proofs.LateClose

namespace Freeciv3d.Proxy

open Lib

variable {σ : Type}

-- ==== the statement

namespace PauseWorld

def game (w : PauseWorld σ) (gameId : GameId) (p : GameSession → Bool) :
    Bool :=
  (w.proxy.games.get? gameId).any p

def underway (w : PauseWorld σ) (gameId : GameId) : Bool :=
  w.game gameId fun s => s.gameStarted && !s.gameIsOver

def isPaused (w : PauseWorld σ) (gameId : GameId) : Bool :=
  w.game gameId GameSession.isPaused

def connected (w : PauseWorld σ) (gameId : GameId) (agentId : AgentId) :
    Bool :=
  w.connections.any fun h =>
    (w.proxy.handlers h).agentId == some agentId
      && (w.proxy.handlers h).gameId == some gameId

/-- The `CivCom` of the player, the handler's or the registered one, is
live. -/
def civcomAlive (w : PauseWorld σ) (gameId : GameId) (agentId : AgentId)
    (info : SessionPlayer) : Bool :=
  (w.proxy.liveCivcom info.handler).isSome
    || (w.proxy.registry.getCivcom gameId agentId).any fun c =>
      !(w.proxy.civcoms c).stopped

/-- Some player has no open connection, and some `CivCom` is live. -/
def asksPause (w : PauseWorld σ) (gameId : GameId) : Bool :=
  w.game gameId fun s =>
    (s.players.keys.any fun a => !w.connected gameId a)
      && s.players.entries.any fun e => w.civcomAlive gameId e.1 e.2

/-- Every player has a handler with a live `CivCom`. -/
def asksResume (w : PauseWorld σ) (gameId : GameId) : Bool :=
  w.game gameId w.proxy.allConnected

/-- The closing handler's game, unless its `CivCom` has seen the
end. -/
def closingGame (w : PauseWorld σ) (h : HandlerId) : Option GameId :=
  (ProxyWorld.truthy (w.proxy.handlers h).gameId).filter fun gameId =>
    w.underway gameId && !(w.proxy.handlers h).civcom.any fun c =>
      (w.proxy.civcoms c).gameIsOver

/-- The claim about one step: paused while a player is missing, running
once everybody is back. -/
def PauseTracks (w : PauseWorld σ) (a : PauseAct) : Prop :=
  ∀ w', w.apply a = some w' →
    match a with
    | .close h _ => ∀ gameId, w.closingGame h = some gameId →
        w'.asksPause gameId = true → w'.isPaused gameId = true
    | .reconnect args => w.underway args.gameId = true →
        w'.asksResume args.gameId = true → w'.isPaused args.gameId = false
    | .connect args => w.underway args.gameId = true →
        w'.asksResume args.gameId = true → w'.isPaused args.gameId = false
    | _ => True

/-- The closing handler or a partner's has a live `CivCom`. -/
def canSend (w : PauseWorld σ) (h : HandlerId) (gameId : GameId) : Bool :=
  (w.proxy.liveCivcom h).isSome
    || w.game gameId fun s =>
      (w.proxy.partnerCivcom s (w.proxy.handlers h).agentId).isSome

def justResumed (w : PauseWorld σ) (gameId : GameId) : Bool :=
  w.game gameId fun s => s.lastResumedAt.any fun t => w.now - t < 2

/-- The condition: a close that asks for a pause finds the game paused,
or has another code than 4001 and a `CivCom` to send through; a
reconnection that asks for the game to go on does not find it paused
within two seconds of the last time. -/
def Undebounced (w : PauseWorld σ) (a : PauseAct) : Prop :=
  ∀ w', w.apply a = some w' →
    match a with
    | .close h closeCode => ∀ gameId, w.closingGame h = some gameId →
        w'.asksPause gameId = true → w.isPaused gameId = true
          ∨ closeCode ≠ some 4001 ∧ w.canSend h gameId = true
    | .reconnect args => w.underway args.gameId = true →
        w'.asksResume args.gameId = true →
          ¬ (w.isPaused args.gameId = true
            ∧ w.justResumed args.gameId = true)
    | .connect args => w.underway args.gameId = true →
        w'.asksResume args.gameId = true →
          ¬ (w.isPaused args.gameId = true
            ∧ w.justResumed args.gameId = true)
    | _ => True

end PauseWorld

-- ==== a close

namespace ProxyWorld

def paused (w : ProxyWorld σ) (gameId : GameId) : Bool :=
  (w.games.get? gameId).any GameSession.isPaused

theorem pauseGame_paused {w : ProxyWorld σ} {gameId : GameId}
    {s : GameSession} (hs : w.games.get? gameId = some s) (c : CivComId)
    (now : Int) : (w.pauseGame gameId c true now).paused gameId = true := by
  unfold pauseGame paused
  rw [Dict.get?_modify, if_pos rfl, hs]
  show (s.pauseGame _ true now).1.isPaused = true
  unfold GameSession.pauseGame
  split
  · assumption
  · rfl

theorem suspendPartners_paused (w : ProxyWorld σ) (h : HandlerId)
    (now : Int) (gameId : GameId) :
    (w.suspendPartners h now).paused gameId = w.paused gameId := by
  unfold paused
  rw [(suspendPartners_frame w h now).games]

/-- The pause of a close: the flag was up, or it is raised through a
live `CivCom` unless the code is 4001. -/
theorem closePause_paused {w : ProxyWorld σ} {h : HandlerId}
    {gameId : GameId} {s : GameSession}
    (hgame : truthy (w.handlers h).gameId = some gameId)
    (hs : w.games.get? gameId = some s) (hstarted : s.gameStarted = true)
    (hover : s.gameIsOver = false)
    (hciv : (w.handlers h).civcom.any (fun c => (w.civcoms c).gameIsOver)
      = false) (closeCode : Option Int) (now : Int) :
    (w.closePause h closeCode true now).paused gameId
      = (s.isPaused || closeCode ≠ some 4001
        && ((w.liveCivcom h).isSome
          || (w.partnerCivcom s (w.handlers h).agentId).isSome)) := by
  have hid : (w.handlers h).gameId = some gameId :=
    Option.eq_some_of_filter_eq_some hgame
  have hflag : w.paused gameId = s.isPaused := by
    unfold paused
    rw [hs, Option.any_some]
  unfold closePause
  rw [hgame]
  simp only [hs, Option.any_some, Option.bind_some, hover, hciv,
    Bool.or_false, Bool.false_eq_true, if_false]
  by_cases hcode : closeCode = some 4001
  · rw [if_pos hcode]
    simp [hcode, hflag]
  · rw [if_neg hcode]
    cases hpaused : s.isPaused with
    | true =>
      simp only [hstarted, Bool.not_true, Bool.and_false,
        Bool.false_eq_true, if_false, Bool.true_or]
      cases w.liveCivcom h with
      | none => exact hflag.trans hpaused
      | some c =>
        -- already paused: the partners are suspended only
        show (w.pauseAndSuspendPartner h c true now).paused gameId = true
        unfold pauseAndSuspendPartner
        simp only [hid, hs, hstarted, if_true]
        rw [suspendPartners_paused, pauseGame_paused hs]
    | false =>
      simp only [hstarted, Bool.not_false, Bool.and_self, if_true,
        Bool.false_or]
      cases w.liveCivcom h with
      | some c =>
        show ((w.pauseGame gameId c true now).suspendPartners h
          now).paused gameId = _
        rw [suspendPartners_paused, pauseGame_paused hs]
        simp [hcode]
      | none =>
        cases w.partnerCivcom s (w.handlers h).agentId with
        | some c =>
          show (w.pauseGame gameId c true now).paused gameId = _
          rw [pauseGame_paused hs]
          simp [hcode]
        | none =>
          show w.paused gameId = _
          simp [hflag, hpaused]

theorem closeSession_games (w : ProxyWorld σ) (h : HandlerId) (now : Int) :
    (w.closeSession h now).1.games = w.games := by
  unfold closeSession
  split <;> rfl

theorem closeCivcom_games (w : ProxyWorld σ) (h : HandlerId) :
    (w.closeCivcom h).games = w.games := by
  unfold closeCivcom
  dsimp only
  repeat' split
  all_goals rfl

theorem stopObserverCivcom_games (w : ProxyWorld σ) (gameId : GameId) :
    (w.stopObserverCivcom gameId).games = w.games := by
  unfold stopObserverCivcom
  split <;> rfl

theorem GameSession.leave_isPaused (s : GameSession)
    (agentId : Option AgentId) (now : Int) :
    (s.leave agentId now).1.isPaused = s.isPaused := by
  unfold GameSession.leave
  dsimp only
  repeat' split
  all_goals rfl

theorem closeReleasePort_paused (w : ProxyWorld σ) (h : HandlerId)
    (now : Int) (gameId : GameId) :
    (w.closeReleasePort h now).paused gameId = w.paused gameId := by
  unfold closeReleasePort
  split
  next port g hport hgame =>
    split
    · rfl
    next s hs =>
      have hset : ∀ s' : GameSession, s'.isPaused = s.isPaused →
          ({ w with games := w.games.set g s' }).paused gameId
            = w.paused gameId := by
        intro s' hs'
        unfold paused
        rw [Dict.get?_set]
        split
        next heq =>
          rw [heq, hs, Option.any_some, Option.any_some, hs']
        next => rfl
      dsimp only
      split
      · unfold paused
        rw [stopObserverCivcom_games]
        exact hset _ (GameSession.leave_isPaused s _ now)
      · exact hset _ (GameSession.leave_isPaused s _ now)
  next => rfl

theorem onClose_paused (w : ProxyWorld σ) (h : HandlerId)
    (closeCode : Option Int) (now : Int) (gameId : GameId) :
    (w.onClose h closeCode true now).paused gameId
      = (w.closePause h closeCode true now).paused gameId := by
  have hclosed : ∀ v : ProxyWorld σ,
      (v.closeTables h).paused gameId = v.paused gameId := by
    intro v
    unfold paused
    rw [(closeTables_fields v h).2.2.2.1]
  have hsession : ((w.closePause h closeCode true now).closeSession h
      now).1.paused gameId
      = (w.closePause h closeCode true now).paused gameId := by
    unfold paused
    rw [closeSession_games]
  unfold onClose
  rw [hclosed]
  split
  · exact hsession
  · rw [closeReleasePort_paused]
    unfold paused
    rw [closeCivcom_games]
    exact hsession

-- ==== a reconnection

theorem addPlayer_pause (s : GameSession) (agentId : AgentId)
    (playerId : Int) (handler : HandlerId) (now : Int) :
    (s.addPlayer agentId playerId handler now).1.isPaused = s.isPaused
      ∧ (s.addPlayer agentId playerId handler now).1.lastResumedAt
        = s.lastResumedAt := by
  have hadmit : (s.admitWhileReleasing now).1.isPaused = s.isPaused
      ∧ (s.admitWhileReleasing now).1.lastResumedAt = s.lastResumedAt := by
    unfold GameSession.admitWhileReleasing
    repeat' split
    all_goals exact ⟨rfl, rfl⟩
  unfold GameSession.addPlayer
  dsimp only
  repeat' split
  all_goals exact hadmit

/-- `resume_game` leaves the game paused only if it went on less than
two seconds ago. -/
theorem resumeGame_isPaused (s : GameSession) (now : Int) :
    (s.resumeGame true now).1.isPaused
      = (s.isPaused && s.lastResumedAt.any fun t => now - t < 2) := by
  unfold GameSession.resumeGame
  cases hpaused : s.isPaused with
  | false => simp [hpaused]
  | true =>
    simp only [Bool.not_true, Bool.false_eq_true, if_false, if_true,
      Bool.true_and]
    split
    next hrecent => rw [hrecent, hpaused]
    next hrecent => simpa using hrecent

/-- The check leaves a game in which everybody is connected paused only
if it has just gone on. -/
theorem checkAndResumeGame_paused {w : ProxyWorld σ} (h : HandlerId)
    (agentId : AgentId) {gameId : GameId} {s : GameSession} (now : Int)
    (hs : w.games.get? gameId = some s) :
    ∃ s', (w.checkAndResumeGame h agentId gameId true now).games.get? gameId
        = some s'
      ∧ ((w.checkAndResumeGame h agentId gameId true now).allConnected s'
          = true →
        s'.isPaused = (s.isPaused && s.lastResumedAt.any fun t =>
          now - t < 2)) := by
  unfold checkAndResumeGame
  rw [hs]
  dsimp only
  by_cases hpaused : s.isPaused = true
  · rw [if_pos hpaused]
    refine ⟨_, Dict.get?_set_self .., ?_⟩
    generalize hs1 : ({ s with players := _ } : GameSession) = s1
    have hkept : s1.isPaused = s.isPaused
        ∧ s1.lastResumedAt = s.lastResumedAt := by
      subst hs1
      exact ⟨rfl, rfl⟩
    intro hall
    by_cases hconn : w.allConnected s1 = true
    · rw [if_pos hconn, resumeGame_isPaused, hkept.1, hkept.2]
    · rw [if_neg hconn] at hall
      exact absurd hall hconn
  · rw [if_neg hpaused]
    refine ⟨s, hs, ?_⟩
    intro _
    simp [hpaused]

theorem joinGame_paused {w : ProxyWorld σ} (h : HandlerId)
    (agentId : AgentId) {gameId : GameId} {s : GameSession}
    (port playerId now : Int) (hs : w.games.get? gameId = some s) :
    ∃ s', (w.joinGame h agentId gameId port playerId now).games.get? gameId
        = some s'
      ∧ ((w.joinGame h agentId gameId port playerId now).allConnected s'
          = true →
        s'.isPaused = (s.isPaused && s.lastResumedAt.any fun t =>
          now - t < 2)) := by
  have hsame : w.getOrCreateSession gameId port now = w :=
    if_pos (Dict.contains_iff.mpr ⟨s, hs⟩)
  obtain ⟨hpause, hlast⟩ := addPlayer_pause s agentId playerId h now
  unfold joinGame
  rw [hsame]
  have hadded : (w.games.modify gameId fun s =>
      (s.addPlayer agentId playerId h now).1).get? gameId
      = some (s.addPlayer agentId playerId h now).1 := by
    rw [Dict.get?_modify, if_pos rfl, hs]
    rfl
  obtain ⟨s', hs', hflag⟩ := checkAndResumeGame_paused
    (w := { w with games := w.games.modify gameId fun s =>
      (s.addPlayer agentId playerId h now).1 }) h agentId now hadded
  refine ⟨s', hs', ?_⟩
  intro hall
  rw [hflag hall, hpause, hlast]

/-- A resuming reconnection joins the game in a world with the same
games. -/
theorem resumeConnect_joins {w w' : ProxyWorld σ} {h : HandlerId}
    {agentId : AgentId} {gameId : GameId} {tokenMatches : String → Bool}
    {now : Int}
    (hstep : w.resumeConnect h agentId gameId tokenMatches true now
      = some w') :
    ∃ (v : ProxyWorld σ) (port playerId : Int), v.games = w.games
      ∧ w' = v.joinGame h agentId gameId port playerId now := by
  unfold resumeConnect at hstep
  split at hstep
  next sessions s hresumed =>
    split at hstep
    next port playerId c hport hplayer hc =>
      split at hstep
      · cases hstep
      · cases hstep
        let v : ProxyWorld σ := { w with
          sessions := sessions
          llmAgents := w.llmAgents.set agentId h
          civcoms := w.civcoms.modify c fun civcom =>
            { civcom.reattach h with playerId := some playerId } }
        exact ⟨v.modifyHandler h fun p =>
          { p with
            agentId := some agentId
            gameId := some gameId
            playerId := some playerId
            sessionId := some s.sessionId
            sessionPort := some (some port)
            civcom := some c }, port, playerId, rfl, rfl⟩
    next => cases hstep
  next => cases hstep

theorem connectToCivserver_games (w : ProxyWorld σ) (h : HandlerId)
    (agentId : AgentId) (gameId : GameId) (c : CivComId) (playerId : Int) :
    (w.connectToCivserver h agentId gameId c playerId).games = w.games := by
  unfold connectToCivserver
  dsimp only
  split <;> rfl

theorem openConnect_joins {w w' : ProxyWorld σ} {args : ConnectArgs}
    {c : CivComId} {now : Int} (hstep : w.openConnect args c now = some w') :
    ∃ (v : ProxyWorld σ) (port playerId : Int), v.games = w.games
      ∧ w' = v.joinGame args.handler args.agentId args.gameId port playerId
        now := by
  unfold openConnect at hstep
  split at hstep
  next => cases hstep
  next sessions s hsession =>
    cases hstep
    refine ⟨_, _, _, ?_, rfl⟩
    exact connectToCivserver_games _ _ _ _ _ _

end ProxyWorld

-- ==== the steps

namespace PauseWorld

variable {w w' : PauseWorld σ}

theorem close_isPaused {h : HandlerId} {closeCode : Option Int}
    {gameId : GameId} (hgame : w.closingGame h = some gameId)
    (hstep : w.apply (.close h closeCode) = some w') :
    w'.isPaused gameId = (w.isPaused gameId
      || closeCode ≠ some 4001 && w.canSend h gameId) := by
  obtain ⟨htruthy, hcond⟩ := Option.filter_eq_some_iff.mp hgame
  simp only [Bool.and_eq_true, Bool.not_eq_true'] at hcond
  obtain ⟨hunder, hciv⟩ := hcond
  obtain ⟨s, hs, hs'⟩ := (Option.any_eq_true ..).mp hunder
  simp only [Bool.and_eq_true, Bool.not_eq_true'] at hs'
  have hclosed : w'.isPaused gameId
      = (w.proxy.closePause h closeCode true w.now).paused gameId := by
    rw [← ProxyWorld.onClose_paused]
    simp only [apply] at hstep
    split at hstep
    · cases hstep
      rfl
    · cases hstep
  rw [hclosed, ProxyWorld.closePause_paused htruthy hs hs'.1 hs'.2 hciv]
  simp only [isPaused, canSend, game, hs, Option.any_some]

/-- What joining makes of the pause of a game in which everybody is
connected then. -/
theorem join_isPaused {v : ProxyWorld σ} {h : HandlerId}
    {agentId : AgentId} {gameId : GameId} {port playerId : Int}
    (hgames : v.games = w.proxy.games)
    (hjoin : w'.proxy = v.joinGame h agentId gameId port playerId w.now)
    (hunder : w.underway gameId = true)
    (hask : w'.asksResume gameId = true) :
    w'.isPaused gameId
      = (w.isPaused gameId && w.justResumed gameId) := by
  obtain ⟨s, hs, -⟩ := (Option.any_eq_true ..).mp hunder
  have hs0 : v.games.get? gameId = some s := by
    rw [hgames, hs]
  obtain ⟨s', hs', hflag⟩ :=
    ProxyWorld.joinGame_paused h agentId port playerId w.now hs0
  rw [← hjoin] at hs' hflag
  simp only [asksResume, game, hs', Option.any_some] at hask
  simp only [isPaused, justResumed, game, hs, hs', Option.any_some]
  exact hflag hask

theorem pauseTracks_iff (w : PauseWorld σ) (a : PauseAct) :
    w.PauseTracks a ↔ w.Undebounced a := by
  have hjoins : ∀ {v : ProxyWorld σ} {w' : PauseWorld σ}
      {args : ConnectArgs} (port playerId : Int),
      v.games = w.proxy.games →
      w'.proxy = v.joinGame args.handler args.agentId args.gameId port
        playerId w.now →
      ((w.underway args.gameId = true → w'.asksResume args.gameId = true →
          w'.isPaused args.gameId = false)
        ↔ (w.underway args.gameId = true →
          w'.asksResume args.gameId = true →
          ¬ (w.isPaused args.gameId = true
            ∧ w.justResumed args.gameId = true))) := by
    intro v w' args port playerId hgames hjoin
    refine forall_congr' fun hunder => forall_congr' fun hask => ?_
    rw [join_isPaused hgames hjoin hunder hask, ← Bool.not_eq_true,
      Bool.and_eq_true]
  unfold PauseTracks Undebounced
  refine forall_congr' fun w' => forall_congr' fun hstep => ?_
  cases a with
  | close h closeCode =>
    refine forall_congr' fun gameId => forall_congr' fun hgame =>
      forall_congr' fun _ => ?_
    rw [close_isPaused hgame hstep, Bool.or_eq_true, Bool.and_eq_true,
      decide_eq_true_iff]
  | reconnect args =>
    simp only [apply] at hstep
    split at hstep
    · obtain ⟨proxy, hproxy, hw'⟩ := Option.map_eq_some_iff.mp hstep
      obtain ⟨v, port, playerId, hgames, hjoin⟩ :=
        ProxyWorld.resumeConnect_joins hproxy
      refine hjoins port playerId hgames ?_
      rw [← hw']
      exact hjoin
    · cases hstep
  | connect args =>
    simp only [apply] at hstep
    split at hstep
    · obtain ⟨proxy, hproxy, hw'⟩ := Option.map_eq_some_iff.mp hstep
      obtain ⟨v, port, playerId, hgames, hjoin⟩ :=
        ProxyWorld.openConnect_joins hproxy
      refine hjoins port playerId hgames ?_
      rw [← hw']
      exact hjoin
    · cases hstep
  | tick n | civcomStops c | start gameId | markGameOver gameId => exact Iff.rfl

end PauseWorld

-- ==== the main result

/-- In every run, the game is paused while a player is missing and goes
on once everybody is back if and only if every step meets the
condition. -/
theorem pause_tracks_iff (w : PauseWorld σ) (acts : List PauseAct) :
    (pauseRuns σ).Along PauseWorld.PauseTracks w acts
      ↔ (pauseRuns σ).Along PauseWorld.Undebounced w acts :=
  Lts.along_congr (fun w a _ _ => w.pauseTracks_iff a) w acts

namespace PauseWorld

def start : PauseWorld Unit where
  proxy :=
    { handlers := fun _ => LlmHandler.init
      civcoms := fun _ => CivCom.init 0
      registry := ⟨∅, ∅⟩
      llmAgents := ∅
      sessions := ⟨∅, ∅⟩
      games := ∅
      stateCache := StateCache.init
      releases := [] }
  connections := []
  now := 0
  nextCivcom := 0

def joins (h : HandlerId) (agentId : AgentId) (sessionId : String)
    (playerId : Int) : PauseAct :=
  .connect ⟨h, agentId, "g1", fun _ => true, sessionId, "hash", 6001,
    playerId⟩

/-- Alice and bob play g1; bob closes his connection with the code that
the proxy uses for a partner it disconnects. -/
def coordinatedCode : List PauseAct :=
  [joins 0 "alice" "sess_a" 0, joins 1 "bob" "sess_b" 1, .start "g1",
    .close 1 (some 4001)]

/-- The game goes on without bob. -/
theorem pause_missed :
    (pauseRuns Unit).init start
      ∧ ¬ (pauseRuns Unit).Along PauseTracks start coordinatedCode := by
  refine ⟨⟨rfl, rfl, rfl, rfl, rfl⟩, ?_⟩
  intro h
  obtain ⟨-, -, -, hclose, -⟩ := h
  exact absurd (hclose _ rfl "g1" (by decide) (by decide)) (by decide)

end PauseWorld

end Freeciv3d.Proxy
