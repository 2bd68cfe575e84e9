/-
`GameSession`: one game's players, its start, its pause state and the
flag that a release of its port is under way.

The methods run to their end without an `await`, so each is one
function of the session. `pause_game` tries its send three times; that
one of them went through is the caller's to say. Times are in seconds.

# Two memories of the timeout

A `CivCom` keeps the last positive timeout of a PACKET_GAME_INFO: zero
is what the server announces while the game is paused. The session
captures a timeout once, at its first `pause_game`, and sends that one
whenever it resumes.

# What the server has

`inForce` is the server's timeout: the one it announced last, or was
last told to set. The server handles a connection's commands in order,
so a command counts from when it is sent.

# Slices

The methods and the stretches of `_initiate_game_start` between two
awaits run on the event loop, one at a time. `mark_game_over` runs on
the thread of a `CivCom` and may fall inside a slice. It reads and
writes the phase under a lock the others do not take, so where it falls
matters in one place only: after the task has found the game ready and
before it sends. That slice is two steps here (`wake`, `send`), with
nothing but a mark between them; within any other slice a mark has the
effect of one before or after it.

# Outcomes

What the registry and the connections say when the task wakes is part
of the label. A session without players makes `next(iter(…))` raise,
which the handler around the task answers like any other error.
-/
import Freeciv3d.Lib.Dict
import Freeciv3d.Lib.Lts
import Freeciv3d.Proxy.CivCom

namespace Freeciv3d.Proxy

open Lib

structure SessionPlayer where
  agentId : AgentId
  playerId : Int
  handler : HandlerId
  nationSelected : Bool
  markedReady : Bool

inductive GamePhase where
  | waitingForPlayers | nationsSelecting | readyToStart | starting
  | running | ended
  deriving DecidableEq

/-- `GameSession`, without its configuration and its start task. -/
structure GameSession where
  gameId : GameId
  civserverPort : Int
  minPlayers : Nat
  maxPlayers : Nat
  phase : GamePhase
  players : Dict AgentId SessionPlayer
  gameStarted : Bool
  createdAt : Int
  originalTimeout : Option Int
  isPaused : Bool
  pausedAt : Option Int
  lastResumedAt : Option Int
  resumeCount : Nat
  autotoggleDisabled : Bool
  gameIsOver : Bool
  gameEndedAt : Option Int
  portReleasing : Bool
  portReleasingSince : Option Int

namespace GameSession

def defaultGameTimeout : Int := 60

def maxGameTimeout : Int := 3600

def portReleaseTimeoutSeconds : Int := 60

/-- `GameSession.__init__`. -/
def init (gameId : GameId) (civserverPort : Int) (minPlayers : Nat)
    (now : Int) : GameSession where
  gameId := gameId
  civserverPort := civserverPort
  minPlayers := minPlayers
  maxPlayers := 30
  phase := .waitingForPlayers
  players := ∅
  gameStarted := false
  createdAt := now
  originalTimeout := none
  isPaused := false
  pausedAt := none
  lastResumedAt := none
  resumeCount := 0
  autotoggleDisabled := false
  gameIsOver := false
  gameEndedAt := none
  portReleasing := false
  portReleasingSince := none

/-- `mark_game_over`: the first mark counts. -/
def markGameOver (s : GameSession) (now : Int) : GameSession :=
  if s.gameIsOver then s
  else { s with gameIsOver := true, gameEndedAt := some now, phase := .ended }

def resetPortReleasingFlag (s : GameSession) : GameSession :=
  { s with portReleasing := false, portReleasingSince := none }

def setPortReleasing (s : GameSession) (now : Int) : GameSession :=
  { s with portReleasing := true, portReleasingSince := some now }

/-- The timeout `pause_game` remembers, from the `CivCom` it is given. -/
def sanitizeTimeout : Option Int → Int
  | none => 0
  | some t =>
    if 0 ≤ t && t ≤ maxGameTimeout then t else defaultGameTimeout

/-- `pause_game`, with a `CivCom` whose `game_timeout` is known: the
session is paused when one of the sends goes through. -/
def pauseGame (s : GameSession) (gameTimeout : Option Int) (sent : Bool)
    (now : Int) : GameSession × Bool :=
  if s.isPaused then (s, false)
  else
    let s := { s with
      originalTimeout := s.originalTimeout.or
        (some (sanitizeTimeout gameTimeout)) }
    if sent then
      ({ s with isPaused := true, pausedAt := some now
                autotoggleDisabled := true }, true)
    else (s, false)

/-- `resume_game`, with a `CivCom`: the timeout and autotoggle are
restored, unless it was resumed less than two seconds ago. -/
def resumeGame (s : GameSession) (sent : Bool) (now : Int) :
    GameSession × Bool :=
  if !s.isPaused then (s, false)
  else if s.lastResumedAt.any fun t => now - t < 2 then (s, false)
  else if sent then
    ({ s with autotoggleDisabled := false, isPaused := false
              pausedAt := none, lastResumedAt := some now
              resumeCount := s.resumeCount + 1 }, true)
  else (s, false)

/-- The check of `add_player` on a releasing session: the flag is reset
when it has been set for too long; otherwise the player is rejected. -/
def admitWhileReleasing (s : GameSession) (now : Int) :
    GameSession × Bool :=
  if !s.portReleasing then (s, true)
  else if s.portReleasingSince.any
      fun t => portReleaseTimeoutSeconds < now - t
  then (s.resetPortReleasingFlag, true)
  else (s, false)

/-- `add_player`: a known agent gets its new handler, a new one an
entry. -/
def addPlayer (s : GameSession) (agentId : AgentId) (playerId : Int)
    (handler : HandlerId) (now : Int) : GameSession × Bool :=
  let (s, admitted) := s.admitWhileReleasing now
  if !admitted then (s, false)
  else if s.maxPlayers ≤ s.players.size then (s, false)
  else match s.players.get? agentId with
    | some info =>
      ({ s with
         players := s.players.set agentId { info with handler := handler } },
        true)
    | none =>
      let players := s.players.set agentId
        { agentId := agentId, playerId := playerId, handler := handler
          nationSelected := false, markedReady := false }
      let phase :=
        if s.minPlayers ≤ players.size && s.phase == .waitingForPlayers
        then .nationsSelecting else s.phase
      ({ s with players := players, phase := phase }, true)

/-- The port-release decision of `on_close`, under the players lock:
the agent is removed, and when nobody is left in a game that is not
waiting for a reconnection, the release is decided and flagged. -/
def leave (s : GameSession) (agentId : Option AgentId) (now : Int) :
    GameSession × Bool :=
  let players := match agentId with
    | some a => s.players.erase a
    | none => s.players
  let s := { s with players := players }
  if s.players.size = 0 && (!s.isPaused || s.gameIsOver) then
    (s.setPortReleasing now, true)
  else (s, false)

/-- The port `on_close` would release: the one the agent's session
remembers, or without such a session the game's. -/
def portToRelease (sessionPort : Option (Option Int))
    (session : Option GameSession) : Option Int :=
  match sessionPort with
  | some port => port
  | none => session.map civserverPort

end GameSession

-- ==== turn timeouts

/-- PACKET_GAME_INFO in `parse_and_store_packet`, the timeout: only a
positive one is kept. -/
def CivCom.gameInfo (timeout : Option Int) (c : CivCom) : CivCom :=
  match timeout with
  | some t => if 0 < t then { c with gameTimeout := some t } else c
  | none => c

/-- A chat message to the civserver: `/set timeout N`, and
`/set autotoggle enabled` or `disabled`. -/
inductive ServerCommand where
  | setTimeout (n : Int)
  | setAutotoggle (enabled : Bool)

def ServerCommand.obey (inForce : Int) : ServerCommand → Int
  | setTimeout n => n
  | setAutotoggle _ => inForce

namespace GameSession

/-- What an attempt of `pause_game` sends. -/
def pauseCommands : List ServerCommand :=
  [.setTimeout 0, .setAutotoggle false]

/-- The timeout `resume_game` restores, validated once more. -/
def resumeTimeout (s : GameSession) : Int :=
  let timeout := s.originalTimeout.getD 0
  if timeout < 0 || maxGameTimeout < timeout then defaultGameTimeout
  else timeout

/-- What `resume_game` sends. -/
def resumeCommands (s : GameSession) : List ServerCommand :=
  (if s.autotoggleDisabled then [.setAutotoggle true] else [])
    ++ [.setTimeout s.resumeTimeout]

end GameSession

/-- A `resume_game` that went through. -/
structure Resumed where
  /-- The timeout in force when the pause it ends was issued. -/
  pausedFrom : Int
  commands : List ServerCommand

/-- A session, the `CivCom`s of its players and the server's
timeout. -/
structure TimeoutRun where
  session : GameSession
  civcoms : Heap
  inForce : Int
  /-- The timeouts that arrived at a `CivCom`, the last one first. -/
  arrived : CivComId → List Int
  /-- What had arrived at the `CivCom` of the first `pause_game`. -/
  firstPause : Option (List Int)
  /-- The timeout in force when the last pause was issued. -/
  pausedFrom : Int
  resumes : List Resumed

inductive TimeoutAct where
  | gameInfo (civcom : CivComId) (timeout : Option Int)
  | pauseGame (civcom : CivComId) (sent : Bool) (now : Int)
  | resumeGame (sent : Bool) (now : Int)

namespace TimeoutRun

def gameInfo (r : TimeoutRun) (civcom : CivComId) (timeout : Option Int) :
    TimeoutRun :=
  { r with
    civcoms := r.civcoms.modify civcom (CivCom.gameInfo timeout)
    inForce := timeout.getD r.inForce
    arrived := Function.update r.arrived civcom
      (timeout.toList ++ r.arrived civcom) }

/-- `pause_game` through a `CivCom`; a session that is paused already
does not look at it. -/
def pauseGame (r : TimeoutRun) (civcom : CivComId) (sent : Bool)
    (now : Int) : TimeoutRun :=
  let (s, paused) :=
    r.session.pauseGame (r.civcoms civcom).gameTimeout sent now
  let r := { r with
    firstPause :=
      if r.session.isPaused then r.firstPause
      else r.firstPause.or (some (r.arrived civcom))
    session := s }
  if paused then
    { r with
      pausedFrom := r.inForce
      inForce := GameSession.pauseCommands.foldl ServerCommand.obey r.inForce }
  else r

def resumeGame (r : TimeoutRun) (sent : Bool) (now : Int) : TimeoutRun :=
  let (s, resumed) := r.session.resumeGame sent now
  if resumed then
    { r with
      session := s
      inForce := r.session.resumeCommands.foldl ServerCommand.obey r.inForce
      resumes := r.resumes ++ [⟨r.pausedFrom, r.session.resumeCommands⟩] }
  else { r with session := s }

def step (r : TimeoutRun) : TimeoutAct → Option TimeoutRun
  | .gameInfo c t => some (r.gameInfo c t)
  | .pauseGame c sent now => some (r.pauseGame c sent now)
  | .resumeGame sent now => some (r.resumeGame sent now)

def init (gameId : GameId) (civserverPort : Int) (minPlayers : Nat)
    (createdAt inForce : Int) : TimeoutRun where
  session := .init gameId civserverPort minPlayers createdAt
  civcoms := CivCom.init
  inForce := inForce
  arrived := fun _ => []
  firstPause := none
  pausedFrom := inForce
  resumes := []

end TimeoutRun

/-- The runs of GAME_INFO arrivals, pauses and resumes. -/
def timeoutRuns (gameId : GameId) (civserverPort : Int)
    (minPlayers : Nat) (createdAt inForce : Int) :
    Lts TimeoutRun TimeoutAct where
  init r := r = .init gameId civserverPort minPlayers createdAt inForce
  step := TimeoutRun.step

-- ==== the start of a game

namespace GameSession

def countNationsSelected (s : GameSession) : Nat :=
  s.players.countVals SessionPlayer.nationSelected

def countPlayersReady (s : GameSession) : Nat :=
  s.players.countVals SessionPlayer.markedReady

def removePlayer (s : GameSession) (agentId : AgentId) : GameSession :=
  { s with players := s.players.erase agentId }

/-- `_check_ready_to_start`, up to what it does when all is ready. -/
def meetsConditions (s : GameSession) : Bool :=
  !(s.gameStarted || s.phase == .starting || s.phase == .running)
    && !decide (s.players.size < s.minPlayers)
    && !decide (s.countNationsSelected < s.players.size)
    && !decide (s.countPlayersReady < s.players.size)

/-- The write of `_soft_terminate`, after its pause. -/
def softTerminate (s : GameSession) (civcom : Option (Option Int))
    (sent : Bool) (now : Int) : GameSession :=
  let s := match civcom with
    | some gameTimeout => (s.pauseGame gameTimeout sent now).1
    | none => s
  { s with phase := .waitingForPlayers }

end GameSession

inductive StartTask where
  | none
  | sleeping
  /-- Everything looks right; `/start` is next. -/
  | sending
  | polling
  | done
  deriving DecidableEq

/-- `not self.start_task or self.start_task.done()`. -/
def StartTask.isFree : StartTask → Bool
  | .none | .done => true
  | _ => false

/-- What the task finds when it looks for a connection. -/
inductive CivComsFound where
  | alive
  /-- None, a dead one, or a player without one; or an error. -/
  | missing
  | dying

/-- A session, its task, and the session at every `/start`. -/
structure StartRun where
  session : GameSession
  task : StartTask
  starts : List GameSession

namespace StartRun

def checkReadyToStart (s : StartRun) : StartRun :=
  if s.session.meetsConditions && s.session.phase != .readyToStart then
    { s with
      session := { s.session with phase := .readyToStart }
      task := if s.task.isFree then .sleeping else s.task }
  else s

def mark (s : StartRun) (agentId : AgentId)
    (f : SessionPlayer → SessionPlayer) : StartRun :=
  if s.session.players.contains agentId then
    checkReadyToStart { s with session := { s.session with
      players := s.session.players.modify agentId f } }
  else s

def markNationSelected (s : StartRun) (agentId : AgentId) : StartRun :=
  s.mark agentId fun p => { p with nationSelected := true }

def markPlayerReady (s : StartRun) (agentId : AgentId) : StartRun :=
  s.mark agentId fun p => { p with markedReady := true }

def giveUp (s : StartRun) (phase : GamePhase) : StartRun :=
  { s with session := { s.session with phase := phase }, task := .done }

def wake (s : StartRun) (found : CivComsFound) : StartRun :=
  if s.session.countPlayersReady < s.session.players.size then
    s.giveUp .nationsSelecting
  else
    match found with
    | .missing => s.giveUp .nationsSelecting
    | .dying =>
      if s.session.players.size = 0 then s.giveUp .nationsSelecting
      else s.giveUp .starting
    | .alive =>
      if s.session.players.size = 0 then s.giveUp .nationsSelecting
      else { s with
        session := { s.session with phase := .starting }
        task := .sending }

/-- `/start` goes out. -/
def send (s : StartRun) : StartRun :=
  { session := { s.session with gameStarted := true }
    task := .polling
    starts := s.session :: s.starts }

end StartRun

inductive StartAct where
  | addPlayer (agentId : AgentId) (playerId : Int) (handler : HandlerId)
      (now : Int)
  | removePlayer (agentId : AgentId)
  /-- The decision of `on_close`. -/
  | leave (agentId : Option AgentId) (now : Int)
  | markNationSelected (agentId : AgentId)
  | markPlayerReady (agentId : AgentId)
  | markGameOver (now : Int)
  | softTerminate (civcom : Option (Option Int)) (sent : Bool) (now : Int)
  | wake (found : CivComsFound)
  | send
  /-- The first turn was seen, or not for ten seconds. -/
  | confirm

/-- An act of the event loop, which waits for the slice that sends. -/
def StartRun.onLoop (s t : StartRun) : Option StartRun :=
  if s.task = .sending then none else some t

def startRuns (gameId : GameId) (civserverPort : Int) (minPlayers : Nat)
    (createdAt : Int) : Lts StartRun StartAct where
  init s := s =
    { session := .init gameId civserverPort minPlayers createdAt
      task := .none
      starts := [] }
  step s
    | .addPlayer agentId playerId handler now =>
      s.onLoop { s with
        session := (s.session.addPlayer agentId playerId handler now).1 }
    | .removePlayer agentId =>
      s.onLoop { s with session := s.session.removePlayer agentId }
    | .leave agentId now =>
      s.onLoop { s with session := (s.session.leave agentId now).1 }
    | .markNationSelected agentId =>
      s.onLoop (s.markNationSelected agentId)
    | .markPlayerReady agentId => s.onLoop (s.markPlayerReady agentId)
    | .markGameOver now =>
      some { s with session := s.session.markGameOver now }
    | .softTerminate civcom sent now =>
      s.onLoop { s with
        session := s.session.softTerminate civcom sent now }
    | .wake found =>
      if s.task = .sleeping then some (s.wake found) else none
    | .send => if s.task = .sending then some s.send else none
    | .confirm =>
      if s.task = .polling then some (s.giveUp .running) else none

end Freeciv3d.Proxy
