/-
`GameSessionManager`: which game has which civserver port, as the proxy
knows it, and the four paths that give a port back.

# The steps

The manager runs on one event loop, so a method is atomic between its
awaits. An allocation holds `_port_lock` while it waits for the
metaserver. A `release_civserver_port` call is a task of its own: it
sends its request, waits for the reply, and retries. Tasks are
scheduled by `on_close` (the last player left) and by `remove_session`;
`cleanup_stale_paused_sessions` and the hard terminate wait for theirs
and drop the session entry afterwards.

# The metaserver

It hands out a port only if it was never handed out before, or a
release request for it has reached it since, or it is the same game's
already. `out` is what it has handed out; whether it accepts a request
and what reply comes back are the label's. Times are in seconds.
-/
import Freeciv3d.Proxy.GameSession

namespace Freeciv3d.Proxy

open Lib

/-- What a `release_civserver_port` call returns to. -/
inductive AfterRelease where
  /-- Nobody waits: scheduled by `on_close` or `remove_session`. -/
  | detached
  | terminate
  | sweep (rest : List (GameId × Int)) (cleaned : Nat)
  deriving DecidableEq

inductive ReleasePhase where
  | ready
  | sent
  | received (accepted : Bool)
  deriving DecidableEq

/-- A running `release_civserver_port`. -/
structure ReleaseTask where
  gameId : GameId
  port : Int
  attempt : Nat
  phase : ReleasePhase
  after : AfterRelease
  deriving DecidableEq

/-- The outcomes of a `/meta/release` request. -/
inductive ReleaseReply where
  /-- 200 and `success`. -/
  | success
  /-- 200 without `success`. -/
  | nonSuccess
  | notFound
  | serverError
  | exception

/-- The replies that may arrive: an answer needs the request to have
been handled that way, an error does not say. -/
def ReleaseReply.possible : ReleaseReply → ReleasePhase → Bool
  | _, .ready => false
  | success, phase => phase == .received true
  | nonSuccess, phase => phase == .received false
  | notFound, phase => phase == .received false
  | serverError, _ => true
  | exception, _ => true

/-- The outcomes of a `/meta/allocate` request. -/
inductive AllocateReply where
  | port (p : Int)
  | unexpected
  | unavailable
  | failed
  | exception

/-- An allocation waiting for the metaserver, with `_port_lock` held:
`handed` is the port the metaserver has handed out to it. -/
structure Allocation where
  gameId : GameId
  attempt : Nat
  handed : Option Int

def metaserverMaxRetries : Nat := 3

def releaseMaxRetries : Nat := 3

/-- `GameSessionManager` with its tasks and the metaserver. -/
structure PortWorld where
  sessions : Dict GameId GameSession
  now : Int
  allocation : Option Allocation
  releases : List ReleaseTask
  /-- The ports handed out and not released since, with their games. -/
  out : Dict Int GameId
  /-- The accepted releases, since the port was last handed out to the
  game. -/
  accepted : List (GameId × Int)
  /-- The answers of `allocate_civserver_port` that were released. -/
  staleAnswers : List (GameId × Int)

namespace PortWorld

def init : PortWorld where
  sessions := ∅
  now := 0
  allocation := none
  releases := []
  out := ∅
  accepted := []
  staleAnswers := []

-- ==== allocation

/-- `allocate_civserver_port` answers. -/
def answer (w : PortWorld) (gameId : GameId) (port : Int) : PortWorld :=
  if (gameId, port) ∈ w.accepted then
    { w with staleAnswers := w.staleAnswers ++ [(gameId, port)] }
  else w

/-- `allocate_civserver_port` up to its await: a local session answers
at once. -/
def allocateBegin (w : PortWorld) (gameId : GameId) : Option PortWorld :=
  if w.allocation.isSome then none
  else match w.sessions.get? gameId with
    | some s => some (w.answer gameId s.civserverPort)
    | none => some { w with allocation := some ⟨gameId, 0, none⟩ }

/-- The metaserver hands out a port to the waiting allocation. -/
def handOut (w : PortWorld) (port : Int) : Option PortWorld :=
  match w.allocation with
  | none => none
  | some a =>
    if a.handed.isSome then none
    else if (w.out.get? port).all (· = a.gameId) then
      some { w with
        allocation := some { a with handed := some port }
        out := w.out.set port a.gameId
        accepted := w.accepted.filter (· ≠ (a.gameId, port)) }
    else none

/-- The allocation goes on after its await: a port becomes a
placeholder session and the answer; no port is an error; a 503 and an
exception are retried. -/
def allocateReply (w : PortWorld) (r : AllocateReply) : Option PortWorld :=
  match w.allocation with
  | none => none
  | some a =>
    match r with
    | .port p =>
      if a.handed = some p then
        some ({ w with
          sessions := w.sessions.set a.gameId
            (GameSession.init a.gameId p 2 w.now)
          allocation := none }.answer a.gameId p)
      else none
    | .unexpected => some { w with allocation := none }
    | .failed => some { w with allocation := none }
    | .unavailable | .exception =>
      if a.attempt + 1 < metaserverMaxRetries then
        some { w with
          allocation := some ⟨a.gameId, a.attempt + 1, none⟩ }
      else some { w with allocation := none }

def getOrCreateSession (w : PortWorld) (gameId : GameId) (port : Int)
    (minPlayers : Nat) : PortWorld :=
  if w.sessions.contains gameId then w
  else
    { w with
      sessions := w.sessions.set gameId
        (GameSession.init gameId port minPlayers w.now) }

-- ==== releases

def modifySession (w : PortWorld) (gameId : GameId)
    (f : GameSession → GameSession) : PortWorld :=
  { w with sessions := w.sessions.modify gameId f }

def startRelease (w : PortWorld) (gameId : GameId) (port : Int)
    (after : AfterRelease) : PortWorld :=
  { w with releases := w.releases ++ [⟨gameId, port, 0, .ready, after⟩] }

/-- The port block of `on_close`, for a handler whose session is not
kept: the agent leaves, and the last one to leave schedules the release
of the port its session remembers. -/
def disconnect (w : PortWorld) (gameId : GameId)
    (agentId : Option AgentId) (sessionPort : Option (Option Int)) :
    PortWorld :=
  let port := GameSession.portToRelease sessionPort (w.sessions.get? gameId)
  match port.filter (· ≠ 0), w.sessions.get? gameId with
  | some port, some s =>
    let (s, shouldRelease) := s.leave agentId w.now
    let w := { w with sessions := w.sessions.set gameId s }
    if shouldRelease then w.startRelease gameId port .detached else w
  | _, _ => w

def removeSession (w : PortWorld) (gameId : GameId)
    (releasePort : Bool) : PortWorld :=
  match w.sessions.get? gameId with
  | none => w
  | some s =>
    let w := { w with sessions := w.sessions.erase gameId }
    if releasePort && s.civserverPort != 0 then
      w.startRelease gameId s.civserverPort .detached
    else w

/-- The sweep at one session: a finished game nobody is in, or one
paused for long enough that nobody is reconnecting to. -/
def sweepSession (now timeoutSecs : Int) (active : Bool)
    (s : GameSession) : GameSession × Bool :=
  if s.gameIsOver then
    if s.players.size = 0 && !s.portReleasing then
      (s.setPortReleasing now, true)
    else (s, false)
  else if !s.isPaused then (s, false)
  else if now - s.pausedAt.getD s.createdAt < timeoutSecs then (s, false)
  else if active then (s, false)
  else if s.portReleasing && s.portReleasingSince.any
      fun t => now - t ≤ GameSession.portReleaseTimeoutSeconds
  then (s, false)
  else (s.resetPortReleasingFlag.setPortReleasing now, true)

/-- The candidates of a sweep: finished games first. -/
def sweepCandidates (w : PortWorld) (timeoutSecs : Int)
    (active : List GameId) : List (GameId × Int) :=
  let chosen := w.sessions.entries.filter fun e =>
    (sweepSession w.now timeoutSecs (e.1 ∈ active) e.2).2
  (chosen.filter (·.2.gameIsOver) ++ chosen.filter (!·.2.gameIsOver)).map
    fun e => (e.1, e.2.civserverPort)

/-- `cleanup_stale_paused_sessions` up to its first release; `active`
are the games with an open WebSocket of a player. -/
def sweepBegin (w : PortWorld) (timeoutSecs : Int)
    (active : List GameId) : PortWorld :=
  if timeoutSecs ≤ 0 then w
  else
    let candidates := w.sweepCandidates timeoutSecs active
    let w := { w with
      sessions := w.sessions.mapVals fun g s =>
        (sweepSession w.now timeoutSecs (g ∈ active) s).1 }
    match candidates with
    | [] => w
    | (gameId, port) :: rest =>
      w.startRelease gameId port (.sweep rest 0)

/-- `_hard_terminate` up to its release. -/
def terminate (w : PortWorld) (gameId : GameId) : PortWorld :=
  match w.sessions.get? gameId with
  | none => w
  | some s =>
    (w.modifySession gameId fun s => s.markGameOver w.now).startRelease
      gameId s.civserverPort .terminate

/-- A release call is over: the flag of the session that is there now
is reset, and whoever waited for the call goes on. -/
def releaseDone (w : PortWorld) (i : Nat) (t : ReleaseTask)
    (released : Bool) : PortWorld :=
  let w := w.modifySession t.gameId GameSession.resetPortReleasingFlag
  match t.after with
  | .detached => { w with releases := w.releases.eraseIdx i }
  | .terminate =>
    { w with
      sessions := w.sessions.erase t.gameId
      releases := w.releases.eraseIdx i }
  | .sweep rest cleaned =>
    let found := w.sessions.contains t.gameId
    let w := if released then
        { w with sessions := w.sessions.erase t.gameId }
      else w.modifySession t.gameId GameSession.resetPortReleasingFlag
    let cleaned := if found && released then cleaned + 1 else cleaned
    match rest with
    | [] => { w with releases := w.releases.eraseIdx i }
    | (gameId, port) :: rest =>
      { w with
        releases := w.releases.set i
          ⟨gameId, port, 0, .ready, .sweep rest cleaned⟩ }

def releaseSend (w : PortWorld) (i : Nat) : Option PortWorld :=
  match w.releases[i]? with
  | some t =>
    if t.phase = .ready then
      some { w with releases := w.releases.set i { t with phase := .sent } }
    else none
  | none => none

/-- The request reaches the metaserver: from now on it may hand the
port out again. -/
def releaseReceive (w : PortWorld) (i : Nat) (accepted : Bool) :
    Option PortWorld :=
  match w.releases[i]? with
  | some t =>
    if t.phase = .sent then
      some { w with
        releases := w.releases.set i { t with phase := .received accepted }
        out := w.out.erase t.port
        accepted := if accepted then (t.gameId, t.port) :: w.accepted
          else w.accepted }
    else none
  | none => none

/-- The release call goes on after its await: success and 404 end it
well, a refusal ends it, errors are retried. -/
def releaseReply (w : PortWorld) (i : Nat) (r : ReleaseReply) :
    Option PortWorld :=
  match w.releases[i]? with
  | some t =>
    if r.possible t.phase then
      match r with
      | .success => some (w.releaseDone i t true)
      | .notFound => some (w.releaseDone i t true)
      | .nonSuccess => some (w.releaseDone i t false)
      | .serverError | .exception =>
        if t.attempt + 1 < releaseMaxRetries then
          some { w with
            releases := w.releases.set i
              { t with attempt := t.attempt + 1, phase := .ready } }
        else some (w.releaseDone i t false)
    else none
  | none => none

end PortWorld

-- ==== the runs

inductive PortAct where
  | tick (n : Nat)
  | allocateBegin (gameId : GameId)
  | handOut (port : Int)
  | allocateReply (r : AllocateReply)
  | getOrCreateSession (gameId : GameId) (port : Int) (minPlayers : Nat)
  | addPlayer (gameId : GameId) (agentId : AgentId) (playerId : Int)
      (handler : HandlerId)
  | pause (gameId : GameId) (gameTimeout : Option Int) (sent : Bool)
  | resume (gameId : GameId) (sent : Bool)
  | markGameOver (gameId : GameId)
  | disconnect (gameId : GameId) (agentId : Option AgentId)
      (sessionPort : Option (Option Int))
  | removeSession (gameId : GameId) (releasePort : Bool)
  | sweepBegin (timeoutSecs : Int) (active : List GameId)
  | terminate (gameId : GameId)
  | releaseSend (i : Nat)
  | releaseReceive (i : Nat) (accepted : Bool)
  | releaseReply (i : Nat) (r : ReleaseReply)

namespace PortWorld

def apply (w : PortWorld) : PortAct → Option PortWorld
  | .tick n => some { w with now := w.now + n }
  | .allocateBegin g => w.allocateBegin g
  | .handOut p => w.handOut p
  | .allocateReply r => w.allocateReply r
  | .getOrCreateSession g p m => some (w.getOrCreateSession g p m)
  | .addPlayer g a pid h =>
    some (w.modifySession g fun s => (s.addPlayer a pid h w.now).1)
  | .pause g t sent =>
    some (w.modifySession g fun s => (s.pauseGame t sent w.now).1)
  | .resume g sent =>
    some (w.modifySession g fun s => (s.resumeGame sent w.now).1)
  | .markGameOver g =>
    some (w.modifySession g fun s => s.markGameOver w.now)
  | .disconnect g a port => some (w.disconnect g a port)
  | .removeSession g r => some (w.removeSession g r)
  | .sweepBegin t active => some (w.sweepBegin t active)
  | .terminate g => some (w.terminate g)
  | .releaseSend i => w.releaseSend i
  | .releaseReceive i accepted => w.releaseReceive i accepted
  | .releaseReply i r => w.releaseReply i r

end PortWorld

/-- The runs of the manager, any tasks interleaved. -/
def portRuns : Lts PortWorld PortAct where
  init w := w = PortWorld.init
  step := PortWorld.apply

end Freeciv3d.Proxy
