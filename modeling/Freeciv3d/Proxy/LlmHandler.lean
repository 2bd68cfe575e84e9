/-
`LLMWSHandler` around its connection: the reconnection of an agent with
a suspended session, and `on_close`.

# Shared pieces

A connection is spread over tables that outlive the handler object: the
agent table `llm_agents`, the session of the agent, the `CivCom` and
its registry entry, and the player entry of the game session. Each is
keyed by something the successor of a handler has too (the agent, the
session id, the game, the `CivCom` object). Handlers and `CivCom`s are
objects, so both live in heaps and the tables hold ids.

# What is left out

A reconnection that finds no suspended session or no live `CivCom`
opens a new connection to the civserver; only the resuming one is
modelled. Messages to agents and packets to the civserver are not. That
a send went through is a parameter.

# Reconnections

`resumeConnect` is the reconnection that finds the agent's live
`CivCom`; `openConnect` is every other one: the session is resumed or
new, and a new `CivCom` replaces the registered one. Both end by
joining the game and by `_check_and_resume_game`, and both are one step
here.

# Sends

`pause_game` and `resume_game` are only called with a live `CivCom`,
and a send through a live `CivCom` succeeds.
-/
import Freeciv3d.Proxy.GameSession
import Freeciv3d.Proxy.Registry
import Freeciv3d.Proxy.SessionManager
import Freeciv3d.Proxy.StateCache

namespace Freeciv3d.Proxy

open Lib

/-- The fields of an `LLMWSHandler` that its connection is about. -/
structure LlmHandler where
  agentId : Option AgentId
  gameId : Option GameId
  playerId : Option Int
  sessionId : Option String
  /-- The `civserver_port` of its `session_info`, when it has one. -/
  sessionPort : Option (Option Int)
  civcom : Option CivComId
  /-- `ws_connection.is_closing()`. -/
  closing : Bool
  deriving DecidableEq

def LlmHandler.init : LlmHandler := ⟨none, none, none, none, none, none, false⟩

structure ProxyWorld (σ : Type) where
  handlers : HandlerId → LlmHandler
  civcoms : Heap
  registry : Registry
  llmAgents : Dict AgentId HandlerId
  sessions : SessionTables
  games : Dict GameId GameSession
  stateCache : StateCache σ
  releases : List (GameId × Int)

def observerAgentId : AgentId := "__observer__"

namespace ProxyWorld

variable {σ : Type}

def modifyHandler (w : ProxyWorld σ) (h : HandlerId)
    (f : LlmHandler → LlmHandler) : ProxyWorld σ :=
  { w with handlers := Function.update w.handlers h (f (w.handlers h)) }

/-- A non-empty string attribute: an empty one is falsy. -/
def truthy (s : Option String) : Option String := s.filter (· != "")

-- ==== partners, on a close

/-- Suspend one partner's session and close its connection, unless the
partner is registered with another handler by now. -/
def suspendPartner (now : Int) (w : ProxyWorld σ) (info : SessionPlayer) :
    ProxyWorld σ :=
  let w := match truthy (w.handlers info.handler).sessionId with
    | some sessionId =>
      { w with sessions := (w.sessions.suspendSession sessionId now).1 }
    | none => w
  match w.llmAgents.get? info.agentId with
  | some current =>
    if current ≠ info.handler then w
    else w.modifyHandler info.handler fun p => { p with closing := true }
  | none => w.modifyHandler info.handler fun p => { p with closing := true }

/-- The partners of an agent: the other players of the game. -/
def partners (s : GameSession) (agentId : Option AgentId) :
    List SessionPlayer :=
  (s.players.entries.filter fun e => some e.1 != agentId).map fun e =>
    { e.2 with agentId := e.1 }

def suspendPartners (w : ProxyWorld σ) (h : HandlerId) (now : Int) :
    ProxyWorld σ :=
  match (w.handlers h).gameId.bind w.games.get? with
  | none => w
  | some s =>
    (partners s (w.handlers h).agentId).foldl (suspendPartner now) w

def pauseGame (w : ProxyWorld σ) (gameId : GameId) (c : CivComId)
    (sent : Bool) (now : Int) : ProxyWorld σ :=
  { w with
    games := w.games.modify gameId fun s =>
      (s.pauseGame (w.civcoms c).gameTimeout sent now).1 }

/-- `_pause_and_suspend_partner`, for a handler with a live `CivCom`. -/
def pauseAndSuspendPartner (w : ProxyWorld σ) (h : HandlerId)
    (c : CivComId) (sent : Bool) (now : Int) : ProxyWorld σ :=
  match (w.handlers h).gameId with
  | none => w
  | some gameId =>
    match w.games.get? gameId with
    | none => w
    | some s =>
      if s.gameStarted then
        (w.pauseGame gameId c sent now).suspendPartners h now
      else w

-- ==== on_close

/-- The handler's `CivCom`, unless it is stopped. -/
def liveCivcom (w : ProxyWorld σ) (h : HandlerId) : Option CivComId :=
  (w.handlers h).civcom.filter fun c => !(w.civcoms c).stopped

/-- The first live `CivCom` of a partner. -/
def partnerCivcom (w : ProxyWorld σ) (s : GameSession)
    (agentId : Option AgentId) : Option CivComId :=
  (partners s agentId).findSome? fun info => w.liveCivcom info.handler

/-- `on_close`, the pause: over, closed by the partner, running, or
anything else. -/
def closePause (w : ProxyWorld σ) (h : HandlerId)
    (closeCode : Option Int) (sent : Bool) (now : Int) : ProxyWorld σ :=
  match truthy (w.handlers h).gameId with
  | none => w
  | some gameId =>
    let session := w.games.get? gameId
    let isOver := session.any GameSession.gameIsOver
      || (w.handlers h).civcom.any fun c => (w.civcoms c).gameIsOver
    if isOver then
      { w with games := w.games.modify gameId fun s => s.markGameOver now }
    else if closeCode = some 4001 then w
    else if session.any fun s => s.gameStarted && !s.isPaused then
      match w.liveCivcom h with
      | some c => (w.pauseGame gameId c sent now).suspendPartners h now
      | none =>
        match session.bind fun s =>
            w.partnerCivcom s (w.handlers h).agentId with
        | some c => w.pauseGame gameId c sent now
        | none => w
    else match w.liveCivcom h with
      | some c => w.pauseAndSuspendPartner h c sent now
      | none => w

def stopObserverCivcom (w : ProxyWorld σ) (gameId : GameId) :
    ProxyWorld σ :=
  match w.registry.getCivcom gameId observerAgentId with
  | none => w
  | some c =>
    let heap := w.civcoms.modify c CivCom.closeConnection
    let (registry, heap) :=
      w.registry.unregisterGame heap (gameId, observerAgentId)
    { w with civcoms := heap, registry := registry }

/-- `on_close`, the end of a connection that is not suspended: the
`CivCom` is closed, and unregistered if it is the registered one. -/
def closeCivcom (w : ProxyWorld σ) (h : HandlerId) : ProxyWorld σ :=
  let w := match (w.handlers h).civcom with
    | some c =>
      { w with civcoms := w.civcoms.modify c CivCom.closeConnection }
    | none => w
  match truthy (w.handlers h).gameId, truthy (w.handlers h).agentId with
  | some gameId, some agentId =>
    if w.registry.getCivcom gameId agentId = (w.handlers h).civcom then
      let (registry, heap) :=
        w.registry.unregisterGame w.civcoms (gameId, agentId)
      { w with registry := registry, civcoms := heap }
    else w
  | _, _ => w

def closePort (w : ProxyWorld σ) (h : HandlerId) : Option Int :=
  GameSession.portToRelease (w.handlers h).sessionPort
    ((truthy (w.handlers h).gameId).bind w.games.get?)

/-- `on_close`, the port: the agent leaves the game, and the last one
to leave schedules the release. -/
def closeReleasePort (w : ProxyWorld σ) (h : HandlerId) (now : Int) :
    ProxyWorld σ :=
  match (w.closePort h).filter (· ≠ 0), truthy (w.handlers h).gameId with
  | some port, some gameId =>
    match w.games.get? gameId with
    | none => w
    | some s =>
      let (s, shouldRelease) := s.leave (w.handlers h).agentId now
      let w := { w with games := w.games.set gameId s }
      if shouldRelease then
        { w.stopObserverCivcom gameId with
          releases := w.releases ++ [(gameId, port)] }
      else w
  | _, _ => w

/-- `on_close`, the tables at its end: the agent is taken out whoever
is registered for it, and its player's cache entries go. -/
def closeTables (w : ProxyWorld σ) (h : HandlerId) : ProxyWorld σ :=
  let w := w.modifyHandler h fun p => { p with civcom := none }
  let w := match truthy (w.handlers h).agentId with
    | some agentId => { w with llmAgents := w.llmAgents.erase agentId }
    | none => w
  match (w.handlers h).playerId with
  | some playerId =>
    { w with stateCache := w.stateCache.invalidate playerId }
  | none => w

/-- `on_close`, the session: suspended if there is one to suspend. -/
def closeSession (w : ProxyWorld σ) (h : HandlerId) (now : Int) :
    ProxyWorld σ × Bool :=
  match truthy (w.handlers h).sessionId with
  | some sessionId =>
    let (sessions, suspended) := w.sessions.suspendSession sessionId now
    ({ w with sessions := sessions }, suspended)
  | none => (w, false)

def onClose (w : ProxyWorld σ) (h : HandlerId) (closeCode : Option Int)
    (sent : Bool) (now : Int) : ProxyWorld σ :=
  let w := w.closePause h closeCode sent now
  let (w, sessionSuspended) := w.closeSession h now
  let w := match sessionSuspended, w.liveCivcom h with
    | true, some c =>
      { w with
        civcoms := w.civcoms.modify c fun c =>
          { c with civwebserver := none } }
    | _, _ => (w.closeCivcom h).closeReleasePort h now
  w.closeTables h

-- ==== reconnection

def getOrCreateSession (w : ProxyWorld σ) (gameId : GameId) (port : Int)
    (now : Int) : ProxyWorld σ :=
  if w.games.contains gameId then w
  else { w with
    games := w.games.set gameId (GameSession.init gameId port 2 now) }

/-- Every player has a handler with a live `CivCom`. -/
def allConnected (w : ProxyWorld σ) (s : GameSession) : Bool :=
  s.players.values.all fun info => (w.liveCivcom info.handler).isSome

/-- `_check_and_resume_game`: in a paused game the player's handler is
updated, and the game goes on once every player is connected. -/
def checkAndResumeGame (w : ProxyWorld σ) (h : HandlerId)
    (agentId : AgentId) (gameId : GameId) (sent : Bool) (now : Int) :
    ProxyWorld σ :=
  match w.games.get? gameId with
  | none => w
  | some s =>
    if s.isPaused then
      let s := { s with
        players := s.players.modify agentId fun info =>
          { info with handler := h } }
      let s := if w.allConnected s then (s.resumeGame sent now).1 else s
      { w with games := w.games.set gameId s }
    else w

/-- `_handle_llm_connect` of a new handler for an agent whose session
is suspended and whose `CivCom` is registered and live: the session is
resumed, the agent registered, the `CivCom` re-attached, and the player
entry updated. Otherwise it is not a resuming reconnection. -/
def resumeConnect (w : ProxyWorld σ) (h : HandlerId) (agentId : AgentId)
    (gameId : GameId) (tokenMatches : String → Bool) (sent : Bool)
    (now : Int) : Option (ProxyWorld σ) :=
  match w.sessions.tryResumeSessionForAgent agentId (some gameId)
      tokenMatches now with
  | (sessions, some s) =>
    match s.civserverPort, s.playerId,
        w.registry.getCivcom gameId agentId with
    | some port, some playerId, some c =>
      if (w.civcoms c).stopped then none
      else
        let w := { w with
          sessions := sessions
          llmAgents := w.llmAgents.set agentId h
          civcoms := w.civcoms.modify c fun civcom =>
            { civcom.reattach h with playerId := some playerId } }
        let w := w.modifyHandler h fun p =>
          { p with
            agentId := some agentId
            gameId := some gameId
            playerId := some playerId
            sessionId := some s.sessionId
            sessionPort := some (some port)
            civcom := some c }
        let w := w.getOrCreateSession gameId port now
        let w := { w with
          games := w.games.modify gameId fun s =>
            (s.addPlayer agentId playerId h now).1 }
        some (w.checkAndResumeGame h agentId gameId sent now)
    | _, _, _ => none
  | _ => none

end ProxyWorld

-- ==== pauses

/-- The proxy, its open WebSockets, the time and the next free `CivCom`
id. -/
structure PauseWorld (σ : Type) where
  proxy : ProxyWorld σ
  connections : List HandlerId
  now : Int
  nextCivcom : CivComId

/-- A completed `llm_connect`: what the message, the session manager and
the civserver make of it. -/
structure ConnectArgs where
  handler : HandlerId
  agentId : AgentId
  gameId : GameId
  tokenMatches : String → Bool
  /-- The id and the token's hash, should the session be new. -/
  newSessionId : String
  apiTokenHash : String
  port : Int
  playerId : Int

inductive PauseAct where
  | tick (n : Nat)
  | close (h : HandlerId) (closeCode : Option Int)
  | reconnect (args : ConnectArgs)
  | connect (args : ConnectArgs)
  | civcomStops (c : CivComId)
  | start (gameId : GameId)
  | markGameOver (gameId : GameId)

namespace ProxyWorld

variable {σ : Type}

/-- The end of a completed `llm_connect`: the player's entry in the
game, and the check. -/
def joinGame (w : ProxyWorld σ) (h : HandlerId) (agentId : AgentId)
    (gameId : GameId) (port playerId : Int) (now : Int) : ProxyWorld σ :=
  let w := w.getOrCreateSession gameId port now
  let w := { w with
    games := w.games.modify gameId fun s =>
      (s.addPlayer agentId playerId h now).1 }
  w.checkAndResumeGame h agentId gameId true now

/-- The session of a connect: the suspended one of the agent, or a new
one. -/
def connectSession (w : ProxyWorld σ) (args : ConnectArgs) (now : Int) :
    SessionTables × Option SessionInfo :=
  match w.sessions.tryResumeSessionForAgent args.agentId (some args.gameId)
      args.tokenMatches now with
  | (sessions, some s) => (sessions, some s)
  | (sessions, none) =>
    sessions.createSession args.agentId (some args.gameId)
      args.newSessionId args.apiTokenHash now

/-- `_connect_to_civserver`: a new `CivCom`, registered for the agent. -/
def connectToCivserver (w : ProxyWorld σ) (h : HandlerId)
    (agentId : AgentId) (gameId : GameId) (c : CivComId) (playerId : Int) :
    ProxyWorld σ :=
  let civcoms := Function.update w.civcoms c
    { CivCom.init h with playerId := some playerId, alive := true
                         socket := true }
  match w.registry.registerGame civcoms gameId agentId c [] with
  | .ok (registry, civcoms) =>
    { w with registry := registry, civcoms := civcoms }
  | .error _ => { w with civcoms := civcoms }

/-- `_handle_llm_connect` of a new handler that opens a connection to
the civserver. -/
def openConnect (w : ProxyWorld σ) (args : ConnectArgs) (c : CivComId)
    (now : Int) : Option (ProxyWorld σ) :=
  match w.connectSession args now with
  | (_, none) => none
  | (sessions, some s) =>
    let port := s.civserverPort.getD args.port
    let playerId := s.playerId.getD args.playerId
    let w := { w with
      sessions := { sessions with
        sessions := sessions.sessions.set s.sessionId
          { s with civserverPort := some port, playerId := some playerId } }
      llmAgents := w.llmAgents.set args.agentId args.handler }
    let w := w.connectToCivserver args.handler args.agentId args.gameId c
      playerId
    let w := w.modifyHandler args.handler fun p =>
      { p with
        agentId := some args.agentId
        gameId := some args.gameId
        playerId := some playerId
        sessionId := some s.sessionId
        sessionPort := some (some port)
        civcom := some c }
    some (w.joinGame args.handler args.agentId args.gameId port playerId
      now)

end ProxyWorld

namespace PauseWorld

variable {σ : Type}

def modifyGame (w : PauseWorld σ) (gameId : GameId)
    (f : GameSession → GameSession) : PauseWorld σ :=
  { w with
    proxy := { w.proxy with games := w.proxy.games.modify gameId f } }

def apply (w : PauseWorld σ) : PauseAct → Option (PauseWorld σ)
  | .tick n => some { w with now := w.now + n }
  | .close h closeCode =>
    if h ∈ w.connections then
      some { w with
        proxy := w.proxy.onClose h closeCode true w.now
        connections := w.connections.filter (· ≠ h) }
    else none
  | .reconnect args =>
    if w.proxy.handlers args.handler = LlmHandler.init then
      (w.proxy.resumeConnect args.handler args.agentId args.gameId
        args.tokenMatches true w.now).map fun proxy =>
          { w with
            proxy := proxy, connections := w.connections ++ [args.handler] }
    else none
  | .connect args =>
    if w.proxy.handlers args.handler = LlmHandler.init then
      (w.proxy.openConnect args w.nextCivcom w.now).map fun proxy =>
        { w with
          proxy := proxy, connections := w.connections ++ [args.handler]
          nextCivcom := w.nextCivcom + 1 }
    else none
  | .civcomStops c =>
    some { w with
      proxy := { w.proxy with
        civcoms := w.proxy.civcoms.modify c CivCom.stop } }
  | .start gameId =>
    some (w.modifyGame gameId fun s =>
      { s with gameStarted := true, phase := .running })
  | .markGameOver gameId =>
    some (w.modifyGame gameId fun s => s.markGameOver w.now)

end PauseWorld

/-- The runs of the proxy: nobody is connected and there is no game at
its start. -/
def pauseRuns (σ : Type) : Lts (PauseWorld σ) PauseAct where
  init w := w.proxy.games = ∅ ∧ w.proxy.handlers = (fun _ => LlmHandler.init)
    ∧ w.proxy.sessions = ⟨∅, ∅⟩ ∧ w.proxy.registry = ⟨∅, ∅⟩
    ∧ w.connections = []
  step := PauseWorld.apply

end Freeciv3d.Proxy
