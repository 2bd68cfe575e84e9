/-
Which player an agent is: `_handle_llm_connect` as far as agents,
sessions and player ids go.

# Where a player id comes from

A resumed session has one, the client may name one, and the civserver
assigns one in PACKET_CONN_INFO. The handler waits between its three
parts (for a port and the civserver, then for the game session and
PACKET_CONN_INFO), so each part is a step; `ConnectPhase` holds the
local variables that survive a wait.

# The history

`assigned` lists who became which player, latest first. `taken` holds
the `/take` commands sent, a later assignment of the player to another
agent removes them. `unearned` notes the reconnections that made an
agent a player it had not been assigned before.

# What is left out

The token is valid. What the civserver and the metaserver answer, and
that another handler suspends a session as a partner's, are the
label's. The value `civcom.player_id` has once PACKET_CONN_INFO has set
it is the label's too, also for a `CivCom` that is taken over.
-/
import Freeciv3d.Lib.Lts
import Freeciv3d.Proxy.SessionManager

namespace Freeciv3d.Proxy

open Lib

/-- Where a handler is in `_handle_llm_connect`. -/
inductive ConnectPhase where
  | idle
  /-- Registered as an agent, not connected to the civserver. -/
  | identified (isReconnecting : Bool) (previousPlayerId : Option Int)
  | registering (isReconnecting : Bool) (previousPlayerId : Option Int)
  deriving DecidableEq

/-- The fields of an `LLMWSHandler` that say who it is. -/
structure SlotHandler where
  /-- `on_close` has not run. -/
  isOpen : Bool
  isLlmAgent : Bool
  agentId : Option AgentId
  gameId : Option GameId
  playerId : Option Int
  sessionId : Option String
  /-- `session_info`, as the id of the object. -/
  sessionInfo : Option String
  /-- `civcom is not None`. -/
  attached : Bool
  phase : ConnectPhase

def SlotHandler.init : SlotHandler :=
  ⟨true, false, none, none, none, none, none, false, .idle⟩

structure Assignment where
  gameId : GameId
  playerId : Int
  agentId : AgentId
  deriving DecidableEq

structure SlotWorld where
  handlers : Dict HandlerId SlotHandler
  sessions : SessionTables
  now : Int
  issued : List String
  assigned : List Assignment
  taken : List Assignment
  unearned : List Assignment

/-- An `llm_connect` message, and the id and the token's hash of a new
session. -/
structure ConnectMessage where
  agentId : AgentId
  gameId : GameId
  /-- `int(player_id)`, if there is one. -/
  playerId : Option Int
  tokenMatches : String → Bool
  newSessionId : String
  apiTokenHash : String

inductive SlotAct where
  | tick (n : Nat)
  | opens (h : HandlerId)
  | connect (h : HandlerId) (msg : ConnectMessage)
  | reachCivserver (h : HandlerId)
  | civserverFails (h : HandlerId)
  | aborts (h : HandlerId)
  | assign (h : HandlerId) (connInfo : Option Int)
  | message (h : HandlerId)
  | close (h : HandlerId)
  | suspend (sessionId : String)
  | cleanup

namespace SlotWorld

def maxPlayerSlots : Int := 512

/-- The history after an agent has become a player. -/
def becomes (w : SlotWorld) (x : Assignment) (byReconnection : Bool) :
    SlotWorld :=
  { w with
    assigned := x :: w.assigned
    taken := w.taken.filter fun y =>
      y.gameId != x.gameId || y.playerId != x.playerId
        || y.agentId == x.agentId
    unearned := if byReconnection && !w.assigned.contains x then
      x :: w.unearned else w.unearned }

def setHandler (w : SlotWorld) (h : HandlerId) (e : SlotHandler) :
    SlotWorld :=
  { w with handlers := w.handlers.set h e }

-- ==== the identity

/-- `_validate_session`, as every message begins with it: a handler
whose session is not valid loses it. -/
def validate (w : SlotWorld) (h : HandlerId) (e : SlotHandler) :
    SlotWorld × Bool :=
  match e.sessionId with
  | none => (w, true)
  | some sessionId =>
    let (sessions, valid) := w.sessions.validateSession sessionId w.now
    let w := { w with sessions := sessions }
    if valid then (w, true)
    else
      (w.setHandler h { e with
        sessionId := none, sessionInfo := none, isLlmAgent := false },
        false)

/-- `try_resume_session_for_agent` for a message. -/
def resumption (w : SlotWorld) (msg : ConnectMessage) :
    SessionTables × Option SessionInfo :=
  w.sessions.tryResumeSessionForAgent msg.agentId (some msg.gameId)
    msg.tokenMatches w.now

/-- The player id the client names, when it is a player's. -/
def providedPlayerId (msg : ConnectMessage) : Option Int :=
  msg.playerId.filter fun p => 0 ≤ p && p < maxPlayerSlots

def sessionFor (w : SlotWorld) (e : SlotHandler) (msg : ConnectMessage) :
    SlotWorld × Option String :=
  match e.sessionInfo with
  | some sessionId => (w, some sessionId)
  | none =>
    let (sessions, s) := w.sessions.createSession msg.agentId
      (some msg.gameId) msg.newSessionId msg.apiTokenHash w.now
    ({ w with sessions := sessions, issued := msg.newSessionId :: w.issued },
      s.map SessionInfo.sessionId)

/-- The agent of a resumed session is its player again. -/
def restore (w : SlotWorld) (msg : ConnectMessage) :
    Option Int → SlotWorld
  | some p => w.becomes ⟨msg.gameId, p, msg.agentId⟩ true
  | none => w

/-- Registration in `llm_agents`, if there is a session. -/
def register (w : SlotWorld) (h : HandlerId) (e : SlotHandler)
    (msg : ConnectMessage) (isReconnecting : Bool)
    (previous : Option Int) : SlotWorld :=
  match w.sessionFor e msg with
  | (w, none) => w.setHandler h e
  | (w, some sessionId) =>
    w.setHandler h { e with
      sessionInfo := some sessionId
      sessionId := some sessionId
      isLlmAgent := true
      phase := .identified isReconnecting previous }

/-- The identity part of `_handle_llm_connect`: a session is resumed or
created, and the previous player id is the session's or the client's. -/
def identify (w : SlotWorld) (h : HandlerId) (e : SlotHandler)
    (msg : ConnectMessage) : SlotWorld :=
  let (sessions, resumed) := w.resumption msg
  let restored := resumed.bind SessionInfo.playerId
  let previous := restored.or (providedPlayerId msg)
  let e := { e with
    agentId := some msg.agentId
    gameId := some msg.gameId
    playerId := restored.or e.playerId
    sessionInfo := (resumed.map SessionInfo.sessionId).or e.sessionInfo }
  ({ w with sessions := sessions }.restore msg restored).register h e msg
    (resumed.isSome || previous.isSome) previous

def connect (w : SlotWorld) (h : HandlerId) (msg : ConnectMessage) :
    Option SlotWorld :=
  match w.handlers.get? h with
  | none => none
  | some e =>
    if e.isOpen && e.phase == .idle
        && !w.issued.contains msg.newSessionId then
      match w.validate h e with
      | (w, true) => some (w.identify h e msg)
      | (w, false) => some w
    else none

-- ==== the civserver

def claimed (isReconnecting : Bool) (previous : Option Int) : Option Int :=
  if isReconnecting then previous.filter (0 ≤ ·) else none

/-- Connected to the civserver; a reconnecting agent takes its player
back. -/
def reachCivserver (w : SlotWorld) (h : HandlerId) : Option SlotWorld :=
  match w.handlers.get? h with
  | none => none
  | some e =>
    match e.phase, e.agentId, e.gameId with
    | .identified r previous, some agentId, some gameId =>
      let w := w.setHandler h { e with
        attached := true, phase := .registering r previous }
      match claimed r previous with
      | some p => some { w with taken := ⟨gameId, p, agentId⟩ :: w.taken }
      | none => some w
    | _, _, _ => none

/-- The civserver cannot be reached: the session is terminated. -/
def civserverFails (w : SlotWorld) (h : HandlerId) : Option SlotWorld :=
  match w.handlers.get? h with
  | none => none
  | some e =>
    match e.phase with
    | .identified _ _ =>
      let w := match e.sessionId with
        | some sessionId =>
          { w with sessions := w.sessions.terminateSession sessionId }
        | none => w
      some (w.setHandler h { e with
        sessionId := none, isLlmAgent := false, phase := .idle })
    | _ => none

def aborts (w : SlotWorld) (h : HandlerId) : Option SlotWorld :=
  match w.handlers.get? h with
  | none => none
  | some e =>
    match e.phase with
    | .identified _ _ => some (w.setHandler h { e with phase := .idle })
    | _ => none

-- ==== the player id

def savePlayerId (w : SlotWorld) (e : SlotHandler) (p : Int) : SlotWorld :=
  { w with
    sessions := { w.sessions with
      sessions := match e.sessionInfo with
        | some sessionId => w.sessions.sessions.modify sessionId fun s =>
          { s with playerId := some p }
        | none => w.sessions.sessions } }

/-- The handler becomes a player; its session remembers a player slot. -/
def assignPlayer (w : SlotWorld) (h : HandlerId) (e : SlotHandler)
    (x : Assignment) (byReconnection : Bool) : SlotWorld :=
  let w := (w.becomes x byReconnection).setHandler h
    { e with playerId := some x.playerId, phase := .idle }
  if e.attached && x.playerId < maxPlayerSlots then
    w.savePlayerId e x.playerId
  else w

/-- The last part of `_handle_llm_connect`: the claimed player id, or
the one PACKET_CONN_INFO brings, if it comes. -/
def assign (w : SlotWorld) (h : HandlerId) (connInfo : Option Int) :
    Option SlotWorld :=
  match w.handlers.get? h with
  | none => none
  | some e =>
    match e.phase, e.agentId, e.gameId with
    | .registering r previous, some agentId, some gameId =>
      match claimed r previous with
      | some p =>
        some (w.assignPlayer h e ⟨gameId, p, agentId⟩ true)
      | none =>
        match connInfo.filter fun _ => e.attached with
        | some p =>
          some (w.assignPlayer h e ⟨gameId, p, agentId⟩ false)
        | none => some (w.setHandler h { e with phase := .idle })
    | _, _, _ => none

/-- `on_close`: the session is suspended. -/
def close (w : SlotWorld) (h : HandlerId) : Option SlotWorld :=
  match w.handlers.get? h with
  | none => none
  | some e =>
    if e.isOpen then
      let w := match e.sessionId with
        | some sessionId =>
          { w with
            sessions := (w.sessions.suspendSession sessionId w.now).1 }
        | none => w
      some (w.setHandler h { e with isOpen := false, attached := false })
    else none

def apply (w : SlotWorld) : SlotAct → Option SlotWorld
  | .tick n => some { w with now := w.now + n }
  | .opens h =>
    if w.handlers.contains h then none
    else some (w.setHandler h SlotHandler.init)
  | .connect h msg => w.connect h msg
  | .reachCivserver h => w.reachCivserver h
  | .civserverFails h => w.civserverFails h
  | .aborts h => w.aborts h
  | .assign h connInfo => w.assign h connInfo
  | .message h =>
    match w.handlers.get? h with
    | none => none
    | some e =>
      if e.isOpen && e.phase == .idle then some (w.validate h e).1
      else none
  | .close h => w.close h
  | .suspend sessionId =>
    some { w with sessions := (w.sessions.suspendSession sessionId w.now).1 }
  | .cleanup =>
    some { w with sessions := w.sessions.cleanupExpiredSessions w.now }

def init : SlotWorld where
  handlers := ∅
  sessions := ⟨∅, ∅⟩
  now := 0
  issued := []
  assigned := []
  taken := []
  unearned := []

end SlotWorld

def slotRuns : Lts SlotWorld SlotAct where
  init w := w = SlotWorld.init
  step := SlotWorld.apply

end Freeciv3d.Proxy
