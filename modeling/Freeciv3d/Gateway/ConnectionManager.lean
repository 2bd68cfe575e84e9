/-
`ConnectionManager` of the LLM gateway: the dictionaries of live
connections, and the coroutines that change them.

# Suspension points

A coroutine gives up control only where the awaited object can: at
`websocket.close()` and at `websocket.send_text()`. Awaiting a
coroutine of the manager itself (`check_resumable_session`,
`get_agent_connections`, the two clean-ups) runs on without a break.
A suspended coroutine is a `Task`; the label that resumes it says
whether the socket call succeeded.

# Objects and ids

`ConnectionInfo` objects are shared by `connections` and
`disconnected_sessions`, so they live in a heap and both hold ids. A
connection id is a fresh uuid; here ids are counted, and the keys of
`connections` stand in the order of their insertion. The value under a
key is the object of that id.

# Iterating a dict that changes

`dict.items()` checks its size at every `next`. An iterator whose dict
kept its size but not its keys runs on to the entries behind its place
and raises when it meets one more than it had counted. That the
runtime may also lose its place when an insertion reallocates the
table is not modelled.
-/
import Mathlib.Data.Finset.Card
import Mathlib.Logic.Function.Basic
import Freeciv3d.Lib.Dict
import Freeciv3d.Lib.Lts

namespace Freeciv3d.Gateway

open Lib

abbrev ConnectionId := Nat

inductive ConnectionType where
  | agent
  | spectator

/-- A `ConnectionInfo`. A session id is the connection that started the
session. -/
structure ConnectionInfo where
  connectionType : ConnectionType
  identifier : String
  sessionId : ConnectionId
  lastSeen : Int
  authenticated : Bool
  playerId : Option Int
  gameId : Option String
  civserverPort : Option Int
  disconnectedAt : Option Int

/-- The settings the manager reads, as `validate_settings` leaves
them. -/
structure Settings where
  maxConnectionsPerAgent : Nat
  agentTimeout : Int
  sessionResumptionWindow : Int
  minReconnectCooldownSecs : Int
  one_le_max : 1 ≤ maxConnectionsPerAgent

inductive PyError where
  | valueError (message : String)
  | keyError (key : ConnectionId)
  | runtimeError (message : String)
  deriving DecidableEq

/-- The iterator of `maintain_connections` and what the loop has
collected. -/
structure Iteration where
  size : Nat
  left : Nat
  /-- Its place: every entry from this id on is ahead. -/
  place : ConnectionId
  expiredConnections : List ConnectionId

/-- A coroutine that waits: to be started, or for its socket. -/
inductive Task where
  /-- `create_task(handle_disconnect(id))`. -/
  | handleDisconnect (id : ConnectionId)
  /-- `remove_connection`, in `websocket.close()`. -/
  | closing (id : ConnectionId)
  /-- The same, called by `maintain_connections` on the first of its
  expired connections. -/
  | closingExpired (id : ConnectionId) (rest : List ConnectionId)
  /-- `maintain_connections`, in `_send_heartbeat`. -/
  | heartbeat (it : Iteration) (id : ConnectionId)
  /-- `send_to_agent`, in `send_text`. -/
  | sending (id : ConnectionId) (rest : List ConnectionId)
  /-- `broadcast_to_spectators`, in `send_text`. -/
  | broadcasting (id : ConnectionId) (rest failed : List ConnectionId)

def Task.removing? : Task → Option ConnectionId
  | closing id => some id
  | closingExpired id _ => some id
  | _ => none

/-- The manager, the waiting coroutines and the exceptions raised so
far. -/
structure ConnectionManager where
  heap : ConnectionId → ConnectionInfo
  nextId : ConnectionId
  connections : List ConnectionId
  agentConnections : Dict String (Finset ConnectionId)
  spectatorConnections : Dict String (Finset ConnectionId)
  disconnectedSessions : Dict String ConnectionId
  tasks : List Task
  raised : List PyError

namespace ConnectionManager

/-- `__init__`, with a heap of unused objects. -/
def init (heap : ConnectionId → ConnectionInfo) : ConnectionManager where
  heap := heap
  nextId := 0
  connections := []
  agentConnections := ∅
  spectatorConnections := ∅
  disconnectedSessions := ∅
  tasks := []
  raised := []

def modifyInfo (s : ConnectionManager) (id : ConnectionId)
    (f : ConnectionInfo → ConnectionInfo) : ConnectionManager :=
  { s with heap := Function.update s.heap id (f (s.heap id)) }

def raise (s : ConnectionManager) (e : PyError) : ConnectionManager :=
  { s with raised := s.raised ++ [e] }

def spawn (s : ConnectionManager) (t : Task) : ConnectionManager :=
  { s with tasks := s.tasks ++ [t] }

-- ==== add_connection

/-- `check_resumable_session`: an expired session is dropped. -/
def checkResumableSession (cfg : Settings) (s : ConnectionManager)
    (identifier : String) (now : Int) :
    ConnectionManager × Option ConnectionId :=
  match s.disconnectedSessions.get? identifier with
  | none => (s, none)
  | some cached =>
    match (s.heap cached).disconnectedAt with
    | none => (s, none)
    | some t =>
      if now - t < cfg.minReconnectCooldownSecs then (s, none)
      else if now - t ≤ cfg.sessionResumptionWindow then
        (s, some cached)
      else
        ({ s with disconnectedSessions :=
            s.disconnectedSessions.erase identifier }, none)

/-- The new object: it resumes a cached session, without its port, or
starts one. -/
def newInfo (s : ConnectionManager) (connectionType : ConnectionType)
    (identifier : String) (now : Int) :
    Option ConnectionId → ConnectionInfo
  | some cached =>
    { connectionType := connectionType, identifier := identifier
      sessionId := (s.heap cached).sessionId, lastSeen := now
      authenticated := (s.heap cached).authenticated
      playerId := (s.heap cached).playerId
      gameId := (s.heap cached).gameId, civserverPort := none
      disconnectedAt := none }
  | none =>
    { connectionType := connectionType, identifier := identifier
      sessionId := s.nextId, lastSeen := now, authenticated := false
      playerId := none, gameId := none, civserverPort := none
      disconnectedAt := none }

/-- The object is made; a session it resumes leaves the cache. -/
def createInfo (cfg : Settings) (s : ConnectionManager)
    (connectionType : ConnectionType) (identifier : String) (now : Int) :
    ConnectionManager :=
  let (s, cached) := s.checkResumableSession cfg identifier now
  let info := s.newInfo connectionType identifier now cached
  { s with
    heap := Function.update s.heap s.nextId info
    nextId := s.nextId + 1
    disconnectedSessions :=
      if cached.isSome then s.disconnectedSessions.erase identifier
      else s.disconnectedSessions }

def tooManyConnections (identifier : String) : PyError :=
  .valueError ("Too many connections for agent " ++ identifier)

def addConnection (cfg : Settings) (s : ConnectionManager)
    (connectionType : ConnectionType) (identifier : String) (now : Int) :
    ConnectionManager :=
  let id := s.nextId
  let s := s.createInfo cfg connectionType identifier now
  match connectionType with
  | .agent =>
    let ids := (s.agentConnections.get? identifier).getD ∅
    if s.agentConnections.contains identifier
        && cfg.maxConnectionsPerAgent ≤ ids.card then
      s.raise (tooManyConnections identifier)
    else
      { s with
        agentConnections := s.agentConnections.set identifier
          (insert id ids)
        connections := s.connections ++ [id] }
  | .spectator =>
    let ids := (s.spectatorConnections.get? identifier).getD ∅
    { s with
      spectatorConnections := s.spectatorConnections.set identifier
        (insert id ids)
      connections := s.connections ++ [id] }

-- ==== remove_connection

/-- `discard` from the set under a key; an empty set goes. -/
def discard (index : Dict String (Finset ConnectionId))
    (identifier : String) (id : ConnectionId) :
    Dict String (Finset ConnectionId) :=
  match index.get? identifier with
  | none => index
  | some ids =>
    if ids.erase id = ∅ then index.erase identifier
    else index.set identifier (ids.erase id)

/-- `remove_connection` up to the close, for a connection that is
there. -/
def beginRemove (s : ConnectionManager) (id : ConnectionId) :
    ConnectionManager :=
  match (s.heap id).connectionType with
  | .agent =>
    { s with agentConnections :=
        discard s.agentConnections (s.heap id).identifier id }
  | .spectator =>
    { s with spectatorConnections :=
        discard s.spectatorConnections (s.heap id).identifier id }

def removeConnection (s : ConnectionManager) (id : ConnectionId) :
    ConnectionManager :=
  if id ∈ s.connections then (s.beginRemove id).spawn (.closing id) else s

def delConnection (s : ConnectionManager) (id : ConnectionId) :
    Except PyError ConnectionManager :=
  if id ∈ s.connections then
    .ok { s with connections := s.connections.erase id }
  else .error (.keyError id)

/-- `_cleanup_agent_disconnect` or `_cleanup_spectator_disconnect`: an
agent's session is cached. -/
def cleanupDisconnect (s : ConnectionManager) (id : ConnectionId)
    (now : Int) : ConnectionManager :=
  match (s.heap id).connectionType with
  | .agent =>
    let agentId := (s.heap id).identifier
    let s := s.modifyInfo id fun i => { i with disconnectedAt := some now }
    { s with disconnectedSessions :=
        s.disconnectedSessions.set agentId id }
  | .spectator => s

def handleDisconnect (s : ConnectionManager) (id : ConnectionId)
    (now : Int) : ConnectionManager :=
  if id ∈ s.connections then
    (s.cleanupDisconnect id now).removeConnection id
  else s

-- ==== maintain_connections

/-- `next` on the iterator: the first entry ahead. -/
def nextEntry (s : ConnectionManager) (size : Nat)
    (place : ConnectionId) : Except PyError (Option ConnectionId) :=
  if s.connections.length = size then
    .ok (s.connections.find? fun id => decide (place ≤ id))
  else .error (.runtimeError "dictionary changed size during iteration")

def isExpired (cfg : Settings) (info : ConnectionInfo) (now : Int) : Bool :=
  cfg.agentTimeout < now - info.lastSeen

/-- Where the loop over `connections` gets without waiting. -/
inductive Scan where
  | heartbeat (it : Iteration) (id : ConnectionId)
  | finished (expiredConnections : List ConnectionId)
  | raised (e : PyError)

/-- The loop over `connections`: expired connections are collected, an
authenticated one is sent a heartbeat. -/
def scan (cfg : Settings) (s : ConnectionManager) (now : Int)
    (size : Nat) : Nat → ConnectionId → List ConnectionId → Scan
  | 0, place, expired =>
    match s.nextEntry size place with
    | .error e => .raised e
    | .ok none => .finished expired
    | .ok (some _) =>
      .raised (.runtimeError "dictionary keys changed during iteration")
  | left + 1, place, expired =>
    match s.nextEntry size place with
    | .error e => .raised e
    | .ok none => .finished expired
    | .ok (some id) =>
      if isExpired cfg (s.heap id) now then
        scan cfg s now size left (id + 1) (expired ++ [id])
      else if (s.heap id).authenticated then
        .heartbeat ⟨size, left, id + 1, expired⟩ id
      else scan cfg s now size left (id + 1) expired

/-- The last part of `maintain_connections`: cached sessions past the
window go. A `disconnected_at` of zero is falsy. -/
def cleanSessions (cfg : Settings) (s : ConnectionManager) (now : Int) :
    ConnectionManager :=
  { s with disconnectedSessions :=
      s.disconnectedSessions.filter fun _ id =>
        match (s.heap id).disconnectedAt with
        | some t => !(t != 0 && cfg.sessionResumptionWindow < now - t)
        | none => true }

/-- The loop over the expired connections, up to the first close. -/
def removeExpired (cfg : Settings) (now : Int) :
    List ConnectionId → ConnectionManager → ConnectionManager
  | [], s => s.cleanSessions cfg now
  | id :: rest, s =>
    if id ∈ s.connections then
      ((s.cleanupDisconnect id now).beginRemove id).spawn
        (.closingExpired id rest)
    else removeExpired cfg now rest s

/-- What follows the loop over `connections`. -/
def afterScan (cfg : Settings) (s : ConnectionManager) (now : Int) :
    Scan → ConnectionManager
  | .heartbeat it id => s.spawn (.heartbeat it id)
  | .finished expired => s.removeExpired cfg now expired
  | .raised e => s.raise e

def maintainConnections (cfg : Settings) (s : ConnectionManager)
    (now : Int) : ConnectionManager :=
  s.afterScan cfg now
    (s.scan cfg now s.connections.length s.connections.length 0 [])

-- ==== sending

/-- The loop of `send_to_agent`, up to the next `send_text`. -/
def sendNext (s : ConnectionManager) :
    List ConnectionId → ConnectionManager
  | [] => s
  | id :: rest =>
    if (s.heap id).authenticated then s.spawn (.sending id rest)
    else sendNext s rest

/-- `send_to_agent`; a set is iterated in some order. -/
def sendToAgent (s : ConnectionManager) (agentId : String)
    (order : List ConnectionId) : Option ConnectionManager :=
  let ids := (s.agentConnections.get? agentId).getD ∅
  if order.Nodup ∧ order.toFinset = ids then
    some (s.sendNext (order.filter (· ∈ s.connections)))
  else none

/-- The loop of `broadcast_to_spectators`, up to the next `send_text`;
after it a task is made for every connection that failed. -/
def broadcastNext (s : ConnectionManager) (failed : List ConnectionId) :
    List ConnectionId → ConnectionManager
  | [] => { s with tasks := s.tasks ++ failed.map .handleDisconnect }
  | id :: rest => s.spawn (.broadcasting id rest failed)

def broadcastToSpectators (s : ConnectionManager) (gameId : String)
    (order : List ConnectionId) : Option ConnectionManager :=
  let ids := (s.spectatorConnections.get? gameId).getD ∅
  if order.Nodup ∧ order.toFinset = ids then
    some (s.broadcastNext [] (order.filter (· ∈ s.connections)))
  else none

/-- `update_agent_auth`; an empty game id and the port 0 are falsy. -/
def updateAgentAuth (s : ConnectionManager) (agentId : String)
    (playerId : Int) (gameId : Option String) (civserverPort : Option Int) :
    ConnectionManager :=
  let ids := (s.agentConnections.get? agentId).getD ∅
  { s with heap := fun id =>
      if id ∈ ids ∧ id ∈ s.connections then
        { s.heap id with
          playerId := some playerId, authenticated := true
          gameId := if gameId.any (· != "") then gameId
            else (s.heap id).gameId
          civserverPort := if civserverPort.any (· != 0) then civserverPort
            else (s.heap id).civserverPort }
      else s.heap id }

-- ==== resumption

/-- A waiting coroutine runs on; `ok` says whether its socket call
succeeded. An error of `close()` is only logged. -/
def resume (cfg : Settings) (s : ConnectionManager) (ok : Bool)
    (now : Int) : Task → ConnectionManager
  | .handleDisconnect id => s.handleDisconnect id now
  | .closing id =>
    match s.delConnection id with
    | .ok s' => s'
    | .error e => s.raise e
  | .closingExpired id rest =>
    match s.delConnection id with
    | .ok s' => s'.removeExpired cfg now rest
    | .error e => s.raise e
  | .heartbeat it id =>
    if ok then
      let s := s.modifyInfo id fun i => { i with lastSeen := now }
      s.afterScan cfg now
        (s.scan cfg now it.size it.left it.place it.expiredConnections)
    else
      s.afterScan cfg now (s.scan cfg now it.size it.left it.place
        (it.expiredConnections ++ [id]))
  | .sending id rest =>
    if ok then s else (s.spawn (.handleDisconnect id)).sendNext rest
  | .broadcasting id rest failed =>
    if ok then
      (s.modifyInfo id fun i => { i with lastSeen := now }).broadcastNext
        failed rest
    else s.broadcastNext (failed ++ [id]) rest

end ConnectionManager

/-- An operation starts, or a waiting coroutine resumes. -/
inductive Act where
  | addConnection (connectionType : ConnectionType) (identifier : String)
      (now : Int)
  | removeConnection (id : ConnectionId)
  | handleDisconnect (id : ConnectionId) (now : Int)
  | updateAgentAuth (agentId : String) (playerId : Int)
      (gameId : Option String) (civserverPort : Option Int)
  | sendToAgent (agentId : String) (order : List ConnectionId)
  | broadcastToSpectators (gameId : String) (order : List ConnectionId)
  | maintainConnections (now : Int)
  | resume (i : Nat) (ok : Bool) (now : Int)

def ConnectionManager.apply (cfg : Settings) (s : ConnectionManager) :
    Act → Option ConnectionManager
  | .addConnection t identifier now =>
    some (s.addConnection cfg t identifier now)
  | .removeConnection id => some (s.removeConnection id)
  | .handleDisconnect id now => some (s.handleDisconnect id now)
  | .updateAgentAuth agentId playerId gameId civserverPort =>
    some (s.updateAgentAuth agentId playerId gameId civserverPort)
  | .sendToAgent agentId order => s.sendToAgent agentId order
  | .broadcastToSpectators gameId order =>
    s.broadcastToSpectators gameId order
  | .maintainConnections now => some (s.maintainConnections cfg now)
  | .resume i ok now =>
    s.tasks[i]?.map fun t =>
      { s with tasks := s.tasks.eraseIdx i }.resume cfg ok now t

/-- The gateway's connection manager from its construction on. -/
def gateway (cfg : Settings) : Lts ConnectionManager Act where
  init s := ∃ heap, s = .init heap
  step := ConnectionManager.apply cfg

end Freeciv3d.Gateway
