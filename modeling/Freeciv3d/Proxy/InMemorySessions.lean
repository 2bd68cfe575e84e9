/-
`InMemorySessionManager` with its limits, as one of the backends of a
`SessionManager`, and the runs of a backend: calls one at a time, under
a clock that never goes back.

# Limits

The timeouts and the maximum are configured; `SessionTables` has the
operations under the defaults, and agrees with the ones here.

# What a call draws

`create_session` draws a session id, `sess_` and 32 digits of an HMAC
over a fresh uuid: no id comes twice, and none is empty. It also draws
the salt of the token's hash; that hashing raised is `none`. Checking a
token against a hash is a parameter.
-/
import Freeciv3d.Lib.Lts
import Freeciv3d.Proxy.SessionManager

namespace Freeciv3d.Proxy

open Lib

structure SessionLimits where
  sessionTimeout : Int
  maxConcurrentSessions : Nat
  cleanupInterval : Int
  suspensionTimeoutSecs : Int
  maxResumeAttempts : Nat

def SessionLimits.default : SessionLimits where
  sessionTimeout := SessionTables.sessionTimeout
  maxConcurrentSessions := SessionTables.maxConcurrentSessions
  cleanupInterval := 300
  suspensionTimeoutSecs := SessionTables.suspensionTimeoutSecs
  maxResumeAttempts := SessionTables.maxResumeAttempts

def SessionInfo.create (l : SessionLimits) (agentId : AgentId)
    (gameId : Option GameId) (sessionId apiTokenHash : String) (now : Int) :
    SessionInfo where
  sessionId := sessionId
  agentId := agentId
  apiTokenHash := apiTokenHash
  createdAt := now
  lastActivity := now
  expiresAt := now + l.sessionTimeout
  playerId := none
  civserverPort := none
  gameId := gameId
  connectionCount := 0
  state := .active
  resumeAttempts := 0
  lastResumeAttempt := 0

/-- A session that can be used again: active or suspended. -/
def SessionInfo.isLive (s : SessionInfo) : Bool :=
  s.state == .active || s.state == .suspended

/-- `if game_id` lets every session through without one. -/
def SessionInfo.matchesGame (s : SessionInfo) (gameId : Option GameId) :
    Bool :=
  !gameId.any fun g => g != "" && s.gameId != some g

def SessionLimits.extension (l : SessionLimits)
    (extensionSeconds : Option Int) : Int :=
  match extensionSeconds.filter (· ≠ 0) with
  | some n => n
  | none => l.sessionTimeout

-- ==== the operations

structure InMemorySessionManager extends SessionTables where
  lastCleanup : Int

namespace InMemorySessionManager

def terminateSession (m : InMemorySessionManager) (sessionId : String) :
    InMemorySessionManager × Bool :=
  ({ m with
     toSessionTables := m.toSessionTables.terminateSession sessionId },
    m.sessions.contains sessionId)

def terminateAgentSession (m : InMemorySessionManager) (agentId : AgentId) :
    InMemorySessionManager × Bool :=
  match m.agentToSession.get? agentId with
  | some sessionId => m.terminateSession sessionId
  | none => (m, false)

/-- `create_session`: when hashing raises, the agent's old session is
terminated already. -/
def createSession (l : SessionLimits) (m : InMemorySessionManager)
    (agentId : AgentId) (gameId : Option GameId) (sessionId : String)
    (apiTokenHash : Option String) (now : Int) :
    InMemorySessionManager × Option SessionInfo :=
  if l.maxConcurrentSessions ≤ m.sessions.size then (m, none)
  else
    let m := (m.terminateAgentSession agentId).1
    match apiTokenHash with
    | none => (m, none)
    | some hash =>
      let s := SessionInfo.create l agentId gameId sessionId hash now
      ({ m with
         sessions := m.sessions.set sessionId s
         agentToSession := m.agentToSession.set agentId sessionId },
        some s)

/-- A session is replaced by what has become of it. -/
def put (m : InMemorySessionManager) (sessionId : String)
    (s : SessionInfo) : InMemorySessionManager :=
  { m with sessions := m.sessions.set sessionId s }

def validateSession (verifyToken : String → String → Bool)
    (m : InMemorySessionManager) (sessionId : String)
    (apiToken : Option String) (now : Int) :
    InMemorySessionManager × Option SessionInfo :=
  match m.sessions.get? sessionId with
  | none => (m, none)
  | some s =>
    if s.state ≠ .active then (m, none)
    else if s.expiresAt < now then
      (m.put sessionId { s with state := .expired }, none)
    else if apiToken.any fun t => t != "" && !verifyToken t s.apiTokenHash
    then (m, none)
    else
      let s := { s with lastActivity := now }
      (m.put sessionId s, some s)

def updateSessionActivity (m : InMemorySessionManager)
    (sessionId : String) (now : Int) : InMemorySessionManager × Bool :=
  match m.sessions.get? sessionId with
  | none => (m, false)
  | some s =>
    if s.state = .active then
      (m.put sessionId { s with lastActivity := now }, true)
    else (m, false)

def extendSession (l : SessionLimits) (m : InMemorySessionManager)
    (sessionId : String) (extensionSeconds : Option Int) (now : Int) :
    InMemorySessionManager × Bool :=
  match m.sessions.get? sessionId with
  | none => (m, false)
  | some s =>
    if s.state = .active then
      (m.put sessionId { s with
        expiresAt := max s.expiresAt now + l.extension extensionSeconds },
        true)
    else (m, false)

def getSessionByAgent (m : InMemorySessionManager) (agentId : AgentId) :
    Option SessionInfo :=
  (m.agentToSession.get? agentId).bind m.sessions.get?

def cleanupExpiredSessions (l : SessionLimits)
    (m : InMemorySessionManager) (now : Int) : InMemorySessionManager :=
  if now - m.lastCleanup < l.cleanupInterval then m
  else
    { toSessionTables := m.toSessionTables.cleanupExpiredSessions now
      lastCleanup := now }

def suspendSession (l : SessionLimits) (m : InMemorySessionManager)
    (sessionId : String) (now : Int) : InMemorySessionManager × Bool :=
  match m.sessions.get? sessionId with
  | none => (m, false)
  | some s =>
    if s.isLive then
      (m.put sessionId { s with
        state := .suspended
        expiresAt := now + l.suspensionTimeoutSecs }, true)
    else (m, false)

def resumeSession (m : InMemorySessionManager) (sessionId : String)
    (now : Int) : InMemorySessionManager × Bool :=
  match m.sessions.get? sessionId with
  | none => (m, false)
  | some s =>
    if s.state = .suspended then
      if now ≤ s.expiresAt then
        (m.put sessionId { s with state := .active, lastActivity := now },
          true)
      else (m.put sessionId { s with state := .expired }, false)
    else (m, false)

def tryResumeSessionForAgent (l : SessionLimits)
    (verifyToken : String → String → Bool) (m : InMemorySessionManager)
    (agentId : AgentId) (apiToken : String) (gameId : Option GameId)
    (now : Int) : InMemorySessionManager × Option SessionInfo :=
  match m.agentToSession.get? agentId with
  | none => (m, none)
  | some sessionId =>
    match m.sessions.get? sessionId with
    | none =>
      ({ m with agentToSession := m.agentToSession.erase agentId }, none)
    | some s =>
      if !s.matchesGame gameId then (m, none)
      else if s.state ≠ .suspended then (m, none)
      else if s.expiresAt < now then
        (m.put sessionId { s with state := .expired }, none)
      else
        let s := { s with resumeAttempts := s.resumeAttempts + 1
                          lastResumeAttempt := now }
        if l.maxResumeAttempts < s.resumeAttempts
            || !verifyToken apiToken s.apiTokenHash then
          (m.put sessionId s, none)
        else
          let s := { s with
            state := .active
            lastActivity := now
            connectionCount := s.connectionCount + 1
            resumeAttempts := 0 }
          (m.put sessionId s, some s)

-- ==== under the defaults

variable (m : InMemorySessionManager) (sessionId : String)
  (agentId : AgentId) (gameId : Option GameId) (now : Int)

end InMemorySessionManager

-- ==== the backends

inductive SessionCall where
  | createSession (agentId : AgentId) (gameId : Option GameId)
      (sessionId : String) (apiTokenHash : Option String)
  | validateSession (sessionId : String) (apiToken : Option String)
  | updateSessionActivity (sessionId : String)
  | extendSession (sessionId : String) (extensionSeconds : Option Int)
  | terminateSession (sessionId : String)
  | terminateAgentSession (agentId : AgentId)
  | getSessionByAgent (agentId : AgentId)
  | suspendSession (sessionId : String)
  | resumeSession (sessionId : String)
  | tryResumeSessionForAgent (agentId : AgentId) (apiToken : String)
      (gameId : Option GameId)
  | cleanupExpiredSessions

/-- `SessionManagerBackend`: the manager when it is made, and what a call
makes of it, with whether the call succeeds (returns a session, or
`True`; a clean-up always does). -/
structure SessionManagerBackend (μ : Type) where
  start : Int → μ
  call : μ → Int → SessionCall → μ × Bool

def inMemoryBackend (l : SessionLimits)
    (verifyToken : String → String → Bool) :
    SessionManagerBackend InMemorySessionManager where
  start now :=
    { sessions := ∅, agentToSession := ∅, lastCleanup := now }
  call m now
    | .createSession agentId gameId sessionId hash =>
      let (m, s) := m.createSession l agentId gameId sessionId hash now
      (m, s.isSome)
    | .validateSession sessionId apiToken =>
      let (m, s) := m.validateSession verifyToken sessionId apiToken now
      (m, s.isSome)
    | .updateSessionActivity sessionId =>
      m.updateSessionActivity sessionId now
    | .extendSession sessionId seconds =>
      m.extendSession l sessionId seconds now
    | .terminateSession sessionId => m.terminateSession sessionId
    | .terminateAgentSession agentId => m.terminateAgentSession agentId
    | .getSessionByAgent agentId => (m, (m.getSessionByAgent agentId).isSome)
    | .suspendSession sessionId => m.suspendSession l sessionId now
    | .resumeSession sessionId => m.resumeSession sessionId now
    | .tryResumeSessionForAgent agentId apiToken gameId =>
      let (m, s) := m.tryResumeSessionForAgent l verifyToken agentId
        apiToken gameId now
      (m, s.isSome)
    | .cleanupExpiredSessions => (m.cleanupExpiredSessions l now, true)

-- ==== the runs

/-- A backend, the time, and the session ids drawn so far. -/
structure BackendRun (μ : Type) where
  backend : μ
  now : Int
  issued : List String

inductive BackendAct where
  | tick (n : Nat)
  | call (c : SessionCall)

def SessionCall.drawn : SessionCall → List String
  | .createSession _ _ sessionId _ => [sessionId]
  | _ => []

def SessionManagerBackend.runs {μ : Type} (b : SessionManagerBackend μ) :
    Lts (BackendRun μ) BackendAct where
  init s := s.backend = b.start s.now ∧ s.issued = []
  step s
    | .tick n => some { s with now := s.now + n }
    | .call c =>
      if c.drawn.any s.issued.contains then none
      else some { s with
        backend := (b.call s.backend s.now c).1
        issued := c.drawn ++ s.issued }

end Freeciv3d.Proxy
