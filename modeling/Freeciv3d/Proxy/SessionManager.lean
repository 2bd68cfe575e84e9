/-
`InMemorySessionManager`: agent sessions by session id, and the session
of each agent. A session outlives its connection while it is suspended.

A session id is drawn at random for every session, so an id names one
`SessionInfo` object and the tables hold the objects themselves. Times
are in seconds; token hashing is a comparison the caller supplies.
-/
import Freeciv3d.Lib.Dict
import Freeciv3d.Proxy.CivCom

namespace Freeciv3d.Proxy

open Lib

inductive SessionState where
  | active | expired | terminated | suspended
  deriving DecidableEq

structure SessionInfo where
  sessionId : String
  agentId : AgentId
  apiTokenHash : String
  createdAt : Int
  lastActivity : Int
  expiresAt : Int
  playerId : Option Int
  civserverPort : Option Int
  gameId : Option GameId
  connectionCount : Nat
  state : SessionState
  resumeAttempts : Nat
  lastResumeAttempt : Int
  deriving DecidableEq

/-- `InMemorySessionManager`: its tables. -/
structure SessionTables where
  sessions : Dict String SessionInfo
  agentToSession : Dict AgentId String

namespace SessionTables

/-- The default of `SESSION_SUSPENSION_TIMEOUT_SECS` in the session
manager. -/
def suspensionTimeoutSecs : Int := 86400

def maxResumeAttempts : Nat := 5

/-- `suspend_session`: accepts an active and a suspended session. -/
def suspendSession (t : SessionTables) (sessionId : String) (now : Int) :
    SessionTables × Bool :=
  match t.sessions.get? sessionId with
  | none => (t, false)
  | some s =>
    if s.state = .active ∨ s.state = .suspended then
      ({ t with
         sessions := t.sessions.set sessionId
           { s with state := .suspended
                    expiresAt := now + suspensionTimeoutSecs } }, true)
    else (t, false)

def terminateSession (t : SessionTables) (sessionId : String) :
    SessionTables :=
  match t.sessions.get? sessionId with
  | none => t
  | some s =>
    { sessions := t.sessions.erase sessionId
      agentToSession := t.agentToSession.erase s.agentId }

/-- `max_concurrent_sessions`, unless configured. -/
def maxConcurrentSessions : Nat := 100

/-- `session_timeout`, unless configured. -/
def sessionTimeout : Int := 3600

/-- `create_session`, with the id and the token's hash drawn: the
agent's old session is terminated first. -/
def createSession (t : SessionTables) (agentId : AgentId)
    (gameId : Option GameId) (sessionId apiTokenHash : String)
    (now : Int) : SessionTables × Option SessionInfo :=
  if maxConcurrentSessions ≤ t.sessions.size then (t, none)
  else
    let t := match t.agentToSession.get? agentId with
      | some old => t.terminateSession old
      | none => t
    let s : SessionInfo :=
      { sessionId := sessionId
        agentId := agentId
        apiTokenHash := apiTokenHash
        createdAt := now
        lastActivity := now
        expiresAt := now + sessionTimeout
        playerId := none
        civserverPort := none
        gameId := gameId
        connectionCount := 0
        state := .active
        resumeAttempts := 0
        lastResumeAttempt := 0 }
    ({ sessions := t.sessions.set sessionId s
       agentToSession := t.agentToSession.set agentId sessionId }, some s)

/-- `validate_session`, without a token: an active session that has not
expired is valid; one that has becomes EXPIRED. -/
def validateSession (t : SessionTables) (sessionId : String) (now : Int) :
    SessionTables × Bool :=
  match t.sessions.get? sessionId with
  | none => (t, false)
  | some s =>
    if s.state ≠ .active then (t, false)
    else if s.expiresAt < now then
      ({ t with
         sessions := t.sessions.set sessionId { s with state := .expired } },
        false)
    else
      ({ t with
         sessions := t.sessions.set sessionId
           { s with lastActivity := now } }, true)

/-- A session `cleanup_expired_sessions` removes. -/
def isGone (s : SessionInfo) (now : Int) : Bool :=
  s.state == .expired || s.state == .terminated || s.expiresAt < now

/-- `cleanup_expired_sessions`, when it is due. -/
def cleanupExpiredSessions (t : SessionTables) (now : Int) :
    SessionTables where
  sessions := t.sessions.filter fun _ s => !isGone s now
  agentToSession := t.agentToSession.filter fun agentId _ =>
    !t.sessions.values.any fun s => isGone s now && s.agentId == agentId

/-- `try_resume_session_for_agent`: the checks in their order; a failed
attempt is counted. -/
def tryResumeSessionForAgent (t : SessionTables) (agentId : AgentId)
    (gameId : Option GameId) (tokenMatches : String → Bool) (now : Int) :
    SessionTables × Option SessionInfo :=
  match t.agentToSession.get? agentId with
  | none => (t, none)
  | some sessionId =>
    match t.sessions.get? sessionId with
    | none =>
      ({ t with agentToSession := t.agentToSession.erase agentId }, none)
    | some s =>
      if gameId.any (fun g => g != "" && s.gameId != some g) then (t, none)
      else if s.state ≠ .suspended then (t, none)
      else if s.expiresAt < now then
        ({ t with
           sessions := t.sessions.set sessionId { s with state := .expired } },
          none)
      else
        let s := { s with resumeAttempts := s.resumeAttempts + 1
                          lastResumeAttempt := now }
        if maxResumeAttempts < s.resumeAttempts
            || !tokenMatches s.apiTokenHash then
          ({ t with sessions := t.sessions.set sessionId s }, none)
        else
          let s := { s with
            state := .active
            lastActivity := now
            connectionCount := s.connectionCount + 1
            resumeAttempts := 0 }
          ({ t with sessions := t.sessions.set sessionId s }, some s)

end SessionTables

end Freeciv3d.Proxy
