/-
`MySQLSessionManager`: the statements it issues on the table
`agent_sessions`, one call at a time, and concurrent calls of
`try_resume_session_for_agent`.

# The table

A row is the `SessionInfo` that `_row_to_session_info` makes of it;
`last_resume_attempt` is no column and stays 0. Texts are compared by
the collation of the column: two are equal when their weights
(`collate`) are, in a `WHERE` as in the primary key. A text that is
longer than its column is an error. A TIMESTAMP holds whole seconds, so
the clock counts seconds here.

# A call is a transaction

An exception before the commit is rolled back when the connection goes
back to its pool, and the call returns `None`. `rowcount` is the number
of rows an `UPDATE` changed; a row it changes also gets a new
`last_activity`.

# What a statement sees

The `SELECT` locks nothing: it answers from what is committed. An
`UPDATE` works on the committed row too, not on what the transaction
read before, and locks it until the commit; a second one that wants the
row waits, or gives up when its wait times out. Nothing a transaction
changes is seen before it commits. A call locks its one row only, so no
two wait for each other.

# The steps

One step is one statement with the Python that follows it. The token is
checked between the two `UPDATE`s, under the lock; when the call is not
let through, the commit is the same step. `suspend_session` is a
transaction of one statement.
-/
import Freeciv3d.Lib.Sql
import Freeciv3d.Proxy.InMemorySessions

namespace Freeciv3d.Proxy

open Lib

/-- `MySQLSessionManager`, with its table. -/
structure MySQLSessionManager where
  rows : List SessionInfo
  lastCleanup : Int

/-- The VARCHAR columns of a row can hold its texts. -/
def SessionInfo.fits (s : SessionInfo) : Bool :=
  s.sessionId.length ≤ 64 && s.agentId.length ≤ 64
    && s.gameId.all (fun g => g.length ≤ 64)
    && s.apiTokenHash.length ≤ 256

namespace MySQLSessionManager

variable (collate : String → String) (m : MySQLSessionManager)

/-- `session_id = %s`. -/
def hasId (sessionId : String) (s : SessionInfo) : Bool :=
  collate s.sessionId == collate sessionId

/-- `agent_id = %s`. -/
def hasAgent (agentId : AgentId) (s : SessionInfo) : Bool :=
  collate s.agentId == collate agentId

/-- `game_id = %s`, when a game id is asked for; NULL equals nothing. -/
def hasGame (gameId : Option GameId) (s : SessionInfo) : Bool :=
  match gameId.filter (· ≠ "") with
  | none => true
  | some g => s.gameId.any fun g' => collate g' == collate g

def isActive (s : SessionInfo) : Bool := s.state == .active

/-- `SELECT COUNT(*) … WHERE state = 'active'`. -/
def activeCount : Nat := Sql.count m.rows isActive

/-- `ON UPDATE CURRENT_TIMESTAMP` of `last_activity`. -/
def stamped (now : Int) (f : SessionInfo → SessionInfo)
    (s : SessionInfo) : SessionInfo :=
  if f s = s then s else { f s with lastActivity := now }

def update (p : SessionInfo → Bool) (f : SessionInfo → SessionInfo)
    (now : Int) : MySQLSessionManager :=
  { m with rows := Sql.update m.rows p (stamped now f) }

def setState (state : SessionState) (s : SessionInfo) : SessionInfo :=
  { s with state := state }

def createSession (l : SessionLimits) (agentId : AgentId)
    (gameId : Option GameId) (sessionId : String)
    (apiTokenHash : Option String) (now : Int) :
    MySQLSessionManager × Option SessionInfo :=
  if l.maxConcurrentSessions ≤ m.activeCount then (m, none)
  else
    let terminated := m.update
      (fun s => hasAgent collate agentId s && s.isLive)
      (setState .terminated) now
    match apiTokenHash with
    | none => (m, none)
    | some hash =>
      let s := SessionInfo.create l agentId gameId sessionId hash now
      if !s.fits then (m, none)
      else match Sql.insert (collate ·.sessionId) terminated.rows s with
        | none => (m, none)
        | some rows => ({ m with rows := rows }, some s)

def validateSession (verifyToken : String → String → Bool)
    (sessionId : String) (apiToken : Option String) (now : Int) :
    MySQLSessionManager × Option SessionInfo :=
  match m.rows.find? (hasId collate sessionId) with
  | none => (m, none)
  | some s =>
    if s.state ≠ .active then (m, none)
    else if s.expiresAt < now then
      (m.update (hasId collate sessionId) (setState .expired) now, none)
    else if apiToken.any fun t => t != "" && !verifyToken t s.apiTokenHash
    then (m, none)
    else
      (m.update (hasId collate sessionId)
        (fun s => { s with lastActivity := now }) now, some s)

def updateSessionActivity (sessionId : String) (now : Int) :
    MySQLSessionManager × Bool :=
  let p := fun s => hasId collate sessionId s && isActive s
  let f := fun s : SessionInfo => { s with lastActivity := now }
  (m.update p f now, decide (0 < Sql.affected m.rows p f))

def extendSession (l : SessionLimits) (sessionId : String)
    (extensionSeconds : Option Int) (now : Int) :
    MySQLSessionManager × Bool :=
  let p := fun s => hasId collate sessionId s && isActive s
  let f := fun s : SessionInfo => { s with
    expiresAt := max s.expiresAt now + l.extension extensionSeconds }
  (m.update p f now, decide (0 < Sql.affected m.rows p f))

def terminateSession (sessionId : String) (now : Int) :
    MySQLSessionManager × Bool :=
  match m.rows.find? (hasId collate sessionId) with
  | none => (m, false)
  | some _ =>
    (m.update (hasId collate sessionId) (setState .terminated) now, true)

def terminateAgentSession (agentId : AgentId) (now : Int) :
    MySQLSessionManager × Bool :=
  let p := fun s => hasAgent collate agentId s && s.isLive
  (m.update p (setState .terminated) now,
    decide (0 < Sql.affected m.rows p (setState .terminated)))

def getSessionByAgent (agentId : AgentId) : Option SessionInfo :=
  Sql.latest SessionInfo.createdAt m.rows
    fun s => hasAgent collate agentId s && s.isLive

def suspendSession (l : SessionLimits) (sessionId : String) (now : Int) :
    MySQLSessionManager × Bool :=
  let p := fun s => hasId collate sessionId s && s.isLive
  let f := fun s : SessionInfo => { s with
    state := .suspended
    expiresAt := now + l.suspensionTimeoutSecs }
  (m.update p f now, decide (0 < Sql.affected m.rows p f))

def resumeSession (sessionId : String) (now : Int) :
    MySQLSessionManager × Bool :=
  match m.rows.find? fun s =>
      hasId collate sessionId s && s.state == .suspended with
  | none => (m, false)
  | some s =>
    if s.expiresAt < now then
      (m.update (hasId collate sessionId) (setState .expired) now, false)
    else
      (m.update (hasId collate sessionId)
        (fun s => { s with state := .active, lastActivity := now }) now,
        true)

/-- The suspended session `try_resume_session_for_agent` selects. -/
def resumable (agentId : AgentId) (gameId : Option GameId) (now : Int) :
    Option SessionInfo :=
  Sql.latest SessionInfo.createdAt m.rows fun s =>
    hasAgent collate agentId s && hasGame collate gameId s
      && s.state == .suspended && decide (now < s.expiresAt)

def tryResumeSessionForAgent (l : SessionLimits)
    (verifyToken : String → String → Bool) (agentId : AgentId)
    (apiToken : String) (gameId : Option GameId) (now : Int) :
    MySQLSessionManager × Option SessionInfo :=
  match m.resumable collate agentId gameId now with
  | none => (m, none)
  | some row =>
    let newAttempts := row.resumeAttempts + 1
    let counted := m.update (hasId collate row.sessionId)
      (fun s => { s with resumeAttempts := newAttempts }) now
    if l.maxResumeAttempts < newAttempts
        || !verifyToken apiToken row.apiTokenHash then
      (counted, none)
    else
      let newConnectionCount := row.connectionCount + 1
      (counted.update (hasId collate row.sessionId)
        (fun s => { s with
          state := .active
          lastActivity := now
          connectionCount := newConnectionCount
          resumeAttempts := 0 }) now,
        some { row with
          state := .active
          connectionCount := newConnectionCount
          resumeAttempts := 0 })

def cleanupExpiredSessions (l : SessionLimits) (now : Int) :
    MySQLSessionManager :=
  if now - m.lastCleanup < l.cleanupInterval then m
  else
    { rows := Sql.delete m.rows fun s => SessionTables.isGone s now
      lastCleanup := now }

end MySQLSessionManager

/-- The backend of `MySQLSessionManager`. -/
def mysqlBackend (l : SessionLimits) (verifyToken : String → String → Bool)
    (collate : String → String) :
    SessionManagerBackend MySQLSessionManager where
  start _ := { rows := [], lastCleanup := 0 }
  call m now
    | .createSession agentId gameId sessionId hash =>
      let (m, s) := m.createSession collate l agentId gameId sessionId
        hash now
      (m, s.isSome)
    | .validateSession sessionId apiToken =>
      let (m, s) := m.validateSession collate verifyToken sessionId
        apiToken now
      (m, s.isSome)
    | .updateSessionActivity sessionId =>
      m.updateSessionActivity collate sessionId now
    | .extendSession sessionId seconds =>
      m.extendSession collate l sessionId seconds now
    | .terminateSession sessionId => m.terminateSession collate sessionId now
    | .terminateAgentSession agentId =>
      m.terminateAgentSession collate agentId now
    | .getSessionByAgent agentId =>
      (m, (m.getSessionByAgent collate agentId).isSome)
    | .suspendSession sessionId => m.suspendSession collate l sessionId now
    | .resumeSession sessionId => m.resumeSession collate sessionId now
    | .tryResumeSessionForAgent agentId apiToken gameId =>
      let (m, s) := m.tryResumeSessionForAgent collate l verifyToken
        agentId apiToken gameId now
      (m, s.isSome)
    | .cleanupExpiredSessions => (m.cleanupExpiredSessions l now, true)

-- ==== transactions that resume

inductive ResumePhase where
  | begun
  /-- The row the `SELECT` has found. -/
  | selected (row : SessionInfo)
  | counted (row work : SessionInfo)
  | granted (row work : SessionInfo)
  | returned (session : Option SessionInfo)

/-- The session whose row the transaction has locked. -/
def ResumePhase.locks : ResumePhase → Option String
  | .counted row _ | .granted row _ => some row.sessionId
  | _ => none

structure ResumeCall where
  agentId : AgentId
  apiToken : String
  gameId : Option GameId
  phase : ResumePhase

/-- What has happened to a session: the calls that returned it since it
was suspended; the tokens checked against it, and the wrong ones, since
it was last resumed. -/
structure ResumeTally where
  returned : Nat
  checked : Nat
  wrong : Nat

def ResumeTally.zero : ResumeTally := ⟨0, 0, 0⟩

/-- The committed table, the time, the calls and the tallies. -/
structure ResumeRun where
  db : MySQLSessionManager
  now : Int
  calls : List ResumeCall
  tally : String → ResumeTally

namespace ResumeRun

def isLocked (s : ResumeRun) (sessionId : String) : Bool :=
  s.calls.any fun c => c.phase.locks == some sessionId

/-- Call `i` goes on. -/
def goto (s : ResumeRun) (i : Nat) (c : ResumeCall) (p : ResumePhase) :
    ResumeRun :=
  { s with calls := s.calls.set i { c with phase := p } }

def tallied (s : ResumeRun) (sessionId : String)
    (f : ResumeTally → ResumeTally) : ResumeRun :=
  { s with
    tally := Function.update s.tally sessionId (f (s.tally sessionId)) }

variable (collate : String → String)

/-- The row under the lock, after the first `UPDATE`. -/
def countedRow (s : ResumeRun) (row : SessionInfo) : SessionInfo :=
  MySQLSessionManager.stamped s.now
    (fun r => { r with resumeAttempts := row.resumeAttempts + 1 })
    ((s.db.rows.find?
      (MySQLSessionManager.hasId collate row.sessionId)).getD row)

/-- The row under the lock, after the second `UPDATE`. -/
def activeRow (s : ResumeRun) (row work : SessionInfo) : SessionInfo :=
  MySQLSessionManager.stamped s.now
    (fun r => { r with
      state := .active
      lastActivity := s.now
      connectionCount := row.connectionCount + 1
      resumeAttempts := 0 })
    work

def commit (s : ResumeRun) (work : SessionInfo) : ResumeRun :=
  { s with db := { s.db with
      rows := Sql.update s.db.rows
        (MySQLSessionManager.hasId collate work.sessionId)
        fun _ => work } }

variable (l : SessionLimits) (verifyToken : String → String → Bool)

/-- The next statement of call `i`. -/
def statement (s : ResumeRun) (i : Nat) : Option ResumeRun := do
  let c ← s.calls[i]?
  match c.phase with
  | .begun =>
    match s.db.resumable collate c.agentId c.gameId s.now with
    | none => some (s.goto i c (.returned none))
    | some row => some (s.goto i c (.selected row))
  | .selected row =>
    if s.isLocked row.sessionId then none
    else some (s.goto i c (.counted row (s.countedRow collate row)))
  | .counted row work =>
    if l.maxResumeAttempts < row.resumeAttempts + 1 then
      some ((s.commit collate work).goto i c (.returned none))
    else
      let s := s.tallied row.sessionId fun t =>
        { t with checked := t.checked + 1 }
      if verifyToken c.apiToken row.apiTokenHash then
        some (s.goto i c (.granted row (s.activeRow row work)))
      else
        let s := s.tallied row.sessionId fun t =>
          { t with wrong := t.wrong + 1 }
        some ((s.commit collate work).goto i c (.returned none))
  | .granted row work =>
    let s := s.tallied row.sessionId fun t =>
      { returned := t.returned + 1, checked := 0, wrong := 0 }
    some ((s.commit collate work).goto i c (.returned (some { row with
      state := .active
      connectionCount := row.connectionCount + 1
      resumeAttempts := 0 })))
  | .returned _ => none

/-- The wait of call `i` for a lock times out. -/
def timeout (s : ResumeRun) (i : Nat) : Option ResumeRun := do
  let c ← s.calls[i]?
  match c.phase with
  | .selected row =>
    if s.isLocked row.sessionId then some (s.goto i c (.returned none))
    else none
  | _ => none

/-- `suspend_session`; it waits for the lock. -/
def suspend (s : ResumeRun) (sessionId : String) : Option ResumeRun :=
  let db := (s.db.suspendSession collate l sessionId s.now).1
  match s.db.rows.find? (MySQLSessionManager.hasId collate sessionId) with
  | none => some { s with db := db }
  | some r =>
    if s.isLocked r.sessionId then none
    else
      let s := { s with db := db }
      if r.state = .active then
        some (s.tallied r.sessionId fun t => { t with returned := 0 })
      else some s

end ResumeRun

inductive ResumeAct where
  | tick (n : Nat)
  | call (agentId : AgentId) (apiToken : String) (gameId : Option GameId)
  | statement (i : Nat)
  | timeout (i : Nat)
  | suspend (sessionId : String)

def resumeTransactions (l : SessionLimits)
    (verifyToken : String → String → Bool) (collate : String → String) :
    Lts ResumeRun ResumeAct where
  init s :=
    (s.db.rows.map fun r => collate r.sessionId).Nodup
      ∧ s.calls = [] ∧ s.tally = fun _ => .zero
  step s
    | .tick n => some { s with now := s.now + n }
    | .call agentId apiToken gameId =>
      some { s with
        calls := s.calls ++ [⟨agentId, apiToken, gameId, .begun⟩] }
    | .statement i => s.statement collate l verifyToken i
    | .timeout i => s.timeout i
    | .suspend sessionId => s.suspend collate l sessionId

end Freeciv3d.Proxy
