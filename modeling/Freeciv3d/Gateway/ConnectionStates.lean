/-
`ConnectionStateManager` of the LLM gateway: the proxy connection of
every game, its health checks and clean-up rounds, and the slots of the
`GlobalConnectionTracker` that all managers share.

# What interleaves

The locks of the tracker, and of a manager, are asked again and again,
but only a removal holds a lock across an await that suspends: the close
of the connection it has just taken out (`closing`). So a section under
the lock is one step that needs the lock to be free, and a removal is
two, before its close and after. A ping is two steps as well.

# What is observed

The rounds know the connections they deal with by the game alone. That a
game stands for a certain connection in their lists is recorded beside
it, as are the connections that failed a check or were reported, those a
health round marked and a clean-up closed, and the replacements that
were refused for want of room. Nothing reads these.

# What is left out

The statistics, `last_error`, and the loops that call the rounds. Which
waiter gets a free lock first is left open.
-/
import Freeciv3d.Lib.Dict
import Freeciv3d.Lib.Lts
import Mathlib.Algebra.Order.Field.Rat

namespace Freeciv3d.Gateway.ConnectionStates

open Lib

inductive ConnectionStatus where
  | connecting
  | connected
  | disconnected
  | failed
  | reconnecting
  deriving DecidableEq

/-- `ConnectionInfo`; the WebSocket is known by a number. -/
structure ConnectionInfo where
  connection : Nat
  status : ConnectionStatus
  lastUsed : Rat
  retryCount : Nat
  healthCheckFailures : Nat

/-- `_perform_health_checks`, between its snapshot and the marking. -/
structure HealthRound where
  snapshot : List (String × ConnectionInfo)
  pinging : Bool
  unhealthy : List (String × Nat)

/-- A removal that awaits the close of a connection. -/
structure Closing where
  connection : Nat
  games : List String

structure ConnectionStateManager where
  connections : Dict String ConnectionInfo
  maxConnections : Nat
  /-- Who holds `_connection_lock`. -/
  closing : Option Closing
  health : Option HealthRound
  /-- The candidates of a clean-up, with the connection collected. -/
  cleanup : Option (List (String × Nat))
  failed : List Nat
  marked : List Nat
  closed : List Nat

def maxHealthFailures : Nat := 3

def maxRetryCount : Nat := 3

def globalConnectionLimit : Nat := 200

namespace ConnectionStateManager

def new (maxConnections : Nat) : ConnectionStateManager where
  connections := ∅
  maxConnections := maxConnections
  closing := none
  health := none
  cleanup := none
  failed := []
  marked := []
  closed := []

def markConnectionUnhealthyUnsafe (m : ConnectionStateManager)
    (gameId : String) : ConnectionStateManager :=
  { m with connections := m.connections.modify gameId fun info =>
      { info with
        status := .failed
        healthCheckFailures := info.healthCheckFailures + 1 } }

def markConnectionFailed (m : ConnectionStateManager) (gameId : String) :
    ConnectionStateManager :=
  match m.connections.get? gameId with
  | none => m
  | some info =>
    { m with
      connections := m.connections.modify gameId fun info =>
        { info with status := .failed, retryCount := info.retryCount + 1 }
      failed := m.failed ++ [info.connection] }

/-- `get_connection`: the time of use, if the game is connected. -/
def getConnection (m : ConnectionStateManager) (gameId : String)
    (now : Rat) : ConnectionStateManager :=
  { m with connections := m.connections.modify gameId fun info =>
      if info.status = .connected then { info with lastUsed := now }
      else info }

/-- `is_connection_healthy`: a connected game with a closed WebSocket is
marked. -/
def isConnectionHealthy (m : ConnectionStateManager)
    (isClosed : Nat → Bool) (gameId : String) : ConnectionStateManager :=
  match m.connections.get? gameId with
  | none => m
  | some info =>
    if info.status = .connected ∧ isClosed info.connection = true then
      let failed := m.failed ++ [info.connection]
      { m.markConnectionUnhealthyUnsafe gameId with failed := failed }
    else m

def getHealthyConnection (m : ConnectionStateManager)
    (isClosed : Nat → Bool) (gameId : String) (now : Rat) :
    ConnectionStateManager :=
  (m.isConnectionHealthy isClosed gameId).getConnection gameId now

/-- `_remove_connection_unsafe` on some games, until a close suspends,
with the number of slots released. -/
def removeConnectionsUnsafe (isClosed : Nat → Bool)
    (m : ConnectionStateManager) : List String →
      ConnectionStateManager × Nat
  | [] => ({ m with closing := none }, 0)
  | gameId :: rest =>
    match m.connections.get? gameId with
    | none => removeConnectionsUnsafe isClosed m rest
    | some info =>
      let m := { m with connections := m.connections.erase gameId }
      if isClosed info.connection then
        let r := removeConnectionsUnsafe isClosed m rest
        (r.1, r.2 + 1)
      else ({ m with closing := some ⟨info.connection, rest⟩ }, 0)

-- ==== the rounds

/-- The snapshot of `_perform_health_checks`. -/
def takeSnapshot (m : ConnectionStateManager) : ConnectionStateManager :=
  { m with health := some ⟨m.connections.entries, false, []⟩ }

def failCheck (m : ConnectionStateManager) (r : HealthRound)
    (gameId : String) (info : ConnectionInfo)
    (rest : List (String × ConnectionInfo)) : ConnectionStateManager :=
  let unhealthy := r.unhealthy ++ [(gameId, info.connection)]
  { m with
    health := some ⟨rest, false, unhealthy⟩
    failed := m.failed ++ [info.connection] }

/-- The next check, until its ping: only a connected game is checked,
and a closed WebSocket has failed. -/
def checkNext (m : ConnectionStateManager) (isClosed : Nat → Bool)
    (r : HealthRound) (gameId : String) (info : ConnectionInfo)
    (rest : List (String × ConnectionInfo)) : ConnectionStateManager :=
  if info.status ≠ .connected then
    { m with health := some { r with snapshot := rest } }
  else if isClosed info.connection then m.failCheck r gameId info rest
  else { m with health := some { r with pinging := true } }

/-- The marking of one game at the end of the round. -/
def markOne (m : ConnectionStateManager) (gameId : String) :
    ConnectionStateManager :=
  match m.connections.get? gameId with
  | none => m
  | some info =>
    if info.status = .connected then
      let marked := m.marked ++ [info.connection]
      { m.markConnectionUnhealthyUnsafe gameId with marked := marked }
    else m

def markUnhealthy (m : ConnectionStateManager) (r : HealthRound) :
    ConnectionStateManager :=
  r.unhealthy.foldl (fun m u => m.markOne u.1) { m with health := none }

/-- What `_cleanup_failed_connections` looks for. -/
def isCandidate (info : ConnectionInfo) (now : Rat) : Bool :=
  decide (maxHealthFailures ≤ info.healthCheckFailures
    ∨ maxRetryCount ≤ info.retryCount
    ∨ (info.status = .failed ∨ info.status = .disconnected)
      ∧ 3600 < now - info.lastUsed)

/-- The collection of `_cleanup_failed_connections`. -/
def collect (m : ConnectionStateManager) (now : Rat) :
    ConnectionStateManager :=
  let candidates := m.connections.entries.filter fun e =>
    isCandidate e.2 now
  { m with cleanup := some (candidates.map fun e => (e.1, e.2.connection)) }

def removeCandidate (m : ConnectionStateManager) (isClosed : Nat → Bool)
    (gameId : String) (rest : List (String × Nat)) :
    ConnectionStateManager × Nat :=
  let r := removeConnectionsUnsafe isClosed { m with cleanup := some rest }
    [gameId]
  let opened := (m.connections.get? gameId).filter fun info =>
    !isClosed info.connection
  let closed := r.1.closed ++ (opened.map (·.connection)).toList
  ({ r.1 with closed := closed }, r.2)

end ConnectionStateManager

-- ==== the system

/-- A call of `add_connection` that has passed the global check and
waits for the lock. -/
structure Adding where
  manager : Nat
  gameId : String
  connection : Nat

/-- The tracker, the managers, the calls under way, and the WebSockets
that have a close code. -/
structure ProxyConnections where
  globalCount : Nat
  managers : List ConnectionStateManager
  adding : List Adding
  closedSockets : List Nat
  refused : List (Nat × String)

inductive ConnectionEvent where
  /-- A call of `add_connection` and its global check. -/
  | add (i : Nat) (gameId : String) (connection : Nat)
  /-- The call gets the lock; building the entry may raise. -/
  | addLocked (k : Nat) (now : Rat) (raises : Bool)
  | dropAdd (k : Nat)
  | remove (i : Nat) (gameId : String)
  | closeAll (i : Nat)
  /-- The close that a removal awaits returns or raises. -/
  | closeDone (i : Nat)
  /-- The task of a removal is cancelled while it awaits a close. -/
  | cancelClose (i : Nat)
  | markFailed (i : Nat) (gameId : String)
  | isHealthy (i : Nat) (gameId : String)
  | getHealthy (i : Nat) (gameId : String) (now : Rat)
  | get (i : Nat) (gameId : String) (now : Rat)
  | snapshot (i : Nat)
  | check (i : Nat)
  | pinged (i : Nat) (ok : Bool)
  | mark (i : Nat)
  | collect (i : Nat) (now : Rat)
  | removeCandidate (i : Nat)
  | cancelHealth (i : Nat)
  | cancelCleanup (i : Nat)
  | socketClosed (connection : Nat)

namespace ProxyConnections

/-- `close_code is not None`. -/
def isClosed (w : ProxyConnections) (connection : Nat) : Bool :=
  decide (connection ∈ w.closedSockets)

def put (w : ProxyConnections) (i : Nat)
    (r : ConnectionStateManager × Nat) : ProxyConnections :=
  { w with
    managers := w.managers.set i r.1
    globalCount := w.globalCount - r.2 }

def unlocked? (w : ProxyConnections) (i : Nat) :
    Option ConnectionStateManager :=
  w.managers[i]?.filter fun m => m.closing.isNone

def refuse (w : ProxyConnections) (i : Nat) (m : ConnectionStateManager)
    (gameId : String) : ProxyConnections :=
  if m.connections.contains gameId then
    { w with refused := w.refused ++ [(i, gameId)] }
  else w

/-- `add_connection` under the lock: the local capacity, the slot, and
then the replaced entry, whose slot is released. -/
def addConnection (w : ProxyConnections) (a : Adding)
    (m : ConnectionStateManager) (now : Rat) (raises : Bool) :
    ProxyConnections :=
  if m.maxConnections ≤ m.connections.size then
    w.refuse a.manager m a.gameId
  else if globalConnectionLimit ≤ w.globalCount then
    w.refuse a.manager m a.gameId
  else
    let replaced := if m.connections.contains a.gameId then 1 else 0
    let m := { m with connections := m.connections.erase a.gameId }
    let w := { w with globalCount := w.globalCount + 1 }
    if raises then w.put a.manager (m, replaced + 1)
    else
      let info : ConnectionInfo := ⟨a.connection, .connected, now, 0, 0⟩
      let connections := m.connections.set a.gameId info
      w.put a.manager ({ m with connections := connections }, replaced)

def step (w : ProxyConnections) : ConnectionEvent → Option ProxyConnections
  | .add i gameId connection =>
    w.managers[i]?.map fun m =>
      if globalConnectionLimit ≤ w.globalCount then w.refuse i m gameId
      else { w with adding := w.adding ++ [⟨i, gameId, connection⟩] }
  | .addLocked k now raises =>
    w.adding[k]?.bind fun a => (w.unlocked? a.manager).map fun m =>
      { w with adding := w.adding.eraseIdx k }.addConnection a m now raises
  | .dropAdd k =>
    w.adding[k]?.map fun _ => { w with adding := w.adding.eraseIdx k }
  | .remove i gameId =>
    (w.unlocked? i).map fun m =>
      w.put i (m.removeConnectionsUnsafe w.isClosed [gameId])
  | .closeAll i =>
    (w.unlocked? i).map fun m =>
      w.put i (m.removeConnectionsUnsafe w.isClosed m.connections.keys)
  | .closeDone i =>
    w.managers[i]?.bind fun m => m.closing.map fun c =>
      let r := m.removeConnectionsUnsafe w.isClosed c.games
      w.put i (r.1, r.2 + 1)
  | .cancelClose i =>
    w.managers[i]?.bind fun m => m.closing.map fun _ =>
      w.put i ({ m with closing := none }, 0)
  | .markFailed i gameId =>
    (w.unlocked? i).map fun m => w.put i (m.markConnectionFailed gameId, 0)
  | .isHealthy i gameId =>
    (w.unlocked? i).map fun m =>
      w.put i (m.isConnectionHealthy w.isClosed gameId, 0)
  | .getHealthy i gameId now =>
    (w.unlocked? i).map fun m =>
      w.put i (m.getHealthyConnection w.isClosed gameId now, 0)
  | .get i gameId now =>
    (w.unlocked? i).map fun m => w.put i (m.getConnection gameId now, 0)
  | .snapshot i =>
    ((w.unlocked? i).filter fun m => m.health.isNone).map fun m =>
      w.put i (m.takeSnapshot, 0)
  | .check i =>
    w.managers[i]?.bind fun m => m.health.bind fun r =>
      match r.pinging, r.snapshot with
      | false, (gameId, info) :: rest =>
        some (w.put i (m.checkNext w.isClosed r gameId info rest, 0))
      | _, _ => none
  | .pinged i ok =>
    w.managers[i]?.bind fun m => m.health.bind fun r =>
      match r.pinging, r.snapshot with
      | true, (gameId, info) :: rest =>
        if ok then
          let health := some ⟨rest, false, r.unhealthy⟩
          some (w.put i ({ m with health := health }, 0))
        else some (w.put i (m.failCheck r gameId info rest, 0))
      | _, _ => none
  | .mark i =>
    (w.unlocked? i).bind fun m =>
      (m.health.filter fun r => r.snapshot.isEmpty).map fun r =>
        w.put i (m.markUnhealthy r, 0)
  | .collect i now =>
    ((w.unlocked? i).filter fun m => m.cleanup.isNone).map fun m =>
      w.put i (m.collect now, 0)
  | .removeCandidate i =>
    (w.unlocked? i).bind fun m => m.cleanup.bind fun
      | [] => some (w.put i ({ m with cleanup := none }, 0))
      | (gameId, _) :: rest =>
        some (w.put i (m.removeCandidate w.isClosed gameId rest))
  | .cancelHealth i =>
    w.managers[i]?.map fun m => w.put i ({ m with health := none }, 0)
  | .cancelCleanup i =>
    w.managers[i]?.map fun m => w.put i ({ m with cleanup := none }, 0)
  | .socketClosed connection =>
    some { w with closedSockets := w.closedSockets ++ [connection] }

/-- Managers with their capacities, before any connection. -/
def start (capacities : List Nat) : ProxyConnections where
  globalCount := 0
  managers := capacities.map ConnectionStateManager.new
  adding := []
  closedSockets := []
  refused := []

def runs : Lts ProxyConnections ConnectionEvent where
  init w := ∃ capacities, w = start capacities
  step := step

-- ==== the properties

/-- What the rounds marked or closed had failed, or been reported. -/
def VerdictsHit (w : ProxyConnections) : Prop :=
  ∀ m ∈ w.managers, ∀ c ∈ m.marked ++ m.closed, c ∈ m.failed

/-- A round acts on the connection it has seen: the game was not given
another one in between. -/
def SameConnection (w : ProxyConnections) : ConnectionEvent → Prop
  | .mark i => ∀ m ∈ w.managers[i]?, ∀ r ∈ m.health, ∀ u ∈ r.unhealthy,
      ∀ info ∈ m.connections.get? u.1, info.status = .connected →
        info.connection = u.2
  | .removeCandidate i => ∀ m ∈ w.managers[i]?, ∀ l ∈ m.cleanup,
      ∀ c ∈ l.head?, ∀ info ∈ m.connections.get? c.1, info.connection = c.2
  | _ => True

instance : DecidablePred VerdictsHit := fun w => inferInstanceAs
  (Decidable (∀ m ∈ w.managers, ∀ c ∈ m.marked ++ m.closed, c ∈ m.failed))

instance (w : ProxyConnections) : DecidablePred w.SameConnection := by
  intro e
  unfold SameConnection
  split
  · infer_instance
  · infer_instance
  · infer_instance

/-- The slots of a manager: one for each connection it manages, and one
for the connection it is about to have removed. -/
def held (m : ConnectionStateManager) : Nat :=
  m.connections.size + if m.closing.isSome then 1 else 0

/-- The count is that of the slots, within the limit, and no game was
refused another connection. -/
structure Conserved (w : ProxyConnections) : Prop where
  count : w.globalCount = (w.managers.map held).sum
  limit : w.globalCount ≤ globalConnectionLimit
  accepted : w.refused = []

/-- No removal is cancelled while it awaits a close, and a game that has
a connection asks for another only while there is room for one more. -/
def HasRoom (w : ProxyConnections) : ConnectionEvent → Prop
  | .cancelClose _ => False
  | .add i gameId _ => ∀ m ∈ w.managers[i]?,
      m.connections.contains gameId = true →
        w.globalCount < globalConnectionLimit
  | .addLocked k _ _ => ∀ a ∈ w.adding[k]?, ∀ m ∈ w.managers[a.manager]?,
      m.connections.contains a.gameId = true →
        m.connections.size < m.maxConnections
          ∧ w.globalCount < globalConnectionLimit
  | _ => True

instance : DecidablePred Conserved := fun w =>
  decidable_of_iff (w.globalCount = (w.managers.map held).sum
      ∧ w.globalCount ≤ globalConnectionLimit ∧ w.refused = [])
    ⟨fun h => ⟨h.1, h.2.1, h.2.2⟩, fun h => ⟨h.1, h.2, h.3⟩⟩

instance (w : ProxyConnections) : DecidablePred w.HasRoom := by
  intro e
  unfold HasRoom
  split
  · infer_instance
  · infer_instance
  · infer_instance
  · infer_instance

end ProxyConnections

end Freeciv3d.Gateway.ConnectionStates
