/-
`RequestManager` of the LLM gateway: the table of pending requests,
their futures, and the tasks that send them and wait.

# What interleaves

`_lock` is never held across an await, so an operation on the table is
one step, the settling of the future after it included. A task is
suspended while its send runs, and while `wait_for` awaits the future. A
timer that finds the future pending cancels it, and the waiter takes its
request out of the table when it resumes; a timer that becomes due later
than the future was settled finds the waiter resumed.

# What is observed

A future lists how it was settled, and a request's own future is known
by its correlation id. Ids come from `uuid4`: one is used once.
-/
import Freeciv3d.Lib.Dict
import Freeciv3d.Lib.Lts
import Mathlib.Algebra.Order.Field.Rat

namespace Freeciv3d.Gateway

open Lib

namespace Requests

variable {V : Type}

/-- How a future is settled; a result comes with the id it answers. -/
inductive Settlement (V : Type) where
  | result (correlationId : String) (response : V)
  | cancelled
  | timedOut
  deriving DecidableEq

structure RequestFuture (V : Type) where
  correlationId : String
  settlements : List (Settlement V)
  deriving DecidableEq

def RequestFuture.done (f : RequestFuture V) : Bool :=
  !f.settlements.isEmpty

structure PendingRequest where
  future : Nat
  createdAt : Rat
  timeout : Rat
  deriving DecidableEq

inductive Outcome (V : Type) where
  | response (v : V)
  /-- `TimeoutError`. -/
  | timeout
  /-- `CancelledError`, from the future or its own. -/
  | cancelled
  /-- `KeyError`: the request is not in the table. -/
  | keyError
  | notSent
  deriving DecidableEq

inductive WaiterPhase (V : Type) where
  | sending
  | waiting (future : Nat)
  | timingOut (future : Nat)
  | finished (outcome : Outcome V)
  deriving DecidableEq

/-- A task in `send_request_and_wait` or `wait_for_response`. -/
structure Waiter (V : Type) where
  correlationId : String
  phase : WaiterPhase V
  deriving DecidableEq

/-- `RequestManager`, with its futures and tasks. -/
structure RequestManager (V : Type) where
  pendingRequests : Dict String PendingRequest
  defaultTimeout : Rat
  futures : List (RequestFuture V)
  waiters : List (Waiter V)
  deriving DecidableEq

inductive RequestEvent (V : Type) where
  /-- `create_request`, with the id it draws. -/
  | create (correlationId : String) (timeout : Option Rat) (now : Rat)
  /-- `send_request_and_wait`, until its send suspends. -/
  | sendRequest (correlationId : String) (timeout : Option Rat) (now : Rat)
  /-- The send of a task returns, raises, or is cancelled. -/
  | sent (i : Nat)
  | sendFailed (i : Nat)
  | cancelSending (i : Nat)
  /-- `wait_for_response`, until it suspends. -/
  | wait (correlationId : String)
  | wake (i : Nat)
  | timeOut (i : Nat)
  | cancelWaiter (i : Nat)
  | resolve (correlationId : String) (response : V)
  | cancel (correlationId : String)
  /-- `_cleanup_expired_requests`. -/
  | cleanup (now : Rat)
  /-- The end of `stop`. -/
  | stop

namespace RequestManager

/-- `done()` of a future. -/
def isDone (m : RequestManager V) (f : Nat) : Bool :=
  m.futures[f]?.any (·.done)

def settlements (m : RequestManager V) (f : Nat) : List (Settlement V) :=
  (m.futures[f]?.map (·.settlements)).getD []

/-- `set_result`, `set_exception` or `cancel`, unless it is done. -/
def settle (m : RequestManager V) (f : Nat) (s : Settlement V) :
    RequestManager V :=
  if m.isDone f then m
  else { m with futures := m.futures.modify f fun fu =>
      { fu with settlements := fu.settlements ++ [s] } }

/-- A request leaves the table, and its future is settled. -/
def finish (m : RequestManager V) (correlationId : String)
    (s : Settlement V) : RequestManager V :=
  match m.pendingRequests.get? correlationId with
  | none => m
  | some r =>
    { m with pendingRequests := m.pendingRequests.erase correlationId
      }.settle r.future s

def resolveRequest (m : RequestManager V) (correlationId : String)
    (response : V) : RequestManager V :=
  m.finish correlationId (.result correlationId response)

def cancelRequest (m : RequestManager V) (correlationId : String) :
    RequestManager V :=
  m.finish correlationId .cancelled

/-- The requests that have expired, in the order of the table. -/
def expired (m : RequestManager V) (now : Rat) : List String :=
  (m.pendingRequests.entries.filter fun e =>
    decide (e.2.timeout < now - e.2.createdAt)).map Prod.fst

/-- `_cleanup_expired_requests`, one request after the other; the code
takes them all out first, but nothing runs in between. -/
def cleanupExpiredRequests (m : RequestManager V) (now : Rat) :
    RequestManager V :=
  (m.expired now).foldl (fun m c => m.finish c .timedOut) m

/-- The end of `stop`: all requests are cancelled. -/
def stopRequests (m : RequestManager V) : RequestManager V :=
  m.pendingRequests.keys.foldl cancelRequest m

def createRequest (m : RequestManager V) (correlationId : String)
    (timeout : Option Rat) (now : Rat) : RequestManager V :=
  let timeout := (timeout.filter fun t => decide (t ≠ 0)).getD
    m.defaultTimeout
  let request : PendingRequest := ⟨m.futures.length, now, timeout⟩
  { m with
    pendingRequests := m.pendingRequests.set correlationId request
    futures := m.futures ++ [⟨correlationId, []⟩] }

/-- Where `wait_for_response` gets: it looks the request up. -/
def beginWait (m : RequestManager V) (correlationId : String) :
    WaiterPhase V :=
  match m.pendingRequests.get? correlationId with
  | none => .finished .keyError
  | some r => .waiting r.future

def putPhase (m : RequestManager V) (i : Nat) (w : Waiter V)
    (phase : WaiterPhase V) : RequestManager V :=
  { m with waiters := m.waiters.set i { w with phase := phase } }

def isFresh (m : RequestManager V) (correlationId : String) : Bool :=
  (m.futures.all fun f => f.correlationId ≠ correlationId)
    && m.waiters.all fun w => w.correlationId ≠ correlationId

/-- A waiter resumes: with the response, or as its future was cancelled;
after a timeout its request is taken out. -/
def wake (m : RequestManager V) (i : Nat) (w : Waiter V) :
    Option (RequestManager V) :=
  match w.phase with
  | .waiting f =>
    match m.settlements f with
    | [] => none
    | .result _ v :: _ => some (m.putPhase i w (.finished (.response v)))
    | .cancelled :: _ => some (m.putPhase i w (.finished .cancelled))
    | .timedOut :: _ =>
      some ((m.cancelRequest w.correlationId).putPhase i w
        (.finished .timeout))
  | .timingOut _ =>
    some ((m.cancelRequest w.correlationId).putPhase i w
      (.finished .timeout))
  | .sending | .finished _ => none

/-- The timer of a waiter finds its future pending. -/
def timeOut (m : RequestManager V) (i : Nat) (w : Waiter V) :
    Option (RequestManager V) :=
  match w.phase with
  | .waiting f =>
    if m.isDone f then none
    else some ((m.settle f .cancelled).putPhase i w (.timingOut f))
  | _ => none

/-- The task of a waiter is cancelled, and cancels the future it awaits;
nothing catches the error. -/
def cancelWaiter (m : RequestManager V) (i : Nat) (w : Waiter V) :
    Option (RequestManager V) :=
  match w.phase with
  | .waiting f | .timingOut f =>
    some ((m.settle f .cancelled).putPhase i w (.finished .cancelled))
  | _ => none

def sending? (m : RequestManager V) (i : Nat) : Option (Waiter V) :=
  m.waiters[i]?.filter fun w => match w.phase with
    | .sending => true
    | _ => false

def step (m : RequestManager V) :
    RequestEvent V → Option (RequestManager V)
  | .create c timeout now =>
    if m.isFresh c then some (m.createRequest c timeout now) else none
  | .sendRequest c timeout now =>
    if m.isFresh c then
      let m := m.createRequest c timeout now
      some { m with waiters := m.waiters ++ [⟨c, .sending⟩] }
    else none
  | .sent i =>
    (m.sending? i).map fun w => m.putPhase i w (m.beginWait w.correlationId)
  | .sendFailed i =>
    (m.sending? i).map fun w => (m.cancelRequest w.correlationId).putPhase i
      w (.finished .notSent)
  | .cancelSending i =>
    (m.sending? i).map fun w => m.putPhase i w (.finished .notSent)
  | .wait c => some { m with waiters := m.waiters ++ [⟨c, m.beginWait c⟩] }
  | .wake i => m.waiters[i]?.bind fun w => m.wake i w
  | .timeOut i => m.waiters[i]?.bind fun w => m.timeOut i w
  | .cancelWaiter i => m.waiters[i]?.bind fun w => m.cancelWaiter i w
  | .resolve c v => some (m.resolveRequest c v)
  | .cancel c => some (m.cancelRequest c)
  | .cleanup now => some (m.cleanupExpiredRequests now)
  | .stop => some m.stopRequests

def runs (V : Type) : Lts (RequestManager V) (RequestEvent V) where
  init m := ∃ timeout, m = ⟨∅, timeout, [], []⟩
  step := step

-- ==== the property

/-- The answer to an id, once its future has a result. -/
def answered (m : RequestManager V) (correlationId : String) (v : V) :
    Prop :=
  ∃ f ∈ m.futures, f.correlationId = correlationId
    ∧ ∃ c, Settlement.result c v ∈ f.settlements

def isAnswered (m : RequestManager V) (correlationId : String) : Bool :=
  m.futures.any fun f => f.correlationId = correlationId
    && f.settlements.any fun s => match s with
      | .result _ _ => true
      | .cancelled | .timedOut => false

/-- Every request gets one outcome. -/
structure OneOutcome (m : RequestManager V) : Prop where
  once : ∀ f ∈ m.futures, f.settlements.length ≤ 1
  /-- And never with the response to another request. -/
  own : ∀ f ∈ m.futures, ∀ c v, Settlement.result c v ∈ f.settlements →
    c = f.correlationId
  /-- A task that has begun to wait, and whose request was answered,
  ends with the answer. -/
  received : ∀ w ∈ m.waiters, ∀ o, w.phase = .finished o → o ≠ .notSent →
    ∀ v, m.answered w.correlationId v → o = .response v
  /-- While no task is under way, no request in the table is done. -/
  clean : (∀ w ∈ m.waiters, ∃ o, w.phase = .finished o) →
    ∀ c r, m.pendingRequests.get? c = some r → m.isDone r.future = false

/-- No answer is there before the task begins to wait, and no waiter is
cancelled while its request is in the table or answered. -/
def Undisturbed (m : RequestManager V) : RequestEvent V → Prop
  | .sent i => ∀ w ∈ m.waiters[i]?, m.isAnswered w.correlationId = false
  | .wait c => m.isAnswered c = false
  | .cancelWaiter i => ∀ w ∈ m.waiters[i]?,
      m.pendingRequests.contains w.correlationId = false
        ∧ m.isAnswered w.correlationId = false
  | _ => True

instance (m : RequestManager V) : DecidablePred m.Undisturbed := by
  intro e
  unfold Undisturbed
  split
  · infer_instance
  · infer_instance
  · infer_instance
  · infer_instance

end RequestManager

end Requests

end Freeciv3d.Gateway
