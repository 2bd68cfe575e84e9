/-
`AgentWebSocketHandler` of the LLM gateway: the connections an agent's
messages go out on, the task that listens on them, and the one that
waits for an authentication.

# What interleaves

The handler takes one message of the agent at a time. For `llm_connect`
it is suspended while it connects, while it waits for the old listener
to end, and while it sends; a listener and an earlier watchdog run
meanwhile. What a listener does between two messages of the proxy, its
answers to the agent and the bookkeeping of the gateway, is one
suspension (`handling`): nothing of it concerns this object.

A cancelled task gets `CancelledError` when it next runs. The one await
that swallows it is a listener's own wait for the watchdog it cancelled.

# What is observed

Connections and `llm_connect` messages are numbered. The list of what
was observed has the newest first.
-/
import Freeciv3d.Lib.Lts

namespace Freeciv3d.Gateway

open Lib

namespace AgentConnections

inductive ListenerPhase where
  /-- `create_task`, not yet run. -/
  | created
  | receiving (connection : Nat)
  | awaitingWatchdog (watchdog : Nat)
  | handling
  /-- `close()` of the `finally`. -/
  | closing
  | ended (raised : Bool)
  deriving DecidableEq

structure ProxyListener where
  attempt : Nat
  /-- `cancel()` was called since it last ran. -/
  cancelled : Bool
  phase : ListenerPhase

inductive WatchdogPhase where
  | sleeping
  | sendingError
  | cancelled
  | ended
  deriving DecidableEq

structure AuthWatchdog where
  attempt : Nat
  phase : WatchdogPhase

/-- Where `_handle_message` is. -/
inductive HandlerPhase where
  | idle
  | connecting (attempt : Nat)
  | awaitingListener (attempt connection : Nat)
  | sendingConnect (attempt : Nat)
  deriving DecidableEq

inductive Observed where
  | authSuccess (connection : Nat)
  | forwarded (connection : Nat)
  /-- A watchdog cancels a listener; both by their `llm_connect`. -/
  | cancelled (watchdog listener : Nat)
  deriving DecidableEq

structure AgentWebSocketHandler where
  authenticated : Bool
  proxyConnection : Option Nat
  proxyListenerTask : Option Nat
  authTimeoutTask : Option Nat
  phase : HandlerPhase
  listeners : List ProxyListener
  watchdogs : List AuthWatchdog
  attempts : Nat
  connections : Nat
  observed : List Observed

/-- What `recv` gives. -/
inductive ProxyMessage where
  | authSuccess
  | other
  | connectionClosed

inductive ListenerStep where
  | receive (message : ProxyMessage)
  /-- What it waited for is over; whether the loop, or `close()`, goes
  on as it should. -/
  | resume (goesOn : Bool)
  /-- `CancelledError`. -/
  | unwind

inductive ConnectionEvent where
  | agentMessage (messageType : String)
  | connectFailed
  | connected
  | listenerAwaited
  | connectSent
  /-- The message cannot be transformed, or the send raises. -/
  | connectNotSent
  | listener (k : Nat) (step : ListenerStep)
  | watchdogWakes (k : Nat)
  | watchdogReported (k : Nat)
  | watchdogUnwinds (k : Nat)

namespace ProxyListener

def done (l : ProxyListener) : Bool :=
  match l.phase with
  | .ended _ => true
  | _ => false

end ProxyListener

namespace AuthWatchdog

def done (w : AuthWatchdog) : Bool := w.phase = .ended

end AuthWatchdog

namespace AgentWebSocketHandler

/-- `_proxy_listener_task`, if it is there and not done. -/
def runningListener (h : AgentWebSocketHandler) :
    Option (Nat × ProxyListener) := do
  let k ← h.proxyListenerTask
  let l ← h.listeners[k]?
  if l.done then none else some (k, l)

/-- `_auth_timeout_task`, if it is there and not done. -/
def runningWatchdog (h : AgentWebSocketHandler) :
    Option (Nat × AuthWatchdog) := do
  let k ← h.authTimeoutTask
  let w ← h.watchdogs[k]?
  if w.done then none else some (k, w)

def setListener (h : AgentWebSocketHandler) (k : Nat)
    (l : ProxyListener) : AgentWebSocketHandler :=
  { h with listeners := h.listeners.set k l }

def setWatchdog (h : AgentWebSocketHandler) (k : Nat)
    (w : AuthWatchdog) : AgentWebSocketHandler :=
  { h with watchdogs := h.watchdogs.set k w }

/-- `_auth_timeout_task.cancel()`, unless it is done. -/
def cancelWatchdog (h : AgentWebSocketHandler) :
    AgentWebSocketHandler :=
  match h.runningWatchdog with
  | none => h
  | some (k, w) => h.setWatchdog k { w with phase := .cancelled }

/-- `_proxy_listener_task.cancel()`, unless it is done. -/
def cancelListener (h : AgentWebSocketHandler) :
    AgentWebSocketHandler :=
  match h.runningListener with
  | none => h
  | some (k, l) => h.setListener k { l with cancelled := true }

-- ==== the listener

def loop (h : AgentWebSocketHandler) (k : Nat) (l : ProxyListener) :
    AgentWebSocketHandler :=
  match h.proxyConnection with
  | some c => h.setListener k { l with phase := .receiving c }
  | none => h.setListener k { l with phase := .ended false }

/-- Its `finally`, until it suspends. -/
def leaveLoop (h : AgentWebSocketHandler) (k : Nat)
    (l : ProxyListener) : AgentWebSocketHandler :=
  let phase := match h.proxyConnection with
    | some _ => .closing
    | none => .ended false
  h.setListener k { l with phase := phase, cancelled := false }

/-- A message comes on the connection it listens on. -/
def receive (h : AgentWebSocketHandler) (k : Nat) (l : ProxyListener)
    (c : Nat) : ProxyMessage → AgentWebSocketHandler
  | .authSuccess =>
    let phase := match h.runningWatchdog with
      | some (w, _) => .awaitingWatchdog w
      | none => .handling
    let h := { h.cancelWatchdog with
      authenticated := true
      observed := .authSuccess c :: h.observed }
    h.setListener k { l with phase := phase }
  | .other => h.setListener k { l with phase := .handling }
  | .connectionClosed => h.leaveLoop k l

def resume (h : AgentWebSocketHandler) (k : Nat) (l : ProxyListener)
    (goesOn : Bool) : Option AgentWebSocketHandler :=
  match l.phase with
  | .created => some (h.loop k l)
  | .handling => some (if goesOn then h.loop k l else h.leaveLoop k l)
  | .closing =>
    let h := h.setListener k { l with phase := .ended (!goesOn) }
    some (if goesOn then { h with proxyConnection := none } else h)
  | _ => none

/-- `CancelledError` where it is suspended. -/
def unwind (h : AgentWebSocketHandler) (k : Nat) (l : ProxyListener) :
    Option AgentWebSocketHandler :=
  match l.phase with
  | .receiving _ => some (h.leaveLoop k l)
  | .handling => some (h.leaveLoop k l)
  -- it has not entered its `try`, or is in its `finally`
  | .created => some (h.setListener k { l with phase := .ended false })
  | .closing => some (h.setListener k { l with phase := .ended false })
  | _ => none

/-- The watchdog it waits for has ended; a cancellation is swallowed. -/
def watchdogAwaited (h : AgentWebSocketHandler) (k : Nat)
    (l : ProxyListener) (w : Nat) : Option AgentWebSocketHandler :=
  if (h.watchdogs[w]?).all (·.done) then
    some (h.setListener k
      { l with phase := .handling, cancelled := false })
  else none

def listenerStep (h : AgentWebSocketHandler) (k : Nat)
    (step : ListenerStep) : Option AgentWebSocketHandler := do
  let l ← h.listeners[k]?
  match l.phase, l.cancelled, step with
  | .awaitingWatchdog w, _, .resume _ => h.watchdogAwaited k l w
  | .receiving c, false, .receive message => some (h.receive k l c message)
  | _, false, .resume goesOn => h.resume k l goesOn
  | _, true, .unwind => h.unwind k l
  | _, _, _ => none

-- ==== the watchdog

def watchdogWakes (h : AgentWebSocketHandler) (k : Nat) :
    Option AgentWebSocketHandler := do
  let w ← h.watchdogs[k]?
  if w.phase = .sleeping then
    let phase := if h.authenticated then .ended else .sendingError
    some (h.setWatchdog k { w with phase := phase })
  else none

def watchdogReported (h : AgentWebSocketHandler) (k : Nat) :
    Option AgentWebSocketHandler := do
  let w ← h.watchdogs[k]?
  if w.phase = .sendingError then
    let h := h.setWatchdog k { w with phase := .ended }
    match h.runningListener with
    | none => some h
    | some (_, l) =>
      some { h.cancelListener with
        observed := .cancelled w.attempt l.attempt :: h.observed }
  else none

def watchdogUnwinds (h : AgentWebSocketHandler) (k : Nat) :
    Option AgentWebSocketHandler := do
  let w ← h.watchdogs[k]?
  if w.phase = .cancelled then
    some (h.setWatchdog k { w with phase := .ended })
  else none

-- ==== the messages of the agent

/-- `_handle_message`, until it suspends. -/
def agentMessage (h : AgentWebSocketHandler) (messageType : String) :
    AgentWebSocketHandler :=
  if messageType = "llm_connect" then
    { h with
      authenticated := false
      phase := .connecting h.attempts
      attempts := h.attempts + 1 }
  else if h.authenticated then
    match h.proxyConnection with
    | some c =>
      -- a `conn_pong` is not forwarded
      if messageType = "conn_pong" then h
      else { h with observed := .forwarded c :: h.observed }
    | none => h
  else h

/-- The new connection is assigned, and a task made to listen on it. -/
def assign (h : AgentWebSocketHandler) (attempt connection : Nat) :
    AgentWebSocketHandler :=
  { h with
    proxyConnection := some connection
    proxyListenerTask := some h.listeners.length
    listeners := h.listeners ++ [⟨attempt, false, .created⟩]
    phase := .sendingConnect attempt }

/-- The connection is there; a running listener is cancelled first. -/
def connected (h : AgentWebSocketHandler) (attempt : Nat) :
    AgentWebSocketHandler :=
  let connection := h.connections
  let h := { h with connections := h.connections + 1 }
  match h.runningListener with
  | none => h.assign attempt connection
  | some _ =>
    { h.cancelListener with
      phase := .awaitingListener attempt connection }

/-- The old listener has ended; what it raised ends the attempt. -/
def listenerAwaited (h : AgentWebSocketHandler)
    (attempt connection : Nat) : Option AgentWebSocketHandler := do
  let k ← h.proxyListenerTask
  let l ← h.listeners[k]?
  match l.phase with
  | .ended false => some (h.assign attempt connection)
  | .ended true => some { h with phase := .idle }
  | _ => none

/-- The message is sent: a new watchdog is started. -/
def connectSent (h : AgentWebSocketHandler) (attempt : Nat) :
    AgentWebSocketHandler :=
  let h := h.cancelWatchdog
  { h with
    authTimeoutTask := some h.watchdogs.length
    watchdogs := h.watchdogs ++ [⟨attempt, .sleeping⟩]
    phase := .idle }

def step (h : AgentWebSocketHandler) :
    ConnectionEvent → Option AgentWebSocketHandler
  | .agentMessage messageType =>
    if h.phase = .idle then some (h.agentMessage messageType) else none
  | .connectFailed =>
    match h.phase with
    | .connecting _ => some { h with phase := .idle }
    | _ => none
  | .connected =>
    match h.phase with
    | .connecting attempt => some (h.connected attempt)
    | _ => none
  | .listenerAwaited =>
    match h.phase with
    | .awaitingListener attempt c => h.listenerAwaited attempt c
    | _ => none
  | .connectSent =>
    match h.phase with
    | .sendingConnect attempt => some (h.connectSent attempt)
    | _ => none
  | .connectNotSent =>
    match h.phase with
    | .sendingConnect _ => some { h with phase := .idle }
    | _ => none
  | .listener k step => h.listenerStep k step
  | .watchdogWakes k => h.watchdogWakes k
  | .watchdogReported k => h.watchdogReported k
  | .watchdogUnwinds k => h.watchdogUnwinds k

def initial : AgentWebSocketHandler :=
  ⟨false, none, none, none, .idle, [], [], 0, 0, []⟩

def lts : Lts AgentWebSocketHandler ConnectionEvent where
  init := (· = initial)
  step := step

end AgentWebSocketHandler

end AgentConnections

end Freeciv3d.Gateway
