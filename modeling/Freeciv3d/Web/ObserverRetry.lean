/-
The retries of an observing web client: `network_init`, `websocket_init`
with its `onclose`, `network_stop`, and the progress timeouts with
`handle_observer_timeout_with_retry` and `reset_observer_state_for_retry`.

# Attempts

A connection attempt begins when `network_init` goes on; its socket is
made when the launcher has answered (after a delay, if the URL asks for
one). What arrives on a socket arrives while it is open. A socket that
`network_stop` closes reports its close event at some later time, like
one the server closes.

Beside the client's variables the model notes of each attempt whether it
failed (its socket closed, or its time ran out, while the client was not
running), and what this led to.
-/
import Mathlib.Data.List.Basic
import Freeciv3d.Lib.Lts

namespace Freeciv3d.Web

open Lib

def observerMaxRetries : Nat := 4

inductive EntityTable where
  | units
  | cities
  | players
  | tiles
  deriving DecidableEq

inductive SocketState where
  | requested
  | open
  /-- Closed by `network_stop`; the event is to come. -/
  | closing
  | closed
  deriving DecidableEq

/-- An entry of a table, with the attempt it was received in. -/
abbrev Entity := EntityTable × Nat

structure Attempt where
  socket : SocketState
  failed : Bool
  exhausted : Bool
  /-- The increments of `observer_retry_count` it led to. -/
  increments : Nat
  reconnects : Nat
  inherited : List Entity

/-- The variables of the retries, and the events to come. -/
structure ObserverClient where
  /-- `client_state() === C_S_RUNNING`. -/
  running : Bool
  observerRetryCount : Nat
  observerRetryInProgress : Bool
  networkInitCalled : Bool
  /-- `ws`, by its attempt. -/
  ws : Option Nat
  attempts : List Attempt
  /-- The armed progress timeouts, by their attempts. -/
  timeouts : List Nat
  reconnects : Nat
  /-- What `units`, `cities`, `players` and `tiles` hold. -/
  entities : List Entity
  /-- An event of an older attempt has reset a newer one. -/
  disturbed : Bool

inductive RetryAct where
  /-- The launcher's answer: `websocket_init`. -/
  | launched (k : Nat)
  | receive (k : Nat) (table : EntityTable)
  | remove (i : Nat)
  /-- `update_client_state(C_S_RUNNING)`. -/
  | enterRunning (k : Nat)
  | leaveRunning (k : Nat)
  /-- `setup_observer_timeout_with_retry`. -/
  | armTimeout (k : Nat)
  /-- `onclose`. -/
  | closed (k : Nat)
  /-- `handle_observer_timeout_with_retry`. -/
  | timeout (i : Nat)
  | reconnect

namespace Attempt

def begin (inherited : List Entity) : Attempt where
  socket := .requested
  failed := false
  exhausted := false
  increments := 0
  reconnects := 0
  inherited := inherited

def opened (a : Attempt) : Attempt := { a with socket := .open }

def closed (a : Attempt) : Attempt := { a with socket := .closed }

/-- `ws.close()`. -/
def close (a : Attempt) : Attempt :=
  if a.socket = .open then { a with socket := .closing } else a

def fail (atMax : Bool) (a : Attempt) : Attempt :=
  if a.failed then a else { a with failed := true, exhausted := atMax }

def retried (a : Attempt) : Attempt :=
  { a with increments := a.increments + 1, reconnects := a.reconnects + 1 }

def recovered (a : Attempt) : Attempt :=
  { a with failed := false, exhausted := false }

end Attempt

namespace ObserverClient

variable (c : ObserverClient)

def init : ObserverClient where
  running := false
  observerRetryCount := 0
  observerRetryInProgress := false
  networkInitCalled := true
  ws := none
  attempts := [Attempt.begin []]
  timeouts := []
  reconnects := 0
  entities := []
  disturbed := false

def modify (k : Nat) (f : Attempt → Attempt) : ObserverClient :=
  { c with attempts := c.attempts.modify k f }

def networkInit : ObserverClient :=
  if c.networkInitCalled then c
  else
    { c with
      networkInitCalled := true
      attempts := c.attempts ++ [Attempt.begin c.entities] }

def networkStop : ObserverClient :=
  match c.ws with
  | none => c
  | some k => { c.modify k Attempt.close with ws := none }

/-- `reset_observer_state_for_retry`, of what is modelled here. -/
def resetObserverStateForRetry : ObserverClient :=
  { c.networkStop with
    networkInitCalled := false, observerRetryInProgress := false }

/-- The check both triggers make. -/
def CanRetry : Prop :=
  c.running = false ∧ c.observerRetryCount < observerMaxRetries
    ∧ c.observerRetryInProgress = false

instance : Decidable c.CanRetry := inferInstanceAs (Decidable (_ ∧ _))

/-- An event of an attempt fails it, while the client is not running. -/
def noteFailure (k : Nat) : ObserverClient :=
  if c.running then c
  else c.modify k (.fail (decide (observerMaxRetries ≤ c.observerRetryCount)))

/-- What both triggers do. `onclose` sets `observer_retry_in_progress`
again after the reset. -/
def retry (k : Nat) (inProgress : Bool) : ObserverClient :=
  let counted :=
    { c.modify k .retried with
      observerRetryCount := c.observerRetryCount + 1
      observerRetryInProgress := true
      disturbed := c.disturbed || decide (k + 1 ≠ c.attempts.length) }
  { counted.resetObserverStateForRetry with
    observerRetryInProgress := inProgress
    reconnects := c.reconnects + 1 }

/-- An event of an attempt: a retry, if there is to be one. -/
def event (k : Nat) (inProgress : Bool) : ObserverClient :=
  if c.CanRetry then (c.noteFailure k).retry k inProgress
  else c.noteFailure k

def socket (k : Nat) : Option SocketState := c.attempts[k]?.map Attempt.socket

def step : RetryAct → Option ObserverClient
  | .launched k =>
    if c.socket k = some .requested then
      some { c.modify k .opened with ws := some k }
    else none
  | .receive k table =>
    if c.socket k = some .open then
      some { c with entities := c.entities ++ [(table, k)] }
    else none
  | .remove i => some { c with entities := c.entities.eraseIdx i }
  | .enterRunning k =>
    if c.socket k = some .open then
      some { c.modify k .recovered with
        running := true
        observerRetryCount := 0
        observerRetryInProgress := false }
    else none
  | .leaveRunning k =>
    if c.socket k = some .open then some { c with running := false }
    else none
  | .armTimeout k =>
    if c.socket k = some .open then
      some { c with timeouts := c.timeouts ++ [k] }
    else none
  | .closed k =>
    if c.socket k = some .open ∨ c.socket k = some .closing then
      some ((c.modify k .closed).event k true)
    else none
  | .timeout i =>
    c.timeouts[i]?.map fun k =>
      ({ c with timeouts := c.timeouts.eraseIdx i } : ObserverClient).event k
        false
  | .reconnect =>
    if 0 < c.reconnects then
      some { { c with reconnects := c.reconnects - 1 }.networkInit with
        observerRetryInProgress := false }
    else none

end ObserverClient

/-- The events of an observer's page, in any order. -/
def retryRuns : Lts ObserverClient RetryAct where
  init c := c = ObserverClient.init
  step := ObserverClient.step

end Freeciv3d.Web
