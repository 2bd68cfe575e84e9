/-
The handshake permits of the observers' connections: `get_port_semaphore`,
`cleanup_port_semaphore` and `WSHandler.get_civcom`, and
`CivCom._release_handshake_semaphore`, which the CivCom's own thread and
the event loop both call.

# Two threads

`get_civcom`, `on_close` and `validate_username` run on the event loop,
which waits inside `get_civcom` while a port is full. A CivCom's thread
releases after a join reply, when it cannot connect, when it crashes and
in its own `close_connection`. The `None` test, the release and the
clearing of `port_semaphore` are three steps of each call; either thread
may be between two of them while the other goes on.

`cleanup_port_semaphore` takes the lock `get_port_semaphore` takes; it
may come at any time. A `threading.Semaphore` has no upper bound, so no
release of one raises.
-/
import Freeciv3d.Lib.Dict
import Freeciv3d.Lib.Lts

namespace Freeciv3d.Proxy

open Lib

def maxConcurrentHandshakes : Nat := 6

/-- How far a call of `_release_handshake_semaphore` is. -/
inductive ReleaseStage where
  /-- `port_semaphore` was not `None`. -/
  | tested
  /-- `release` was called, or the attribute was `None` by then; the
  `finally` is to come. -/
  | released
  deriving DecidableEq

/-- A permit that was acquired, and the CivCom it is for. -/
structure HandshakeCivCom where
  port : Int
  /-- The semaphore `get_civcom` acquired. -/
  semaphore : Nat
  portSemaphore : Option Nat
  handshakeComplete : Bool
  started : Bool
  releases : Nat

inductive LoopAt where
  | idle
  /-- `get_port_semaphore` has returned. -/
  | acquiring (port : Int) (semaphore : Nat)
  | queued (port : Int) (semaphore : Nat)
  /-- In the `try` of `get_civcom`, with the permit. -/
  | creating (i : Nat)
  | releasing (i : Nat) (stage : ReleaseStage)
  deriving DecidableEq

/-- The semaphores and who holds permits. A semaphore is an index into
the values of all that were made. -/
structure Handshakes where
  portSemaphores : Dict Int Nat
  semaphores : List Nat
  civcoms : List HandshakeCivCom
  loop : LoopAt
  /-- The release calls the CivComs' own threads are in. -/
  threads : Dict Nat ReleaseStage

/-- Who calls `_release_handshake_semaphore`. -/
inductive Releaser where
  | eventLoop
  | thread
  deriving DecidableEq

def Releaser.other : Releaser → Releaser
  | eventLoop => thread
  | thread => eventLoop

inductive HandshakeAct where
  /-- `get_civcom` for a key that has no CivCom asks for the
  semaphore. -/
  | getPortSemaphore (port : Int)
  | acquire
  /-- The thread is started, or something raised before it was. -/
  | create (started : Bool)
  | test (who : Releaser) (i : Nat)
  | release (who : Releaser) (i : Nat)
  | clear (who : Releaser) (i : Nat)
  | cleanupPortSemaphore (port : Int)

namespace Handshakes

variable (s : Handshakes)

def init : Handshakes where
  portSemaphores := ∅
  semaphores := []
  civcoms := []
  loop := .idle
  threads := ∅

def value (semaphore : Nat) : Nat := s.semaphores.getD semaphore 0

def getPortSemaphore (port : Int) : Handshakes × Nat :=
  match s.portSemaphores.get? port with
  | some semaphore => (s, semaphore)
  | none =>
    ({ s with
        portSemaphores := s.portSemaphores.set port s.semaphores.length
        semaphores := s.semaphores ++ [maxConcurrentHandshakes] },
      s.semaphores.length)

def cleanupPortSemaphore (port : Int) : Handshakes :=
  { s with portSemaphores := s.portSemaphores.erase port }

def acquired (port : Int) (semaphore : Nat) : Handshakes :=
  { s with
    semaphores := s.semaphores.set semaphore (s.value semaphore - 1)
    civcoms := s.civcoms ++ [{
      port := port
      semaphore := semaphore
      portSemaphore := none
      handshakeComplete := false
      started := false
      releases := 0 }]
    loop := .creating s.civcoms.length }

/-- `release` of the permit of the `i`-th CivCom, on a semaphore. -/
def giveBack (i : Nat) (c : HandshakeCivCom) (semaphore : Nat) : Handshakes :=
  { s with
    semaphores := s.semaphores.set semaphore (s.value semaphore + 1)
    civcoms := s.civcoms.set i { c with releases := c.releases + 1 } }

/-- The `finally` of `_release_handshake_semaphore`. -/
def cleared (i : Nat) (c : HandshakeCivCom) : Handshakes :=
  { s with
    civcoms := s.civcoms.set i
      { c with portSemaphore := none, handshakeComplete := true } }

/-- How far a party's release call for a CivCom is, if it is in one. -/
def stage : Releaser → Nat → Option ReleaseStage
  | .eventLoop, i =>
    match s.loop with
    | .releasing j stage => if j = i then some stage else none
    | _ => none
  | .thread, i => s.threads.get? i

/-- A party is not in a call. -/
def Free : Releaser → Nat → Prop
  | .eventLoop, _ => s.loop = .idle
  | .thread, i => s.threads.get? i = none

instance : DecidableRel s.Free := by
  intro who i
  cases who <;> unfold Free <;> infer_instance

def moveTo (i : Nat) (stage : Option ReleaseStage) : Releaser → Handshakes
  | .eventLoop =>
    { s with loop := (stage.map (LoopAt.releasing i)).getD .idle }
  | .thread =>
    { s with
      threads := match stage with
        | none => s.threads.erase i
        | some stage => s.threads.set i stage }

/-- One step of the event loop or of a CivCom's thread. -/
def step : HandshakeAct → Option Handshakes
  | .getPortSemaphore port =>
    if s.loop = .idle ∧ 5000 ≤ port then
      let (s, semaphore) := s.getPortSemaphore port
      some { s with loop := .acquiring port semaphore }
    else none
  | .acquire =>
    match s.loop with
    | .acquiring port semaphore =>
      if 0 < s.value semaphore then some (s.acquired port semaphore)
      else some { s with loop := .queued port semaphore }
    | .queued port semaphore =>
      if 0 < s.value semaphore then some (s.acquired port semaphore)
      else none
    | _ => none
  | .create started =>
    match s.loop with
    | .creating i =>
      s.civcoms[i]?.map fun c =>
        if started then
          { s with
            civcoms := s.civcoms.set i
              { c with portSemaphore := some c.semaphore, started := true }
            loop := .idle }
        else { s.giveBack i c c.semaphore with loop := .idle }
    | _ => none
  | .test who i =>
    s.civcoms[i]?.bind fun c =>
      if c.started = true ∧ s.Free who i then
        match c.portSemaphore with
        | none => some s
        | some _ => some (s.moveTo i (some .tested) who)
      else none
  | .release who i =>
    if s.stage who i = some .tested then
      s.civcoms[i]?.map fun c =>
        match c.portSemaphore with
        -- an `AttributeError`, which leaves by the `finally`
        | none => s.moveTo i (some .released) who
        | some semaphore =>
          (s.giveBack i c semaphore).moveTo i (some .released) who
    else none
  | .clear who i =>
    if s.stage who i = some .released then
      s.civcoms[i]?.map fun c => (s.cleared i c).moveTo i none who
    else none
  | .cleanupPortSemaphore port => some (s.cleanupPortSemaphore port)

end Handshakes

/-- Connections, closings and clean-ups, in any interleaving. -/
def handshakeRuns : Lts Handshakes HandshakeAct where
  init s := s = Handshakes.init
  step := Handshakes.step

end Freeciv3d.Proxy
