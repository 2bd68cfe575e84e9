/-
The messages on their way from a `CivCom` to the civserver: the queue
`civserver_messages`, which the event loop appends to, and
`send_packets_to_civserver`, which the event loop and the thread of the
`CivCom` both run.

# Lists are objects

A send iterates over the list that is the queue when it begins, by
position, so it sees what is appended to that list meanwhile. At its
end it makes a new list the queue, whatever happened to the one it
went through. Lists are numbered as they are made; `current` is the
queue.

# Messages

A message is its number in the order in which messages were queued.
Whether a socket send succeeds is the label's; one that fails ends the
loop.
-/
import Mathlib.Logic.Function.Basic
import Freeciv3d.Lib.Lts

namespace Freeciv3d.Proxy

open Lib

inductive SenderThread where
  | civcom
  | eventLoop
  deriving DecidableEq

instance {P : SenderThread → Prop} [DecidablePred P] :
    Decidable (∀ t, P t) :=
  decidable_of_iff (P .civcom ∧ P .eventLoop)
    ⟨fun h t => by
      cases t with
      | civcom => exact h.1
      | eventLoop => exact h.2, fun h => ⟨h _, h _⟩⟩

instance {P : SenderThread → Prop} [DecidablePred P] :
    Decidable (∃ t, P t) :=
  decidable_of_iff (P .civcom ∨ P .eventLoop)
    ⟨fun h => h.elim (⟨_, ·⟩) (⟨_, ·⟩), fun ⟨t, ht⟩ => by
      cases t with
      | civcom => exact .inl ht
      | eventLoop => exact .inr ht⟩

structure SendRun where
  list : Nat
  position : Nat
  /-- The loop is over, by its end or by an exception. -/
  finishing : Bool

structure OutgoingQueue where
  lists : Nat → List Nat
  current : Nat
  /-- `socket is not None`. -/
  socket : Bool
  runs : SenderThread → Option SendRun
  queued : Nat
  written : List Nat
  failed : List Nat

inductive QueueAct where
  /-- `queue_to_civserver`, on the event loop. -/
  | queue
  /-- `send_packets_to_civserver` begins. -/
  | begin (t : SenderThread)
  | iterate (t : SenderThread) (succeeds : Bool)
  /-- Its `finally`. -/
  | replace (t : SenderThread)

namespace OutgoingQueue

def init (socket : Bool) : OutgoingQueue where
  lists _ := []
  current := 0
  socket := socket
  runs _ := none
  queued := 0
  written := []
  failed := []

variable (q : OutgoingQueue)

def queueToCivserver : OutgoingQueue :=
  { q with
    lists := Function.update q.lists q.current
      (q.lists q.current ++ [q.queued])
    queued := q.queued + 1 }

def setRun (t : SenderThread) (run : Option SendRun) : OutgoingQueue :=
  { q with runs := Function.update q.runs t run }

/-- `send_packets_to_civserver` up to its loop: without a socket it
returns. -/
def beginSend (t : SenderThread) : OutgoingQueue :=
  if q.socket then q.setRun t (some ⟨q.current, 0, false⟩) else q

/-- The next round of the loop: the list ends, or a message is sent. -/
def iterate (t : SenderThread) (run : SendRun) (succeeds : Bool) :
    OutgoingQueue :=
  match (q.lists run.list)[run.position]? with
  | none => q.setRun t (some { run with finishing := true })
  | some message =>
    if succeeds then
      { q with written := q.written ++ [message] }.setRun t
        (some { run with position := run.position + 1 })
    else
      { q with failed := q.failed ++ [message] }.setRun t
        (some ⟨run.list, run.position + 1, true⟩)

/-- `self.civserver_messages = []`. -/
def replace (t : SenderThread) : OutgoingQueue :=
  { q with
    lists := Function.update q.lists (q.current + 1) []
    current := q.current + 1 }.setRun t none

/-- A thread does one thing at a time: the event loop queues nothing
while it sends. -/
def step : QueueAct → Option OutgoingQueue
  | .queue =>
    if (q.runs .eventLoop).isNone then some q.queueToCivserver else none
  | .begin t => if (q.runs t).isNone then some (q.beginSend t) else none
  | .iterate t succeeds =>
    match q.runs t with
    | some run =>
      if run.finishing then none else some (q.iterate t run succeeds)
    | none => none
  | .replace t =>
    match q.runs t with
    | some run => if run.finishing then some (q.replace t) else none
    | none => none

end OutgoingQueue

def queueRuns : Lts OutgoingQueue QueueAct where
  init q := ∃ socket, q = .init socket
  step := OutgoingQueue.step

end Freeciv3d.Proxy
