/-
The connection side of a `CivCom`: the thread that holds an agent's
TCP connection to the civserver. Its game mirror (units, cities, the
combat log) is modelled apart, in `Proxy/Mirror.lean`; the two halves
touch different fields.

`CivCom` objects are shared by the registry, the WebSocket handlers
and the session tables, so they live in a heap and everything else
holds their ids. Times are whole ticks of `time.time()`.
-/
import Mathlib.Logic.Function.Basic

namespace Freeciv3d.Proxy

abbrev GameId := String
abbrev AgentId := String
abbrev CivComId := Nat

/-- An `LLMWSHandler` object. -/
abbrev HandlerId := Nat

/-- The fields of a `CivCom` that outlive a single packet and are read
or written outside its packet handlers. -/
structure CivCom where
  playerId : Option Int
  stopped : Bool
  /-- `is_alive()`: the thread has not returned from `run`. -/
  alive : Bool
  /-- `socket is not None`. -/
  socket : Bool
  civwebserver : Option HandlerId
  deadSince : Option Int
  joinRejected : Bool
  joinRejectionReason : Option String
  gameIsOver : Bool
  gameTimeout : Option Int

namespace CivCom

/-- `CivCom.__init__`, before the thread is started. -/
def init (civwebserver : HandlerId) : CivCom where
  playerId := none
  stopped := false
  alive := false
  socket := false
  civwebserver := some civwebserver
  deadSince := none
  joinRejected := false
  joinRejectionReason := none
  gameIsOver := false
  gameTimeout := none

def cleanup (c : CivCom) : CivCom :=
  { c with
    stopped := true
    joinRejected := false
    joinRejectionReason := none
    socket := false
    civwebserver := none }

/-- `close_connection`: the buffers are flushed first, the socket and
the handler are let go. -/
def closeConnection (c : CivCom) : CivCom :=
  { c with socket := false, civwebserver := none, stopped := true }

/-- What `register_game` does to the instance it replaces. -/
def retire (c : CivCom) : CivCom :=
  if c.stopped then c
  else { c with stopped := true, socket := false, civwebserver := none }

/-- The thread returns from `run`, or is started. -/
def threadIs (alive : Bool) (c : CivCom) : CivCom :=
  { c with alive := alive }

def stop (c : CivCom) : CivCom := { c with stopped := true }

/-- `_sync_dead_markers` on one instance: a mark that is there
stays. -/
def markDead (since : Int) (c : CivCom) : CivCom :=
  if c.deadSince.isSome then c else { c with deadSince := some since }

/-- A reconnecting handler takes the instance over, unless it is
stopped, and clears the mark. -/
def reattach (handler : HandlerId) (c : CivCom) : CivCom :=
  if c.stopped then c
  else { c with civwebserver := some handler, deadSince := none }

end CivCom

/-- The `CivCom` objects of the process. -/
abbrev Heap := CivComId → CivCom

namespace Heap

def modify (h : Heap) (c : CivComId) (f : CivCom → CivCom) : Heap :=
  Function.update h c (f (h c))

@[simp] theorem modify_self (h : Heap) (c : CivComId)
    (f : CivCom → CivCom) : h.modify c f c = f (h c) :=
  Function.update_self ..

theorem modify_of_ne (h : Heap) {c d : CivComId} (f : CivCom → CivCom)
    (hne : d ≠ c) : h.modify c f d = h d :=
  Function.update_of_ne hne ..

theorem modify_apply (h : Heap) (c d : CivComId) (f : CivCom → CivCom) :
    h.modify c f d = if d = c then f (h d) else h d := by
  by_cases hd : d = c
  · subst hd
    simp
  · simp [h.modify_of_ne f hd, hd]

end Heap

end Freeciv3d.Proxy
