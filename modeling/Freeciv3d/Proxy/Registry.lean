/-
`CivComRegistry`: the process-wide table of `CivCom` instances by
(game id, agent id), and the periodic sweep that removes dead ones.

# The sweep in steps

`cleanup_dead_civcoms` takes a snapshot of the table without the lock
and decides on the instances it saw; then it unregisters the chosen
*keys*, one call at a time, each under the lock. Between two calls a
handler may register another instance under a chosen key. So a sweep
here is the list of keys it still has to remove, and the scan and each
removal are separate steps.

# The other actors

CivComs also change without the registry: threads end, handlers stop
them, `_sync_dead_markers` marks them dead, and a reconnection takes
the instance over and clears the mark (`reattach`). Time passes.
-/
import Freeciv3d.Lib.Dict
import Freeciv3d.Lib.Lts
import Freeciv3d.Lib.PyStr
import Freeciv3d.Proxy.CivCom

namespace Freeciv3d.Proxy

open Lib

abbrev Key := GameId × AgentId

/-- Registry metadata: string-keyed values nobody interprets. -/
abbrev Metadata := List (String × String)

/-- `CivComRegistry`. -/
structure Registry where
  instances : Dict Key CivComId
  metadata : Dict Key Metadata

namespace Registry

/-- The argument checks of `register_game`, with the text of the
`ValueError`. -/
def checkArgs (gameId agentId : String) : Except String Unit :=
  if PyStr.isBlank gameId then
    .error "game_id must be a non-empty string"
  else if PyStr.isBlank agentId then
    .error "agent_id must be a non-empty string"
  else .ok ()

/-- `register_game(game_id, agent_id, civcom, metadata)`: a different
instance under the key is stopped and replaced. -/
def registerGame (r : Registry) (h : Heap) (gameId agentId : String)
    (civcom : CivComId) (metadata : Metadata) :
    Except String (Registry × Heap) := do
  checkArgs gameId agentId
  let key := (gameId, agentId)
  let h' := match r.instances.get? key with
    | none => h
    | some old => if old = civcom then h else h.modify old CivCom.retire
  return ({ instances := r.instances.set key civcom
            metadata := r.metadata.set key metadata }, h')

/-- `unregister_game(game_id, agent_id)`: whatever instance is under
the key is cleaned up and removed. -/
def unregisterGame (r : Registry) (h : Heap) (key : Key) :
    Registry × Heap :=
  match r.instances.get? key with
  | none => (r, h)
  | some civcom =>
    ({ instances := r.instances.erase key
       metadata := r.metadata.erase key }, h.modify civcom CivCom.cleanup)

def getCivcom (r : Registry) (gameId agentId : String) : Option CivComId :=
  r.instances.get? (gameId, agentId)

def getAllForGame (r : Registry) (gameId : GameId) : Dict Key CivComId :=
  r.instances.filter fun k _ => k.1 == gameId

/-- Why the scan chose an instance: its thread has stopped, or it has
been marked dead for long enough. -/
def scanReason (now maxDeadAge : Int) (c : CivCom) : Option String :=
  if c.stopped && !c.alive then some "thread_stopped"
  else match c.deadSince with
    | none => none
    | some since =>
      if maxDeadAge ≤ now - since then
        some ("dead_" ++ toString (now - since) ++ "s")
      else none

/-- The scan of `cleanup_dead_civcoms`: `to_remove`, in table order. -/
def scan (r : Registry) (h : Heap) (now maxDeadAge : Int) :
    List (Key × String) :=
  r.instances.entries.filterMap fun e =>
    (scanReason now maxDeadAge (h e.2)).map (e.1, ·)

end Registry

-- ==== interleavings

/-- A running `cleanup_dead_civcoms`: what is left of `to_remove`. -/
structure Sweep where
  maxDeadAge : Int
  toRemove : List (Key × String)
  cleaned : Nat

/-- Neither stopped nor marked dead for `max_dead_age_seconds`. -/
def CivCom.live (c : CivCom) (now maxDeadAge : Int) : Bool :=
  !c.stopped && !(c.deadSince.any fun since => maxDeadAge ≤ now - since)

/-- The registry, the objects, the clock, the running sweeps, and the
instances a sweep removed while they were live (a ghost). -/
structure RegWorld where
  registry : Registry
  heap : Heap
  now : Int
  sweeps : List Sweep
  harmed : List CivComId

namespace RegWorld

/-- Neither stopped nor marked dead for `max_dead_age_seconds`. -/
def live (w : RegWorld) (maxDeadAge : Int) (c : CivComId) : Bool :=
  (w.heap c).live w.now maxDeadAge

/-- One `unregister_game` call of a sweep; the ghost notes a live
instance it hits. -/
def sweepRemove (w : RegWorld) (maxDeadAge : Int) (key : Key) : RegWorld :=
  let (registry, heap) := w.registry.unregisterGame w.heap key
  { w with
    registry := registry
    heap := heap
    harmed := ((w.registry.instances.get? key).filter
      (w.live maxDeadAge)).toList ++ w.harmed }

end RegWorld

/-- One step of some caller, of some sweep, or of the environment. -/
inductive RegAct where
  | tick (n : Nat)
  | register (gameId agentId : String) (civcom : CivComId)
      (metadata : Metadata)
  | unregister (key : Key)
  | scan (maxDeadAge : Int)
  | sweepNext (i : Nat)
  | threadIs (civcom : CivComId) (alive : Bool)
  | stop (civcom : CivComId)
  | markDead (civcom : CivComId) (since : Int)
  | reattach (gameId agentId : String) (handler : HandlerId)

namespace RegWorld

/-- One step. A rejected registration changes nothing. -/
def apply (w : RegWorld) : RegAct → Option RegWorld
  | .tick n => some { w with now := w.now + n }
  | .register g a c m =>
    match w.registry.registerGame w.heap g a c m with
    | .error _ => some w
    | .ok (registry, heap) =>
      some { w with registry := registry, heap := heap }
  | .unregister key =>
    let (registry, heap) := w.registry.unregisterGame w.heap key
    some { w with registry := registry, heap := heap }
  | .scan maxDeadAge =>
    let toRemove := w.registry.scan w.heap w.now maxDeadAge
    some { w with sweeps := w.sweeps ++ [⟨maxDeadAge, toRemove, 0⟩] }
  | .sweepNext i =>
    match w.sweeps[i]? with
    | some ⟨maxDeadAge, (key, _) :: rest, cleaned⟩ =>
      let sweeps := w.sweeps.set i ⟨maxDeadAge, rest, cleaned + 1⟩
      some { w.sweepRemove maxDeadAge key with sweeps := sweeps }
    | _ => none
  | .threadIs c alive =>
    some { w with heap := w.heap.modify c (CivCom.threadIs alive) }
  | .stop c => some { w with heap := w.heap.modify c CivCom.stop }
  | .markDead c since =>
    some { w with heap := w.heap.modify c (CivCom.markDead since) }
  | .reattach g a handler =>
    (w.registry.getCivcom g a).map fun c =>
      { w with heap := w.heap.modify c (CivCom.reattach handler) }

end RegWorld

/-- The registry at start: empty, no sweep running, any objects. -/
def registryRuns : Lts RegWorld RegAct where
  init w := w.registry = ⟨∅, ∅⟩ ∧ w.sweeps = [] ∧ w.harmed = []
  step := RegWorld.apply

end Freeciv3d.Proxy
