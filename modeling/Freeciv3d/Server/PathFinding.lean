/-
Normal path-finding maps: their nodes, the search over them, and the
questions answered from them.

# Parameters

The callbacks of a `pf_parameter` are functions of tiles; so is what the
code asks about tiles, units and rules beside them.

# Arithmetic

An `int` is an integer taken modulo 2^32 after each operation, an
`unsigned` a natural number; a priority is the negation of a combined
cost, computed in an `unsigned` and read as an `int`.

# Loops

The loop of a question runs for as many rounds as the map has tiles; that
no more are needed is proved of it. A walk that would step off the map,
where the code reads through `NULL`, ends the model.
-/
import Freeciv3d.Lib.PriorityQueue
import Freeciv3d.Server.CivMap
import Freeciv3d.Server.DataioRaw

namespace Freeciv3d.Server

open Lib Function

-- ==== numbers and enums

/-- The conversion to `unsigned`. -/
def uint32 (n : Int) : Nat := (n % 2 ^ 32).toNat

def pfImpossibleMC : Int := -1

def pfTurnFactor : Int := 65536

inductive KnownType where
  | unknown
  | knownUnseen
  | knownSeen
  deriving DecidableEq

inductive TileBehavior where
  | normal
  | ignore
  | dontLeave
  deriving DecidableEq

/-- `enum pf_action`, without `PF_ACTION_IMPOSSIBLE`. -/
inductive PfAction where
  | none
  | attack
  | diplomat
  | tradeRoute
  deriving DecidableEq

structure MoveScope where
  native : Bool
  city : Bool
  transport : Bool
  deriving DecidableEq

/-- `PF_MS_NONE`. -/
def MoveScope.none : MoveScope := ⟨false, false, false⟩

/-- `PF_MS_NATIVE`. -/
def MoveScope.onlyNative : MoveScope := ⟨true, false, false⟩

/-- `PF_MS_TRANSPORT`. -/
def MoveScope.onlyTransport : MoveScope := ⟨false, false, true⟩

inductive PfZoc where
  | mine
  | allied
  | no
  deriving DecidableEq

/-- `enum pf_node_status`; the maps that consider waiting have more. -/
inductive PfStatus where
  | uninit
  | init
  | new
  | processed
  deriving DecidableEq

-- ==== parameters

/-- A `struct pf_parameter`, with what the search asks of the rest of the
game. -/
structure PfParameter where
  map : CivMap
  startTile : Nat
  movesLeftInitially : Nat
  fuelLeftInitially : Nat
  moveRate : Nat
  fuel : Nat
  /-- `transported_by_initially` is not `NULL`. -/
  transported : Bool
  /-- The initial transport can be left only in a city or native base, and
  the start is neither. -/
  cannotDisembark : Bool
  omniscience : Bool
  getKnown : Nat → KnownType
  getTB : Option (Nat → KnownType → TileBehavior)
  /-- The unit is civilian, or its owner can invade the tile. -/
  canInvade : Nat → Bool
  /-- None stands for `PF_ACTION_IMPOSSIBLE`. -/
  getAction : Option (Nat → KnownType → Option PfAction)
  isActionPossible : Option (Nat → MoveScope → Nat → PfAction → Bool)
  /-- The scope, and `can_disembark`. -/
  getMoveScope : Nat → MoveScope → MoveScope × Bool
  ignoreNoneScopes : Bool
  getZoc : Option (Nat → Bool)
  hasCity : Nat → Bool
  noZocTerrain : Nat → Bool
  hasUnits : Nat → Bool
  /-- An attack takes all moves, or is the unit's death. -/
  attackTakesAll : Bool
  singleMove : Int
  unknownMoveCost : Int
  getMC : Nat → MoveScope → Nat → MoveScope → Int
  getEC : Option (Nat → KnownType → Nat)

namespace PfParameter

variable (p : PfParameter)

def pfMovesLeftInitially : Int :=
  int32 (p.movesLeftInitially
    + int32 (((p.fuelLeftInitially : Int) - 1) * p.moveRate))

def pfMoveRate : Int := int32 (p.moveRate * p.fuel)

def turnsInfinity : Int := 1000000000

def pfTurns (cost : Int) : Int :=
  let cost :=
    if p.fuelLeftInitially < p.fuel then
      int32 (cost - int32 (((p.fuel : Int) - p.fuelLeftInitially)
        * p.moveRate))
    else cost
  if cost ≤ 0 then 0
  else if p.moveRate = 0 then turnsInfinity
  else cost.tdiv p.moveRate

def pfMovesLeft (cost : Int) : Int :=
  let moveRate := p.pfMoveRate
  if cost ≤ 0 then int32 (moveRate - cost)
  else if moveRate ≤ 0 then 0
  else int32 (moveRate - cost.tmod moveRate)

/-- `pf_total_CC`, as the `int` it is put into. -/
def pfTotalCC (cost : Int) (extra : Nat) : Int :=
  int32 (pfTurnFactor * cost + extra * p.pfMoveRate)

end PfParameter

-- ==== nodes

structure PfNormalNode where
  cost : Int
  extraCost : Nat
  dirToHere : Option Direction8
  status : PfStatus
  moveScope : MoveScope
  action : PfAction
  nodeKnownType : KnownType
  behavior : TileBehavior
  zocNumber : PfZoc
  extraTile : Nat

/-- A node as `fc_calloc` leaves it: direction 0 is northwest. -/
def PfNormalNode.zero : PfNormalNode where
  cost := 0
  extraCost := 0
  dirToHere := some .northwest
  status := .uninit
  moveScope := .none
  action := .none
  nodeKnownType := .unknown
  behavior := .normal
  zocNumber := .mine
  extraTile := 0

namespace PfParameter

variable (p : PfParameter)

/-- A check that forbids a tile, but for the start, whose behavior may be
overwritten: the error is a node that cannot be entered. -/
def forbid (node : PfNormalNode) (t : Nat) :
    Except PfNormalNode PfNormalNode :=
  if p.startTile ≠ t then .error { node with behavior := .ignore }
  else if node.behavior = .normal then
    .ok { node with behavior := .ignore }
  else .ok node

def initBehavior (node : PfNormalNode) (t : Nat) :
    Except PfNormalNode PfNormalNode :=
  match p.getTB with
  | none => .ok node
  | some getTB =>
    let node := { node with behavior := getTB t node.nodeKnownType }
    if node.behavior = .ignore ∧ p.startTile ≠ t then .error node
    else .ok node

def initInvade (node : PfNormalNode) (t : Nat) :
    Except PfNormalNode PfNormalNode :=
  if p.canInvade t then .ok node else p.forbid node t

def initAction (node : PfNormalNode) (t : Nat) :
    Except PfNormalNode PfNormalNode :=
  match p.getAction with
  | none => .ok node
  | some getAction =>
    match getAction t node.nodeKnownType with
    | none => do
        let node ← p.forbid node t
        return { node with action := .none }
    | some .none => .ok { node with action := .none }
    | some action =>
      .ok { node with behavior := .dontLeave, action := action }

/-- "Test the possibility to move from/to 'ptile'." -/
def initScope (node : PfNormalNode) (t : Nat) (previousScope : MoveScope) :
    Except PfNormalNode PfNormalNode :=
  let (scope, canDisembark) := p.getMoveScope t previousScope
  let node := { node with moveScope := scope }
  if scope = .none ∧ node.action = .none ∧ p.ignoreNoneScopes then
    p.forbid node t
  else if scope = .onlyTransport ∧ !canDisembark
      ∧ (p.startTile ≠ t ∨ !p.transported) then
    .ok { node with behavior := .dontLeave }
  else .ok node

def initZoc (node : PfNormalNode) (t : Nat) : PfNormalNode :=
  match p.getZoc with
  | none => node
  | some getZoc =>
    if !p.hasCity t && !p.noZocTerrain t && !getZoc t then
      { node with zocNumber := if p.hasUnits t then .allied else .no }
    else node

/-- "Evaluate the extra cost of the destination", put in 16 bits. -/
def initExtra (node : PfNormalNode) (t : Nat) : PfNormalNode :=
  match p.getEC with
  | none => node
  | some getEC =>
    { node with extraTile := getEC t node.nodeKnownType % 2 ^ 16 }

/-- What is initialised of a tile that is known, or not. -/
def initKnown (node : PfNormalNode) (t : Nat) (previousScope : MoveScope) :
    Except PfNormalNode PfNormalNode :=
  if node.nodeKnownType = .unknown then
    .ok { node with moveScope := .onlyNative }
  else do
    let node ← p.initInvade node t
    let node ← p.initAction node t
    let node ← p.initScope node t previousScope
    return p.initZoc node t

/-- `pf_normal_node_init`: an error is where it returns `FALSE`. -/
def pfNormalNodeInit (node : PfNormalNode) (t : Nat)
    (previousScope : MoveScope) : Except PfNormalNode PfNormalNode := do
  let node := { node with
    status := .init
    nodeKnownType := if p.omniscience then .knownSeen else p.getKnown t }
  let node ← p.initBehavior node t
  let node ← p.initKnown node t previousScope
  return p.initExtra node t

-- ==== maps

end PfParameter

/-- A `struct pf_normal_map`, without its parameter. -/
structure PfNormalMap where
  tile : Option Nat
  queue : PQueue Nat
  lattice : Nat → PfNormalNode

namespace PfParameter

variable (p : PfParameter)

/-- The node that an initialisation leaves behind, and whether the tile
can be entered. -/
def initialised :
    Except PfNormalNode PfNormalNode → PfNormalNode × Bool
  | .ok node => (node, true)
  | .error node => (node, false)

/-- The start as `pf_normal_map_new` makes it. -/
def startNode : PfNormalNode :=
  let (node, _) := initialised
    (p.pfNormalNodeInit .zero p.startTile .none)
  let node :=
    if p.transported then
      { node with
        moveScope := { node.moveScope with transport := true }
        behavior :=
          if p.cannotDisembark then .dontLeave else node.behavior }
    else node
  { node with
    cost := int32 (p.pfMoveRate - p.pfMovesLeftInitially)
    extraCost := 0
    dirToHere := none
    status := .processed }

def pfNormalMapNew : PfNormalMap where
  tile := some p.startTile
  queue := PQueue.empty (0, 0)
  lattice := update (fun _ => .zero) p.startTile p.startNode

def adjustCost (cost movesLeft : Int) : Int := min cost movesLeft

/-- The cost of a move as it is evaluated before it is adjusted; none where
the loop goes on with the next tile. -/
def moveCost (t : Nat) (node : PfNormalNode) (t₁ : Nat)
    (node₁ : PfNormalNode) : Option Int :=
  if node.zocNumber ≠ .mine ∧ node₁.zocNumber = .no then none
  else
    let scope := node.moveScope
    let possible := p.isActionPossible.all fun ok =>
      ok t scope t₁ node₁.action
    let cost :=
      if node₁.action ≠ .none then
        if !possible then pfImpossibleMC
        else if node₁.action = .attack ∧ p.attackTakesAll then
          (p.moveRate : Int)
        else p.singleMove
      else if node₁.nodeKnownType = .unknown then p.unknownMoveCost
      else p.getMC t scope t₁ node₁.moveScope
    if cost < 0 then none else some cost

abbrev Search := (Nat → PfNormalNode) × PQueue Nat

/-- The step to an adjacent tile, whose node is initialised: a first or a
better route is recorded. -/
def reach (t : Nat) (node : PfNormalNode) (search : Search) (t₁ : Nat)
    (dir : Direction8) : Search :=
  let (lattice, queue) := search
  let node₁ := lattice t₁
  match p.moveCost t node t₁ node₁ with
  | none => search
  | some cost =>
    let cost := int32 (adjustCost cost (p.pfMovesLeft node.cost)
      + node.cost)
    let extra :=
      if p.getEC.isSome then uint32 (node.extraCost + node₁.extraTile)
      else 0
    let costOfPath := p.pfTotalCC cost extra
    let reached := { node₁ with
      status := .new
      extraCost := extra
      cost := cost
      dirToHere := some dir }
    if node₁.status = .init then
      (update lattice t₁ reached,
        queue.insert t₁ (int32 (-costOfPath)))
    else if costOfPath < p.pfTotalCC node₁.cost node₁.extraCost then
      (update lattice t₁ reached,
        queue.replace t₁ (int32 (-costOfPath)))
    else search

/-- One round of `adjc_dir_iterate` in `pf_normal_map_iterate`. -/
def visitNeighbor (t : Nat) (node : PfNormalNode) (search : Search)
    (next : Nat × Direction8) : Search :=
  let (t₁, dir) := next
  let (lattice, queue) := search
  let node₁ := lattice t₁
  if node₁.status = .processed then search
  else if node₁.status = .uninit then
    let (inited, entered) := initialised
      (p.pfNormalNodeInit node₁ t₁ node.moveScope)
    let search := (update lattice t₁ inited, queue)
    if entered then p.reach t node search t₁ dir else search
  else if node₁.behavior = .ignore then search
  else p.reach t node search t₁ dir

def mayLeave (node : PfNormalNode) : Bool :=
  node.behavior ≠ .dontLeave ∧ node.moveScope ≠ .none
    ∧ (p.moveRate > 0 ∨ node.cost < 0)

/-- "Processing Stage" of `pf_normal_map_iterate`. -/
def processTile (m : PfNormalMap) (t : Nat) : Search :=
  let node := m.lattice t
  if p.mayLeave node then
    (p.map.adjcDir t).foldl (p.visitNeighbor t node) (m.lattice, m.queue)
  else (m.lattice, m.queue)

/-- `pf_map_iterate`, with `pf_normal_map_iterate`. -/
def pfMapIterate (m : PfNormalMap) : PfNormalMap × Bool :=
  match m.tile with
  | none => (m, false)
  | some t =>
    let (lattice, queue) := p.processTile m t
    match queue.remove with
    | none => (⟨none, queue, lattice⟩, false)
    | some (t', queue) =>
      (⟨some t', queue, update lattice t'
        { lattice t' with status := .processed }⟩, true)

/-- The loop of `pf_normal_map_iterate_until`. -/
def iterateLoop (t : Nat) : Nat → PfNormalMap → Option (PfNormalMap × Bool)
  | rounds, m =>
    if (m.lattice t).status = .processed then some (m, true)
    else
      match rounds with
      | 0 => none
      | rounds + 1 =>
        match p.pfMapIterate m with
        | (m, false) => some (m, false)
        | (m, true) => iterateLoop t rounds m

def pfNormalMapIterateUntil (m : PfNormalMap) (t : Nat) :
    Option (PfNormalMap × Bool) :=
  let rounds := p.map.mapIndexSize
  if (m.lattice t).status = .uninit then
    let (inited, entered) := initialised
      (p.pfNormalNodeInit (m.lattice t) t .none)
    let m := { m with lattice := update m.lattice t inited }
    if entered then p.iterateLoop t rounds m else some (m, false)
  else if (m.lattice t).behavior = .ignore then some (m, false)
  else p.iterateLoop t rounds m

-- ==== answers

end PfParameter

structure PfPosition where
  tile : Nat
  turn : Int
  movesLeft : Int
  fuelLeft : Int
  totalMC : Nat
  totalEC : Nat
  dirToNextPos : Option Direction8
  dirToHere : Option Direction8
  deriving DecidableEq

namespace PfParameter

variable (p : PfParameter)

def fillStartTile : PfPosition where
  tile := p.startTile
  turn := 0
  movesLeft := p.movesLeftInitially
  fuelLeft := p.fuelLeftInitially
  totalMC := 0
  totalEC := 0
  dirToNextPos := none
  dirToHere := none

/-- The cost of a node without what the start was given. -/
def totalMC (node : PfNormalNode) : Int :=
  int32 (int32 (node.cost - p.pfMoveRate) + p.pfMovesLeftInitially)

/-- `pf_normal_map_fill_position`, with `pf_finalize_position`. -/
def fillPosition (m : PfNormalMap) (t : Nat)
    (dirToNextPos : Option Direction8) : PfPosition :=
  let node := m.lattice t
  let movesLeft := p.pfMovesLeft node.cost
  { tile := t
    turn := p.pfTurns node.cost
    movesLeft :=
      if node.cost > 0 ∧ 0 < p.moveRate then movesLeft.tmod p.moveRate
      else movesLeft
    fuelLeft := 1
    totalMC := uint32 (p.totalMC node)
    totalEC := node.extraCost
    dirToNextPos := dirToNextPos
    dirToHere := node.dirToHere }

/-- `pf_normal_map_construct_path`: the walk back to the start, which ends
the model where it would step off the map. -/
def constructPath (m : PfNormalMap) :
    Nat → Nat → Option Direction8 → List PfPosition →
      Option (List PfPosition)
  | 0, _, _, _ => none
  | steps + 1, t, dirNext, positions =>
    let positions := p.fillPosition m t dirNext :: positions
    if t = p.startTile then some positions
    else
      match (m.lattice t).dirToHere with
      | none => none
      | some dir =>
        match p.map.mapstep t dir.reverse with
        | none => none
        | some before =>
          constructPath m steps before (some dir) positions

/-- `pf_normal_map_path`, `pf_map_path`: the map afterwards, and the path
if there is one. -/
def pfMapPath (m : PfNormalMap) (t : Nat) :
    Option (PfNormalMap × Option (List PfPosition)) :=
  if t = p.startTile then some (m, some [p.fillStartTile])
  else
    match p.pfNormalMapIterateUntil m t with
    | none => none
    | some (m, false) => some (m, none)
    | some (m, true) =>
      match p.constructPath m p.map.mapIndexSize t none [] with
      | none => none
      | some path => some (m, some path)

/-- `pf_normal_map_move_cost`, `pf_map_move_cost`. -/
def pfMapMoveCost (m : PfNormalMap) (t : Nat) :
    Option (PfNormalMap × Int) :=
  if t = p.startTile then some (m, 0)
  else
    match p.pfNormalMapIterateUntil m t with
    | none => none
    | some (m, false) => some (m, pfImpossibleMC)
    | some (m, true) => some (m, p.totalMC (m.lattice t))

/-- `pf_normal_map_position`, `pf_map_position`. -/
def pfMapPosition (m : PfNormalMap) (t : Nat) :
    Option (PfNormalMap × Option PfPosition) :=
  if t = p.startTile then some (m, some p.fillStartTile)
  else
    match p.pfNormalMapIterateUntil m t with
    | none => none
    | some (m, false) => some (m, none)
    | some (m, true) => some (m, some (p.fillPosition m t none))

/-- The positions that `pf_map_positions_iterate` goes through after the
start, in at most so many calls of `pf_map_iterate`. -/
def pfMapVisits : Nat → PfNormalMap → List PfPosition
  | 0, _ => []
  | calls + 1, m =>
    match p.pfMapIterate m with
    | (m, true) =>
      match m.tile with
      | some t => p.fillPosition m t none :: pfMapVisits calls m
      | none => []
    | (_, false) => []

inductive PfQuery where
  | path (t : Nat)
  | moveCost (t : Nat)
  | position (t : Nat)
  | iterate

inductive PfAnswer where
  | path (answer : Option (List PfPosition))
  | moveCost (answer : Int)
  | position (answer : Option PfPosition)
  | iterate (answer : Bool)
  deriving DecidableEq

def ask (m : PfNormalMap) : PfQuery → Option (PfNormalMap × PfAnswer)
  | .path t => (p.pfMapPath m t).map fun (m, a) => (m, .path a)
  | .moveCost t => (p.pfMapMoveCost m t).map fun (m, a) => (m, .moveCost a)
  | .position t => (p.pfMapPosition m t).map fun (m, a) => (m, .position a)
  | .iterate =>
    let (m, more) := p.pfMapIterate m
    some (m, .iterate more)

def askAll : PfNormalMap → List PfQuery → Option PfNormalMap
  | m, [] => some m
  | m, q :: qs => do
      let (m, _) ← p.ask m q
      askAll m qs

end PfParameter

end Freeciv3d.Server
