/-
The callbacks that a parameter is filled with, and the filling of it for a
unit.

# What is asked of the game

`PfGame` is what the callbacks ask of tiles, players and rules. The cost
of a move depends on the unit type by its class and by `UTYF_IGTER` only,
so these are its arguments. The action callbacks of a unit are given with
it.

# Scopes

How a tile can be moved to is natively, into a city, or into a transport
there. `pf_get_move_scope` takes it from the scope of the tile before that
a city can be entered, and else looks for itself.
-/
import Freeciv3d.Server.PathFinding

namespace Freeciv3d.Server

/-- A `struct unit_type`, as far as path-finding goes. -/
structure UnitType where
  /-- `utype_index`: types are told apart by it. -/
  index : Nat
  /-- `utype_class`. -/
  uclass : Nat
  /-- `UTYF_IGTER`. -/
  igter : Bool
  civilian : Bool
  coastStrict : Bool
  unknownMoveCost : Int
  canTakeOver : Bool
  /-- An attack takes all moves, or is the unit's death. -/
  attackTakesAll : Bool
  /-- `unit_type_really_ignores_zoc`. -/
  ignoresZoc : Bool
  /-- `can_unit_type_transport`. -/
  transports : Nat → Bool
  embarks : Nat → Bool
  disembarks : Nat → Bool

/-- A unit on a tile, as a transport: with those that it is in. -/
structure TransportUnit where
  owner : Nat
  utype : UnitType
  hasOrders : Bool
  /-- `unit_transports_iterate`: the types, and `unit_has_orders`. -/
  parents : List (UnitType × Bool)

structure PfGame where
  map : CivMap
  /-- `tile_get_known`. -/
  getKnown : Nat → Nat → KnownType
  canInvadeTile : Nat → Nat → Bool
  cityOwner : Nat → Option Nat
  allied : Nat → Nat → Bool
  citymindist : Nat
  buildAnywhere : Nat → Bool
  isNativeTile : Nat → Nat → Bool
  isSafeOcean : Nat → Bool
  isNativeMove : Nat → Nat → Nat → Bool
  /-- `is_city_channel_tile`, with no tile excluded. -/
  isCityChannelTile : Nat → Nat → Bool
  tileHasNativeBase : Nat → UnitType → Bool
  units : Nat → List TransportUnit
  noZocTerrain : Nat → Bool
  isMyZoc : Nat → Nat → Bool
  /-- `map_move_cost`: owner, class, `UTYF_IGTER`, and the tiles. -/
  mapMoveCost : Nat → Nat → Bool → Nat → Nat → Int
  singleMove : Int

/-- What a `struct pf_parameter` says of who moves. -/
structure PfMover where
  utype : UnitType
  owner : Nat
  cargoDepth : Nat
  cargoTypes : List UnitType

namespace PfGame

variable (g : PfGame) (w : PfMover)

def gameTransportMaxRecursive : Nat := 5

/-- Some cargo is of a type that could not be loaded with its own. -/
def cargoForbids (trans : UnitType) : Bool :=
  1 ≤ w.cargoDepth && w.cargoTypes.any fun cargo =>
    cargo.index == trans.index || cargo.transports trans.uclass

def pfTransportCheck (trans : TransportUnit) : Bool :=
  !(!g.allied trans.owner w.owner
      || w.utype.index == trans.utype.index
      || !trans.utype.transports w.utype.uclass
      || w.utype.transports trans.utype.uclass
      || gameTransportMaxRecursive
        < 1 + trans.parents.length + w.cargoDepth)
    && !cargoForbids w trans.utype
    && trans.parents.all fun (parent, hasOrders) =>
      !(hasOrders || w.utype.index == parent.index
        || w.utype.transports parent.uclass)
        && !cargoForbids w parent

def isNativeNearTile (uclass t : Nat) : Bool :=
  g.isNativeTile uclass t
    || (g.map.adjcDir t).any fun x => g.isNativeTile uclass x.1

/-- The city of the tile can be moved into, whatever is around it. -/
def cityAdmits (t : Nat) : Bool :=
  match g.cityOwner t with
  | none => false
  | some owner => w.utype.canTakeOver || g.allied w.owner owner

def cityReached (t : Nat) : Bool :=
  g.buildAnywhere w.utype.uclass
    || g.isNativeNearTile w.utype.uclass t
    || (g.citymindist == 1 && g.isCityChannelTile w.utype.uclass t)

/-- "Check for transporters.": the scope, and `can_disembark`. -/
def transportScope (t : Nat) :
    List TransportUnit → MoveScope → MoveScope × Bool
  | [], scope => (scope, false)
  | u :: us, scope =>
    let alliedCityTile :=
      (g.cityOwner t).any fun owner => g.allied w.owner owner
    if !g.pfTransportCheck w u then transportScope t us scope
    else if alliedCityTile || g.tileHasNativeBase t u.utype then
      (.onlyTransport, !u.hasOrders)
    else if !w.utype.embarks u.utype.uclass then
      transportScope t us scope
    else if w.utype.disembarks u.utype.uclass then
      (.onlyTransport, !u.hasOrders)
    else transportScope t us .onlyTransport

/-- `pf_get_move_scope`, with `can_disembark`, which is looked at only if
it is set. -/
def pfGetMoveScope (t : Nat) (previousScope : MoveScope) :
    MoveScope × Bool :=
  let native := g.isNativeTile w.utype.uclass t
    && (!w.utype.coastStrict || g.isSafeOcean t)
  -- "City channel previously tested"
  let city := g.cityAdmits w t
    && (previousScope.city || g.cityReached w t)
  if native || city then (⟨native, city, false⟩, false)
  else g.transportScope w t (g.units t) .none

def pfMovePossible (src : Nat) (srcScope : MoveScope) (dst : Nat)
    (dstScope : MoveScope) : Bool :=
  if dstScope = .none then false
  else if dstScope = .onlyNative ∧ srcScope.native
      ∧ !g.isNativeMove w.utype.uclass src dst then false
  else true

def normalMove (src : Nat) (srcScope : MoveScope) (dst : Nat)
    (dstScope : MoveScope) : Int :=
  if g.pfMovePossible w src srcScope dst dstScope then
    g.mapMoveCost w.owner w.utype.uclass w.utype.igter src dst
  else pfImpossibleMC

end PfGame

/-- A `struct unit` that needs no fuel, as its parameter is filled. -/
structure PfUnit where
  mover : PfMover
  tile : Nat
  movesLeft : Nat
  moveRate : Nat
  /-- It is in a transport, which it can leave here or not. -/
  transported : Bool
  cannotDisembark : Bool
  /-- `pf_get_action`, if it is set. -/
  getAction : Option (Nat → KnownType → Option PfAction)
  /-- `pf_action_possible`, if it is set. -/
  isActionPossible : Option (Nat → MoveScope → Nat → PfAction → Bool)

def PfGame.pftFillUnitParameter (g : PfGame) (punit : PfUnit) :
    PfParameter where
  map := g.map
  startTile := punit.tile
  movesLeftInitially := punit.movesLeft
  fuelLeftInitially := 1
  moveRate := punit.moveRate
  fuel := 1
  transported := punit.transported
  cannotDisembark := punit.cannotDisembark
  omniscience := false
  getKnown := g.getKnown punit.mover.owner
  getTB := none
  canInvade t := punit.mover.utype.civilian
    || g.canInvadeTile punit.mover.owner t
  getAction := punit.getAction
  isActionPossible := punit.isActionPossible
  getMoveScope := g.pfGetMoveScope punit.mover
  ignoreNoneScopes := true
  getZoc :=
    if punit.mover.utype.ignoresZoc then none
    else some (g.isMyZoc punit.mover.owner)
  hasCity t := (g.cityOwner t).isSome
  noZocTerrain := g.noZocTerrain
  hasUnits t := !(g.units t).isEmpty
  attackTakesAll := punit.mover.utype.attackTakesAll
  singleMove := g.singleMove
  unknownMoveCost := punit.mover.utype.unknownMoveCost
  getMC := g.normalMove punit.mover
  getEC := none

end Freeciv3d.Server
