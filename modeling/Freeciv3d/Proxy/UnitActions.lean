/-
Unit actions as the extractor offers them: the movement part of
`StateExtractor._generate_unit_actions`, `get_unit_actions` around it,
and `_normalize_action_format` on a move.

The other action families of the generator (founding, terrain work,
attacks, diplomats, transports) are separate blocks after the movement
block; they read nothing it computes and are not modelled here.
-/
import Freeciv3d.Proxy.Mirror

namespace Freeciv3d.Proxy

/-- The directions, in the order the generator lists them. -/
inductive Direction where
  | n | ne | e | se | s | sw | w | nw
  deriving DecidableEq

namespace Direction

/-- `directions`. -/
def all : List Direction := [n, ne, e, se, s, sw, w, nw]

def offset : Direction → Int × Int
  | n => (0, -1)
  | ne => (1, -1)
  | e => (1, 0)
  | se => (1, 1)
  | s => (0, 1)
  | sw => (-1, 1)
  | w => (-1, 0)
  | nw => (-1, -1)

end Direction

/-- A 'move' action: `action` is always 'move' here. -/
structure MoveAction where
  direction : Direction
  target : Int × Int
  isValid : Bool
  unitId : Int
  reason : Option String
  deriving DecidableEq

namespace UnitActions

def actionTransportEmbark : Nat := 72

def actionCount : Nat := 116

def tcLand : Int := 0

def tcOcean : Int := 1

def dsWar : Int := 0

-- ==== rulesets

/-- `utype_can_do_action`: a bit of the `utype_actions` bytes. -/
def utypeCanDoAction (m : Mirror) (unitTypeId : Int) (actionId : Nat) :
    Bool :=
  if actionCount ≤ actionId then false
  else match m.unitTypes.get? unitTypeId with
    | none => false
    | some ut =>
      (ut.utypeActions[actionId / 8]?).any fun b =>
        b.testBit (actionId % 8)

/-- `can_do_action(ACTION_TRANSPORT_EMBARK)`; the name heuristics for a
unit without a type id know no transports. -/
def canEmbark (m : Mirror) (u : UnitInfo) : Bool :=
  match u.typeId with
  | some t => utypeCanDoAction m t actionTransportEmbark
  | none => false

def getTerrainClass (m : Mirror) (terrainId : Int) : Int :=
  ((m.terrains.get? terrainId).map Terrain.tclass).getD tcLand

/-- `is_unit_class_native_to_terrain`: missing data allows. -/
def isUnitClassNativeToTerrain (m : Mirror) (unitClassId terrainId : Int) :
    Bool :=
  match m.unitClasses.get? unitClassId, m.terrains.get? terrainId with
  | some _, some terrain =>
    if terrain.nativeTo.isEmpty then true
    else (terrain.nativeTo[unitClassId.toNat / 32]?).any fun word =>
      word.testBit (unitClassId.toNat % 32)
  | _, _ => true

-- ==== targets

/-- The map size the generator assumes: `map_info.get('width', 80)` and
`map_info.get('height', 50)`. -/
def mapSize (m : Mirror) : Int × Int :=
  match m.mapInfo with
  | some i => (i.width, i.height)
  | none => (80, 50)

/-- `map_info.get('wrap_x', True)`. -/
def wrapX (m : Mirror) : Bool := (m.mapInfo.bind MapInfo.wrapX).getD true

/-- `map_info.get('wrap_y', False)`. -/
def wrapY (m : Mirror) : Bool := (m.mapInfo.bind MapInfo.wrapY).getD false

/-- `get_target_tile`: the coordinates of the target. -/
def getTargetTile (m : Mirror) (u : UnitInfo) (d : Direction) :
    Int × Int :=
  let x := u.x + d.offset.1
  let y := u.y + d.offset.2
  (if wrapX m then x % (mapSize m).1 else x,
    if wrapY m then y % (mapSize m).2 else y)

def targetIndex (m : Mirror) (target : Int × Int) : Int :=
  target.1 + target.2 * (mapSize m).1

/-- The owner of the city on a tile, the last one stored there. -/
def cityOwnerAt (m : Mirror) (index : Int) : Option Int :=
  (m.playerCities.values.reverse.find? fun c => c.tile == some index).map
    CityInfo.owner

-- ==== the checks

/-- The terrain check on the target; `none` when it passes, else the
reason. -/
def terrainReason (m : Mirror) (u : UnitInfo) (index : Int) :
    Option String :=
  match m.tiles.get? index with
  | none => none
  | some tile =>
    let terrainClass := (tile.terrain.map (getTerrainClass m)).getD tcLand
    let unitClassId := (u.typeId.bind m.unitTypes.get?).bind
      UnitType.unitClass
    let hasCity := (cityOwnerAt m index).isSome
    match unitClassId, tile.terrain with
    | some cls, some terrain =>
      if isUnitClassNativeToTerrain m cls terrain || hasCity then none
      else if terrainClass = tcOcean then
        if canEmbark m u then none
        else some
          "Cannot enter ocean (non-naval unit, no transport available)"
      else some "Cannot enter non-native terrain"
    | _, _ =>
      let className := ((unitClassId.filter (· ≠ 0)).bind
        m.unitClasses.get?).map fun c => c.name.toLower
      if hasCity then none
      else if terrainClass = tcOcean then
        if ["sea", "trireme", "air", "helicopter", "missile"].contains
            (className.getD "") || canEmbark m u
        then none
        else some "Cannot enter ocean (land unit, no transport)"
      else if terrainClass = tcLand
          && ["sea", "trireme"].contains (className.getD "")
      then some "Cannot enter land (naval unit)"
      else none

/-- The diplomatic check on the target: a foreign city may only be
entered at war. -/
def diplomaticReason (m : Mirror) (playerId : Int) (index : Int) :
    Option String :=
  match cityOwnerAt m index with
  | none => none
  | some owner =>
    if owner = playerId || m.diplType playerId owner = dsWar then none
    else some ("Cannot move into foreign territory - at "
      ++ (Mirror.dsNames.lookup (m.diplType playerId owner)).getD "unknown"
      ++ " with player " ++ toString owner)

def moveAction (m : Mirror) (u : UnitInfo) (playerId : Int)
    (d : Direction) : MoveAction :=
  let target := getTargetTile m u d
  let index := targetIndex m target
  let reason := (terrainReason m u index).or
    (diplomaticReason m playerId index)
  { direction := d, target := target, isValid := reason.isNone
    unitId := u.id, reason := reason }

/-- The movement block: nothing for a unit without moves. -/
def moveActions (m : Mirror) (u : UnitInfo) (playerId : Int) :
    List MoveAction :=
  if 0 < u.movesLeft then Direction.all.map (moveAction m u playerId) else []

-- ==== get_unit_actions

/-- The answer of `get_unit_actions`, with the 'move' actions of its
`actions`. -/
inductive Answer where
  | error (error errorCode : String)
  | actions (unitType : String) (location : Int × Int)
      (moves : List MoveAction)
  deriving DecidableEq

/-- The answer from a state: the unit must be in it and be the
player's. -/
def answer (m : Mirror) (state : FullState) (unitId playerId : Int) :
    Answer :=
  match state.units.get? (toString unitId) with
  | none => .error ("Unit " ++ toString unitId ++ " not found") "E230"
  | some u =>
    if u.owner ≠ playerId then
      .error ("Unit " ++ toString unitId ++ " is not owned by player "
        ++ toString playerId) "E231"
    else .actions u.type (u.x, u.y) (moveActions m u playerId)

/-- `get_unit_actions(unit_id, player_id)` on the CivCom of the player:
it builds a full state to find the unit, and drops it. -/
def getUnitActions (m : Mirror) (unitId playerId : Int) :
    Mirror × Answer :=
  let (m', state) := m.getFullState playerId
  (m', answer m' state unitId playerId)

-- ==== normalisation

structure ProxyMove where
  unitId : Option Int
  target : Option (Int × Int)
  destX : Option Int
  destY : Option Int
  priority : Int
  deriving DecidableEq

/-- `_normalize_action_format` on a move: an invalid one is dropped. -/
def normalizeActionFormat (a : MoveAction) : Option ProxyMove :=
  if a.isValid then
    some { unitId := some a.unitId, target := none, destX := some a.target.1
           destY := some a.target.2, priority := 5 }
  else none

end UnitActions

end Freeciv3d.Proxy
