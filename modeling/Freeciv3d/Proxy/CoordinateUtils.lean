/-
`coordinate_utils`: the target of an action, in the formats the
validator and the converter both accept.
-/
import Freeciv3d.Lib.PyVal
import Freeciv3d.Proxy.Mirror

namespace Freeciv3d.Proxy

open Lib

namespace CoordinateUtils

def defaultMapWidth : Int := 64

def defaultMapHeight : Int := 64

/-- `extract_target_coordinates`: the flat form wins over the nested
one; without either both are `None`. -/
def extractTargetCoordinates (action : PyDict) : PyVal × PyVal :=
  match action.get? "target_x", action.get? "target_y" with
  | some x, some y => (x, y)
  | _, _ =>
    match action.get? "target" with
    | some (.dict target) =>
      match PyVal.field? target "x", PyVal.field? target "y" with
      | some x, some y => (x, y)
      | _, _ => (.null, .null)
    | _ => (.null, .null)

/-- A tile given as a number: `None`, -1, negative numbers and values
that `int` refuses count as not given. -/
def givenTile (t : PyStr.CharTables) (value : Option PyVal) :
    Except PyError (Option Int) :=
  match value with
  | none => .ok none
  | some v =>
    if v.isNull || v.eq (.int (-1)) then .ok none
    else match v.toInt t with
      | .ok tid => .ok (if 0 ≤ tid then some tid else none)
      | .error (.valueError _) => .ok none
      | .error .typeError => .ok none
      | .error e => .error e

def mapWidth (civcom : Option Mirror) : Int :=
  match civcom.bind Mirror.mapInfo with
  | some i => i.width
  | none => defaultMapWidth

/-- The tile of a pair of coordinates, -1 when they name none. -/
def tileOfCoordinates (t : PyStr.CharTables) (civcom : Option Mirror)
    (target : PyVal × PyVal) : Except PyError Int :=
  if target.1.isNull || target.2.isNull then .ok (-1)
  else match target.1.toInt t, target.2.toInt t with
    | .ok x, .ok y =>
      .ok (if x < 0 ∨ y < 0 then -1 else x + y * mapWidth civcom)
    | .error .overflowError, _ => .error .overflowError
    | .ok _, .error .overflowError => .error .overflowError
    | _, _ => .ok (-1)

/-- `resolve_target_tile_id`: 'target_id', then 'tile_id', then
coordinates. -/
def resolveTargetTileId (t : PyStr.CharTables) (action : PyDict)
    (civcom : Option Mirror) : Except PyError Int := do
  match ← givenTile t (action.get? "target_id") with
  | some tid => return tid
  | none =>
    match ← givenTile t (action.get? "tile_id") with
    | some tid => return tid
    | none =>
      tileOfCoordinates t civcom (extractTargetCoordinates action)

end CoordinateUtils

end Freeciv3d.Proxy
