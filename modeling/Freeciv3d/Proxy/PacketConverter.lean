/-
`packet_converter.convert_action_to_packet` on a `unit_move`: the
action becomes a PACKET_UNIT_ORDERS with one order, and only fields
that packets.def declares are kept.
-/
import Freeciv3d.Proxy.UnitActions

namespace Freeciv3d.Proxy

namespace PacketConverter

structure Order where
  order : Int
  activity : Int
  target : Int
  subTarget : Int
  action : Int
  dir : Int

inductive Field where
  | int (n : Int)
  | bool (b : Bool)
  | orders (os : List Order)

abbrev Packet := List (String × Field)

def packetUnitOrders : Int := 73

def orderActionMove : Int := 3

def activityLast : Int := 18

/-- `ACTION_NONE`, the `ACTION_COUNT` of `action_constants`. -/
def actionNone : Int := 117

/-- What `_load_packet_field_map` has for a packet number: the fields
packets.def declares for PACKET_UNIT_ORDERS and 'pid', or nothing when
the file cannot be read. -/
def packetFieldMap (found : Bool) (pid : Int) : List String :=
  if found && pid == packetUnitOrders then
    ["unit_id", "src_tile", "length", "repeat", "vigilant", "orders",
      "dest_tile", "pid"]
  else []

/-- `_sanitize_packet`: without a field map entry the packet stays. -/
def sanitizePacket (allowed : List String) (p : Packet) : Packet :=
  if allowed.isEmpty then p else p.filter fun f => allowed.contains f.1

/-- The `map_width` of the converter: a truthy `map_info` width, or
80. -/
def mapWidth (m : Mirror) : Int :=
  match m.mapInfo with
  | some i => if i.width ≠ 0 then i.width else 80
  | none => 80

/-- `CivCom.get_unit_tile`: own units first, -1 when unknown. -/
def getUnitTile (m : Mirror) (unitId : Int) : Int :=
  (((m.playerUnits.get? unitId).or (m.otherUnits.get? unitId)).map
    UnitInfo.tile).getD (-1)

/-- `max(-1, min(1, d))`. -/
def clamp (d : Int) : Int := max (-1) (min 1 d)

/-- `dir_map.get((dx, dy), -1)`. -/
def dirMap (dx dy : Int) : Int :=
  ([((-1, -1), 0), ((0, -1), 1), ((1, -1), 2), ((-1, 0), 3), ((1, 0), 4),
    ((-1, 1), 5), ((0, 1), 6), ((1, 1), 7)] :
    List ((Int × Int) × Int)).lookup (dx, dy) |>.getD (-1)

/-- The coordinates of a `unit_move`: the nested form wins over the
flat one. -/
def destination (a : UnitActions.ProxyMove) :
    Except String (Int × Int) :=
  match a.target, a.destX, a.destY with
  | some t, _, _ => .ok t
  | none, some x, some y => .ok (x, y)
  | none, _, _ => .error ("unit_move requires either 'target' dict with " ++
      "'x' and 'y' keys, or 'dest_x' and 'dest_y' integer fields")

/-- The direction the converter writes: the sign of the coordinate
differences from the tile of the unit. -/
def moveDirection (width srcTile : Int) (dest : Int × Int) : Int :=
  let srcX := if 0 ≤ srcTile then srcTile % width else 0
  let srcY := if 0 ≤ srcTile then srcTile / width else 0
  dirMap (clamp (dest.1 - srcX)) (clamp (dest.2 - srcY))

/-- The packet of a move, before fields are dropped. -/
def unitOrders (unitId srcTile destTile direction : Int) : Packet :=
  [("pid", .int packetUnitOrders),
    ("unit_id", .int unitId),
    ("src_tile", .int srcTile),
    ("dest_tile", .int destTile),
    ("length", .int 1),
    ("repeat", .bool false),
    ("vigilant", .bool false),
    ("orders", .orders
      [{ order := orderActionMove, activity := activityLast, target := 0
         subTarget := 0, action := actionNone, dir := direction }])]

/-- `convert_action_to_packet` on a `unit_move` with a CivCom; `found`
says whether packets.def could be read. -/
def convertActionToPacket (found : Bool) (m : Mirror)
    (a : UnitActions.ProxyMove) : Except String Packet :=
  match destination a with
  | .error e => .error e
  | .ok dest =>
    let width := mapWidth m
    match a.unitId with
    | none => .error "'unit_id'"
    | some unitId =>
      let srcTile := getUnitTile m unitId
      .ok (sanitizePacket (packetFieldMap found packetUnitOrders)
        (unitOrders unitId srcTile (dest.1 + dest.2 * width)
          (moveDirection width srcTile dest)))

end PacketConverter

end Freeciv3d.Proxy
