/-
`convert_action_to_packet` on every action type: a dict of unchecked
values becomes the dict of a packet.

# The branches

Most branches only differ in a number and in the fields they read, so
the source's chain of comparisons is a table here (`branches`): one
entry a type, in the order of the source. `firstOf` is the
`action.get(a, action.get(b, default))` of the source.

# What comes back

A type without a branch comes back as the action itself; a packet has a
`pid`. Every packet passes `_sanitize_packet`, which keeps the fields
packets.def declares (`sub_target` is none of them).
-/
import Freeciv3d.Proxy.CoordinateUtils
import Freeciv3d.Proxy.PacketConverter
import Freeciv3d.Proxy.RulesetMapper

namespace Freeciv3d.Proxy

open Lib

namespace ActionPackets

open CoordinateUtils

abbrev Fields := List (String × PyVal)

/-- `_load_packet_field_map`, for the packets the converter makes;
nothing when packets.def cannot be read. -/
def packetFieldMap (found : Bool) (pid : Int) : List String :=
  if found then
    ([(26, ["message"]),
      (33, ["city_id", "build_id"]),
      (34, ["city_id"]),
      (35, ["city_id", "production_kind", "production_value"]),
      (40, ["city_id", "name"]),
      (52, ["turn"]),
      (55, ["tech"]),
      (73, ["unit_id", "src_tile", "length", "repeat", "vigilant",
        "orders", "dest_tile"]),
      (74, ["unit_id", "agent"]),
      (84, ["actor_id", "target_id", "sub_tgt_id", "name",
        "action_type"]),
      (95, ["counterpart"]),
      (97, ["counterpart"]),
      (99, ["counterpart", "giver", "type", "value"]),
      (101, ["counterpart", "giver", "type", "value"]),
      (103, ["counterpart"]),
      (105, ["other_player_id", "clause"]),
      (222, ["unit_id", "activity", "target"])] :
      List (Int × List String)).lookup pid |>.elim [] (· ++ ["pid"])
  else []

/-- `_sanitize_packet`: without a field map entry the packet stays. -/
def sanitizePacket (t : PyStr.CharTables) (found : Bool) (p : Fields) :
    Fields :=
  match ((p.lookup "pid").getD .null).toInt t with
  | .error _ => p
  | .ok pid =>
    let allowed := packetFieldMap found pid
    if allowed.isEmpty then p else p.filter fun f => allowed.contains f.1

-- ==== branches

inductive TargetRule where
  /-- `resolve_target_tile_id`. -/
  | tile
  | fields (keys : List String)
  deriving DecidableEq

/-- A PACKET_UNIT_DO_ACTION: fields that replace `unit_id` as the
actor, the target, and the fields of the sub target. -/
structure ActionSpec where
  action : Int
  actorKeys : List String
  target : TargetRule
  subKeys : List String
  /-- Without a sub target the packet has -1 there, or `None`. -/
  subDefault : Option Int
  deriving DecidableEq

inductive Branch where
  | unitMove
  | cityProduction
  | techResearch
  | endTurn
  | unitBuildCity
  | serverSideAgent
  | changeActivity (activity : Int) (unitRequired : Bool)
      (targetKeys : List String)
  | doAction (spec : ActionSpec)
  | meeting (pid : Int)
  | cancelPact (clauseKeys : List String) (clause : Int)
  | clause (pid type : Int)
  | message
  | cityBuy
  | citySellImprovement
  | cityRename
  | cityWorklist
  deriving DecidableEq

def onTile (action : Int) (subKeys : List String) : Branch :=
  .doAction ⟨action, [], .tile, subKeys, some (-1)⟩

/-- A unit action on what one of some fields names. -/
def onFields (action : Int) (keys : List String) : Branch :=
  .doAction ⟨action, [], .fields keys, ["sub_tgt_id"], some (-1)⟩

def onCity (action : Int) : Branch := onFields action ["city_id", "target_id"]

def clauseCeasefire : Int := 5

def clausePeace : Int := 6

def clauseAlliance : Int := 7

def clauseVision : Int := 8

def combatSub : List String := ["sub_tgt_id", "extra_id"]

def transportKeys : List String :=
  ["transport_id", "target_unit_id", "target_id"]

/-- The chain of `_convert_action_to_packet_impl`. -/
def branches : List (String × Branch) :=
  [("unit_move", .unitMove),
    ("city_production", .cityProduction),
    ("city_change_production", .cityProduction),
    ("tech_research", .techResearch),
    ("end_turn", .endTurn),
    ("unit_build_city", .unitBuildCity),
    ("unit_explore", .serverSideAgent),
    ("unit_fortify", .changeActivity 10 true []),
    ("unit_sentry", .changeActivity 5 true []),
    ("unit_build_road", .changeActivity 13 true []),
    ("unit_build_irrigation", .changeActivity 3 true []),
    ("unit_build_mine", .changeActivity 2 true []),
    ("unit_attack", onTile 45 combatSub),
    ("unit_suicide_attack", onTile 46 combatSub),
    ("unit_bombard", onTile 53 combatSub),
    ("unit_capture", onTile 24 combatSub),
    ("unit_conquer_city", onTile 49 combatSub),
    ("unit_nuke", onTile 33 combatSub),
    ("unit_nuke_city", onTile 34 combatSub),
    ("unit_nuke_units", onTile 35 combatSub),
    ("unit_expel", onTile 37 combatSub),
    ("unit_heal", onTile 98 combatSub),
    ("unit_pillage", .doAction
      ⟨65, [], .fields ["tile_id", "target_id"], combatSub, some (-1)⟩),
    ("unit_board", onFields 68 transportKeys),
    ("unit_embark", onFields 72 transportKeys),
    ("unit_disembark", onTile 76 ["sub_tgt_id"]),
    ("unit_unload", .doAction
      ⟨83, ["transport_id"], .fields ["cargo_id", "target_id"],
        ["sub_tgt_id"], some (-1)⟩),
    ("unit_airlift", onCity 44),
    ("unit_paradrop", onTile 100 ["sub_tgt_id"]),
    ("spy_investigate_city", onCity 2),
    ("spy_poison", onCity 4),
    ("spy_sabotage_city", .doAction
      ⟨8, [], .fields ["city_id", "target_id"], ["building_id"],
        some (-1)⟩),
    ("spy_targeted_sabotage_city", .doAction
      ⟨10, [], .fields ["city_id", "target_id"], ["building_id"], none⟩),
    ("spy_steal_tech", onCity 14),
    ("spy_targeted_steal_tech", .doAction
      ⟨16, [], .fields ["city_id", "target_id"], ["tech_id"], none⟩),
    ("spy_incite_city", onCity 18),
    ("spy_bribe_unit", onFields 23 ["target_unit_id", "target_id"]),
    ("establish_embassy", onCity 0),
    ("spy_steal_gold", onCity 6),
    ("spy_spread_plague", onCity 84),
    ("spy_nuke_city", onCity 31),
    ("unit_trade_route", onCity 20),
    ("unit_marketplace", onCity 21),
    ("unit_help_wonder", onCity 22),
    ("diplomacy_start_negotiation", .meeting 95),
    ("diplomacy_cancel_meeting", .meeting 97),
    ("diplomacy_accept_treaty", .meeting 103),
    ("diplomacy_cancel_pact", .cancelPact ["clause_type"] clausePeace),
    ("diplomacy_declare_war", .cancelPact [] clauseCeasefire),
    ("diplomacy_propose_ceasefire", .clause 99 clauseCeasefire),
    ("diplomacy_propose_peace", .clause 99 clausePeace),
    ("diplomacy_propose_alliance", .clause 99 clauseAlliance),
    ("diplomacy_share_vision", .clause 99 clauseVision),
    ("diplomacy_withdraw_vision", .clause 101 clauseVision),
    ("diplomacy_reject_treaty", .meeting 97),
    ("diplomacy_cancel_treaty", .cancelPact ["clause_type"] clausePeace),
    ("diplomacy_message", .message),
    ("city_buy", .cityBuy),
    ("city_sell_improvement", .citySellImprovement),
    ("city_unload", .changeActivity 0 false []),
    ("city_rename", .cityRename),
    ("city_worklist", .cityWorklist),
    ("unit_upgrade", onCity 42),
    ("unit_join_city", onCity 28),
    ("unit_clean_pollution", .changeActivity 7 true ["tile_id"]),
    ("unit_clean_fallout", .changeActivity 11 true ["tile_id"]),
    ("unit_transform", .changeActivity 8 true []),
    ("unit_cultivate", onFields 64 ["tile_id", "target_id"]),
    ("unit_plant", onFields 66 ["tile_id", "target_id"]),
    ("unit_disband", onFields 30 ["target_id"]),
    ("unit_home_city", onCity 32),
    ("unit_wake", .changeActivity 0 true []),
    ("unit_skip", .changeActivity 0 true []),
    ("unit_auto_worker", .serverSideAgent)]

-- ==== reading fields

/-- `action[key]`. -/
def need (action : PyDict) (key : String) : Except PyError PyVal :=
  match action.get? key with
  | some v => .ok v
  | none => .error (.keyError key)

/-- `action.get(k₁, action.get(k₂, … default))`. -/
def firstOf (action : PyDict) (keys : List String) (default : PyVal) :
    PyVal :=
  (keys.findSome? action.get?).getD default

/-- `_get_unit_tile`, on a value that may be no unit id. -/
def unitTile (civcom : Option Mirror) (unitId : PyVal) : Int :=
  match civcom, unitId.key with
  | some m, .ok (some (.int n)) => PacketConverter.getUnitTile m n
  | _, _ => -1

-- ==== special branches

variable (rt : PyRuntime) (civcom : Option Mirror) (action : PyDict)

def moveMapWidth : Int := (civcom.map PacketConverter.mapWidth).getD 80

/-- The nested target of a move, with both coordinates. -/
def nestedTarget : Option (PyVal × PyVal) :=
  match action.get? "target" with
  | some (.dict target) =>
    match PyVal.field? target "x", PyVal.field? target "y" with
    | some x, some y => some (x, y)
    | _, _ => none
  | _ => none

/-- The coordinates of a move: the nested form wins over the flat
one. -/
def moveDestination : Except PyError (PyVal × PyVal) :=
  match nestedTarget action with
  | some t => .ok t
  | none =>
    match action.get? "dest_x", action.get? "dest_y" with
    | some x, some y => .ok (x, y)
    | _, _ => .error (.valueError ("unit_move requires either 'target' "
        ++ "dict with 'x' and 'y' keys, or 'dest_x' and 'dest_y' "
        ++ "integer fields"))

def unitOrders (unitId : PyVal) (srcTile destTile direction : Int) :
    Fields :=
  [("pid", .int PacketConverter.packetUnitOrders),
    ("unit_id", unitId),
    ("src_tile", .int srcTile),
    ("dest_tile", .int destTile),
    ("length", .int 1),
    ("repeat", .bool false),
    ("vigilant", .bool false),
    ("orders", .list [.dict
      [(.str "order", .int PacketConverter.orderActionMove),
        (.str "activity", .int PacketConverter.activityLast),
        (.str "target", .int 0),
        (.str "sub_target", .int 0),
        (.str "action", .int PacketConverter.actionNone),
        (.str "dir", .int direction)]])]

def convertUnitMove : Except PyError Fields := do
  let (vx, vy) ← moveDestination action
  let x ← vx.toInt rt.toCharTables
  let y ← vy.toInt rt.toCharTables
  let width := moveMapWidth civcom
  let srcTile := unitTile civcom ((action.get? "unit_id").getD (.int (-1)))
  let unitId ← need action "unit_id"
  return unitOrders unitId srcTile (x + y * width)
    (PacketConverter.moveDirection width srcTile (x, y))

/-- `kind, value` of a production. -/
def productionKindValue (production : PyVal) :
    Except PyError (PyVal × PyVal) :=
  match civcom with
  | none => .ok ((action.get? "production_kind").getD .null,
      (action.get? "production_value").getD .null)
  | some m =>
    match production with
    | .str name =>
      match (RulesetMapper.load rt m).mapProductionToKindValue rt name with
      | some (kind, value) => .ok (.int kind, .int value)
      | none => .error (.valueError
          ("Unknown production: '" ++ name ++ "'"))
    | _ => .error .attributeError

def productionName : Except PyError PyVal :=
  let production := firstOf action ["production_type"] (.str "")
  if production.truthy then .ok production
  else .error (.valueError
    "city_production requires 'production_type' field")

def convertCityProduction : Except PyError Fields := do
  let production ← productionName action
  let (kind, value) ← productionKindValue rt civcom action production
  let cityId ← need action "city_id"
  return [("pid", .int 35), ("city_id", cityId), ("production_kind", kind),
    ("production_value", value)]

/-- The name of the technology: `tech_name`, or the target's. -/
def techName : PyVal :=
  let name := (action.get? "tech_name").getD .null
  if name.truthy then name
  else match action.get? "target" with
    | some (.dict target) =>
      ((PyVal.field? target "tech").getD .null).or
        ((PyVal.field? target "tech_name").getD .null)
    | _ => name

def convertTechResearch : Except PyError Fields :=
  let name := techName action
  if !name.truthy then
    .error (.valueError ("tech_research requires 'tech_name' or "
      ++ "'target.tech' with tech name string"))
  else
    match civcom, name with
    | none, _ => .error (.valueError ("tech_research requires a civcom "
        ++ "with ruleset info to map tech names to IDs"))
    | some m, .str s =>
      match (RulesetMapper.load rt m).getTechId rt s with
      | some tech => .ok [("pid", .int 55), ("tech", .int tech)]
      | none => .error (.valueError ("Unknown technology '" ++ s ++ "'"))
    | some _, _ => .error .attributeError

def convertUnitBuildCity : Except PyError Fields := do
  let unitId ← need action "unit_id"
  return [("pid", .int 84), ("action_type", .int 27), ("actor_id", unitId),
    ("target_id", .int (unitTile civcom unitId)), ("sub_tgt_id", .int 0),
    ("sub_target", .int 0),
    ("name", (action.get? "name").getD
      (.str ("City" ++ unitId.toStr rt)))]

def targetOf : TargetRule → Except PyError PyVal
  | .tile => (resolveTargetTileId rt.toCharTables action civcom).map .int
  | .fields keys => .ok (firstOf action keys (.int (-1)))

def convertDoAction (spec : ActionSpec) : Except PyError Fields := do
  let target ← targetOf rt civcom action spec.target
  let unitId ← need action "unit_id"
  let sub := firstOf action spec.subKeys
    (spec.subDefault.elim .null .int)
  return [("pid", .int 84),
    ("actor_id", firstOf action spec.actorKeys unitId),
    ("target_id", target), ("sub_tgt_id", sub), ("sub_target", sub),
    ("name", .str ""), ("action_type", .int spec.action)]

/-- The unit of a change of activity, -1 where none is required. -/
def changedUnit (required : Bool) : Except PyError PyVal :=
  if required then need action "unit_id"
  else .ok (firstOf action ["unit_id"] (.int (-1)))

def convertChangeActivity (activity : Int) (unitRequired : Bool)
    (targetKeys : List String) : Except PyError Fields := do
  let unitId ← changedUnit action unitRequired
  return [("pid", .int 222), ("unit_id", unitId),
    ("activity", .int activity),
    ("target", firstOf action targetKeys (.int (-1)))]

/-- A clause of a treaty: the giver is the sender unless named. -/
def convertClause (pid type : Int) : Except PyError Fields := do
  let counterpart ← need action "target_player_id"
  return [("pid", .int pid), ("counterpart", counterpart),
    ("giver", firstOf action ["giver", "player_id"] (.int (-1))),
    ("type", .int type), ("value", .int 0)]

def convertMessage : Except PyError Fields := do
  let message := firstOf action ["message"] (.str "")
  let targetId := firstOf action ["target_player_id"] (.int (-1))
  if ← targetId.ge 0 then
    return [("pid", .int 26), ("message", .str ("/msg "
      ++ targetId.toStr rt ++ " " ++ message.toStr rt))]
  else return [("pid", .int 26), ("message", message)]

-- ==== the converter

def convertBranch : Branch → Except PyError Fields
  | .unitMove => convertUnitMove rt civcom action
  | .cityProduction => convertCityProduction rt civcom action
  | .techResearch => convertTechResearch rt civcom action
  | .endTurn => .ok [("pid", .int 52),
      ("turn", .int ((civcom.map Mirror.gameTurn).getD 1))]
  | .unitBuildCity => convertUnitBuildCity rt civcom action
  | .serverSideAgent => do
      let unitId ← need action "unit_id"
      return [("pid", .int 74), ("unit_id", unitId), ("agent", .int 1)]
  | .changeActivity activity unitRequired targetKeys =>
    convertChangeActivity action activity unitRequired targetKeys
  | .doAction spec => convertDoAction rt civcom action spec
  | .meeting pid => do
      let counterpart ← need action "target_player_id"
      return [("pid", .int pid), ("counterpart", counterpart)]
  | .cancelPact clauseKeys clause => do
      let other ← need action "target_player_id"
      return [("pid", .int 105), ("other_player_id", other),
        ("clause", firstOf action clauseKeys (.int clause))]
  | .clause pid type => convertClause action pid type
  | .message => convertMessage rt action
  | .cityBuy => do
      let cityId ← need action "city_id"
      return [("pid", .int 34), ("city_id", cityId)]
  | .citySellImprovement => do
      let cityId ← need action "city_id"
      let buildId ← need action "improvement_id"
      return [("pid", .int 33), ("city_id", cityId), ("build_id", buildId)]
  | .cityRename => do
      let cityId ← need action "city_id"
      let name ← need action "name"
      return [("pid", .int 40), ("city_id", cityId), ("name", name)]
  | .cityWorklist => do
      let cityId ← need action "city_id"
      return [("pid", .int 35), ("city_id", cityId),
        ("production_kind", firstOf action ["production_kind"] (.int 0)),
        ("production_value", firstOf action ["production_value"] (.int 0))]

def branchOf : Option Branch :=
  ((action.get? "type").bind PyVal.str?).bind fun t => branches.lookup t

def convertImpl : Except PyError Fields :=
  match branchOf action with
  | some b => convertBranch rt civcom action b
  | none => .ok action.entries

/-- `convert_action_to_packet`; `found` says whether packets.def could
be read. -/
def convertActionToPacket (found : Bool) : Except PyError Fields :=
  (convertImpl rt civcom action).map fun p =>
    if (p.lookup "pid").isSome then sanitizePacket rt.toCharTables found p
    else p

end ActionPackets

end Freeciv3d.Proxy
