/-
The goto of the web client: `control.js` asks the server for paths, keeps
them in `goto_request_map`, and on a click turns those to the tile into
`PACKET_UNIT_ORDERS`; with the steps of `map.js` and the server that
answers.

# The connection

It is first in, first out in both directions. The server tells of every
move of a unit, and `handle_web_goto_path_req` reads off the path finder
how to go from where the unit is at the server. Which way that is is left
open: any list of directions that leads there, -1 where the unit waits.

# What is left out

What is drawn, the turns a path takes, sounds and messages. A click while
no goto is active sends no orders; that it may change the focus, as
`update_unit_focus` may after a click and after a packet, is an event of
its own. The map is allocated once.
-/
import Freeciv3d.Lib.Dict
import Freeciv3d.Lib.Lts

namespace Freeciv3d.Web

open Lib

-- ==== the map

structure MapGrid where
  xsize : Nat
  ysize : Nat
  hex : Bool
  iso : Bool
  deriving DecidableEq

def dirDx : List Int := [-1, 0, 1, -1, 1, -1, 0, 1]

def dirDy : List Int := [-1, -1, -1, 0, 0, 1, 1, 1]

namespace MapGrid

variable (m : MapGrid)

def tileX (tile : Nat) : Nat := tile % m.xsize

def tileY (tile : Nat) : Nat := tile / m.xsize

def isValidDir (dir : Int) : Bool :=
  if dir = 7 ∨ dir = 0 then !(m.hex && !m.iso)
  else if dir = 2 ∨ dir = 5 then !(m.hex && m.iso)
  else dir == 1 || dir == 4 || dir == 6 || dir == 3

/-- `map_pos_to_tile`: to the east and west the map goes round. -/
def mapPosToTile (x y : Int) : Option Nat :=
  let y := if m.xsize ≤ x then y - 1 else if x < 0 then y + 1 else y
  let index := x + y * m.xsize
  if 0 ≤ index ∧ index < m.xsize * m.ysize then some index.toNat else none

def mapstep (tile : Nat) (dir : Int) : Option Nat :=
  if m.isValidDir dir then
    m.mapPosToTile (dirDx.getD dir.toNat 0 + m.tileX tile)
      (dirDy.getD dir.toNat 0 + m.tileY tile)
  else none

def walk (tile : Nat) : List Int → Option Nat
  | [] => some tile
  | dir :: rest =>
    if dir = -1 then walk tile rest
    else (m.mapstep tile dir).bind fun next => walk next rest

end MapGrid

-- ==== the packets

/-- `ORDER_MOVE` and its siblings. -/
inductive OrderKind where
  | unset
  | move
  | activity
  | fullMp
  | actionMove
  | performAction
  /-- `ORDER_LAST`: no order. -/
  | last
  deriving DecidableEq

def activityLast : Nat := 18

def actionCount : Int := 116

structure UnitOrder where
  order : OrderKind
  activity : Nat
  target : Nat
  subTarget : Nat
  action : Int
  dir : Int

structure OrdersPacket where
  unitId : Nat
  srcTile : Nat
  length : Nat
  repeated : Bool
  vigilant : Bool
  orders : List UnitOrder
  destTile : Nat

/-- `PACKET_WEB_GOTO_PATH_REQ`. -/
structure PathRequest where
  unitId : Nat
  goal : Nat
  deriving DecidableEq

/-- `PACKET_WEB_GOTO_PATH`. Its `length` is that of `dir`. -/
structure GotoPath where
  unitId : Nat
  dir : List Int
  dest : Nat
  deriving DecidableEq

/-- What `goto_request_map` has for a unit and a position. -/
inductive GotoEntry where
  /-- `true`: the server was asked. -/
  | requested
  | path (path : GotoPath)
  deriving DecidableEq

structure ActionRange where
  minDistance : Int
  maxDistance : Int
  deriving DecidableEq

-- ==== the client

structure GotoClient where
  map : MapGrid
  actions : Dict Int ActionRange
  units : Dict Nat Nat
  currentFocus : List Nat
  /-- The tiles with a city, or with units in their array. -/
  occupied : List Nat
  observer : Bool
  activeCity : Bool
  touchDevice : Bool
  gotoActive : Bool
  gotoLastOrder : OrderKind
  gotoLastAction : Int
  /-- The key is made of the unit's id and the coordinates. -/
  gotoRequestMap : Dict (Nat × Nat × Nat) GotoEntry
  deriving DecidableEq

namespace GotoClient

variable (c : GotoClient)

def key (unitId tile : Nat) : Nat × Nat × Nat :=
  (unitId, c.map.tileX tile, c.map.tileY tile)

def unitsInFocus : List (Nat × Nat) :=
  c.currentFocus.filterMap fun id =>
    (c.units.get? id).map fun tile => (id, tile)

-- ==== the paths

def updateGotoPath (path : GotoPath) : GotoClient :=
  if (c.units.get? path.unitId).isSome then
    { c with
      gotoRequestMap :=
        c.gotoRequestMap.set (c.key path.unitId path.dest) (.path path) }
  else c

/-- `request_goto_path`, with what it sends. Of `true` it is the field
`unit_id` that `update_goto_path` asks for, and there is no such unit. -/
def requestGotoPath (unitId dstX dstY : Nat) :
    GotoClient × List PathRequest :=
  if !c.gotoActive then (c, [])
  else
    match c.gotoRequestMap.get? (unitId, dstX, dstY) with
    | none =>
      ({ c with
        gotoRequestMap :=
          c.gotoRequestMap.set (unitId, dstX, dstY) .requested },
        ((c.map.mapPosToTile dstX dstY).map fun goal : Nat =>
          ({ unitId, goal } : PathRequest)).toList)
    | some .requested => (c, [])
    | some (.path path) => (c.updateGotoPath path, [])

def requestGotoPaths (tile : Nat) (c : GotoClient) :
    List Nat → GotoClient × List PathRequest
  | [] => (c, [])
  | unitId :: rest =>
    let first := c.requestGotoPath unitId (c.map.tileX tile)
      (c.map.tileY tile)
    let others := requestGotoPaths tile first.1 rest
    (others.1, first.2 ++ others.2)

/-- `check_request_goto_path`, where the mouse is on a tile. -/
def checkRequestGotoPath (tile : Nat) : GotoClient × List PathRequest :=
  if c.gotoActive then c.requestGotoPaths tile c.currentFocus else (c, [])

/-- `webgl_mapview_touch_move`: 20 units at most, and those only for which
there is nothing in the map. -/
def touchMove (tile : Nat) : GotoClient × List PathRequest :=
  if c.gotoActive then
    c.requestGotoPaths tile ((c.currentFocus.take 20).filter fun unitId =>
      (c.gotoRequestMap.get? (c.key unitId tile)).isNone)
  else (c, [])

def deactivateGoto : GotoClient :=
  { c with
    gotoActive := false
    gotoRequestMap := ∅
    gotoLastOrder := .last
    gotoLastAction := actionCount }

def activateGotoLast (lastOrder : OrderKind) (lastAction : Int) :
    GotoClient :=
  let c := { c with
    gotoActive := true
    gotoLastOrder := lastOrder
    gotoLastAction := lastAction }
  if c.currentFocus.isEmpty then c.deactivateGoto else c

def clearSelection : GotoClient :=
  { c with
    currentFocus := []
    gotoActive := false
    gotoRequestMap := ∅ }

-- ==== the orders

/-- `order_wants_direction`, of the last order. -/
def orderWantsDirection (ptile : Nat) : Bool :=
  match c.gotoLastOrder with
  | .move | .actionMove => true
  | .performAction =>
    match c.actions.get? c.gotoLastAction with
    | none => false
    | some action =>
      if 0 < action.minDistance then true
      else if action.maxDistance < 1 then false
      else c.occupied.contains ptile
  | _ => false

def emptyOrder : UnitOrder where
  order := .last
  activity := activityLast
  target := 0
  subTarget := 0
  action := actionCount
  dir := -1

def pathOrders (dir : List Int) : List UnitOrder :=
  dir.mapIdx fun i d =>
    { emptyOrder with
      order :=
        if d = -1 then .fullMp
        else if i + 1 ≠ dir.length then .move
        else .actionMove
      dir := d }

/-- The last order of the goto; it has the direction of the order it is
made from. -/
def finalOrder (ptile : Nat) (dir : Int) : UnitOrder :=
  { emptyOrder with
    order := c.gotoLastOrder
    action := c.gotoLastAction
    target := ptile
    dir }

def ordersPacket (unitId tile : Nat) (path : GotoPath) (ptile : Nat) :
    OrdersPacket :=
  let packet : OrdersPacket :=
    { unitId, srcTile := tile, length := path.dir.length, repeated := false
      vigilant := false, orders := pathOrders path.dir, destTile := ptile }
  if c.gotoLastOrder = .last then packet
  else if c.orderWantsDirection ptile then
    { packet with
      orders :=
        match packet.orders.getLast? with
        | some order =>
          packet.orders.dropLast ++ [c.finalOrder ptile order.dir]
        -- At the index -1 of an empty array; it is not sent.
        | none => [] }
  else
    { packet with
      length := packet.length + 1
      orders := packet.orders ++ [c.finalOrder ptile (-1)] }

def clearLastOrder : GotoClient :=
  { c with gotoLastOrder := .last, gotoLastAction := actionCount }

/-- What the loop of `do_map_click` over the units in focus leaves. -/
structure Ordered where
  client : GotoClient
  sent : List OrdersPacket
  through : Bool

/-- The loop of `do_map_click`. Of `true` neither length nor `unit_id` is
there, and the loop returns. -/
def orderFocus (ptile : Nat) (c : GotoClient) : List (Nat × Nat) → Ordered
  | [] => { client := c, sent := [], through := true }
  | (unitId, tile) :: rest =>
    match c.gotoRequestMap.get? (c.key unitId ptile) with
    | none => orderFocus ptile c rest
    | some .requested =>
      { client := c.clearLastOrder, sent := [], through := false }
    | some (.path path) =>
      if unitId ≠ path.unitId then
        { client := c.clearLastOrder, sent := [], through := false }
      else
        let others := orderFocus ptile c.clearLastOrder rest
        { others with
          sent := c.ordersPacket unitId tile path ptile :: others.sent }

def onFocusTile (ptile : Nat) : Bool :=
  c.unitsInFocus.head?.any fun punit : Nat × Nat => punit.2 == ptile

/-- `do_map_click`, with the orders it sends. -/
def doMapClick (ptile : Nat) : GotoClient × List OrdersPacket :=
  if c.observer then (c, [])
  else if c.activeCity then (c, [])
  else if c.onFocusTile ptile then
    (if c.gotoActive && !c.touchDevice then c.deactivateGoto else c, [])
  else if c.gotoActive then
    let ordered := orderFocus ptile c c.unitsInFocus
    (if ordered.through then ordered.client.deactivateGoto
      else ordered.client, ordered.sent)
  else (c, [])

end GotoClient

-- ==== the server

inductive ServerMessage where
  | unitInfo (unitId tile : Nat)
  | unitRemove (unitId : Nat)
  | gotoPath (path : GotoPath)
  deriving DecidableEq

def ServerMessage.deliver (units : Dict Nat Nat) :
    ServerMessage → Dict Nat Nat
  | unitInfo unitId tile => units.set unitId tile
  | unitRemove unitId => units.erase unitId
  | gotoPath _ => units

def GotoClient.receive (c : GotoClient) (message : ServerMessage) :
    GotoClient :=
  let c := { c with units := message.deliver c.units }
  match message with
  | .unitInfo _ _ => c
  | .unitRemove unitId =>
    { c with currentFocus := c.currentFocus.filter (· != unitId) }
  -- `handle_web_goto_path`
  | .gotoPath path => if c.gotoActive then c.updateGotoPath path else c

/-- The client, the units at the server, and what is on the way. -/
structure GotoSystem where
  client : GotoClient
  serverUnits : Dict Nat Nat
  requests : List PathRequest
  inbox : List ServerMessage
  deriving DecidableEq

inductive GotoAct where
  | serverMoves (unitId tile : Nat)
  | serverRemoves (unitId : Nat)
  /-- The oldest request is answered, with a path if there is one. -/
  | serverReplies (dir : Option (List Int))
  | receive
  | setFocus (ids : List Nat)
  | advanceFocus (ids : List Nat)
  | settings (occupied : List Nat) (observer activeCity touchDevice : Bool)
  | activateGoto (lastAction : Option Int)
  | deactivateGoto
  | clearSelection
  | hover (tile : Nat)
  | touchMove (tile : Nat)
  | click (ptile : Nat)

namespace GotoSystem

def ask (s : GotoSystem) (asked : GotoClient × List PathRequest) :
    GotoSystem :=
  { s with client := asked.1, requests := s.requests ++ asked.2 }

/-- `handle_web_goto_path_req`. -/
def reply (s : GotoSystem) (dir : Option (List Int)) : Option GotoSystem :=
  match s.requests, dir with
  | [], _ => none
  | _ :: rest, none => some { s with requests := rest }
  | request :: rest, some dir =>
    if ((s.serverUnits.get? request.unitId).bind fun tile =>
        s.client.map.walk tile dir) = some request.goal then
      some { s with
        requests := rest
        inbox := s.inbox ++ [.gotoPath
          { unitId := request.unitId, dir, dest := request.goal }] }
    else none

def focusable (s : GotoSystem) (ids : List Nat) : Bool :=
  ids.all fun id => s.client.units.contains id

def step (s : GotoSystem) : GotoAct → Option GotoSystem
  | .serverMoves unitId tile =>
    some { s with
      serverUnits := s.serverUnits.set unitId tile
      inbox := s.inbox ++ [.unitInfo unitId tile] }
  | .serverRemoves unitId =>
    some { s with
      serverUnits := s.serverUnits.erase unitId
      inbox := s.inbox ++ [.unitRemove unitId] }
  | .serverReplies dir => s.reply dir
  | .receive =>
    match s.inbox with
    | [] => none
    | message :: rest =>
      some { s with client := s.client.receive message, inbox := rest }
  | .setFocus ids =>
    if s.focusable ids then
      some { s with client := { s.client with currentFocus := ids } }
    else none
  | .advanceFocus ids =>
    if s.focusable ids then
      some { s with
        client := { s.client with currentFocus := ids, gotoActive := false } }
    else none
  | .settings occupied observer activeCity touchDevice =>
    some { s with
      client := { s.client with
        occupied, observer, activeCity, touchDevice } }
  | .activateGoto none =>
    some { s with client := s.client.activateGotoLast .last actionCount }
  | .activateGoto (some lastAction) =>
    some { s with
      client := s.client.activateGotoLast .performAction lastAction }
  | .deactivateGoto => some { s with client := s.client.deactivateGoto }
  | .clearSelection => some { s with client := s.client.clearSelection }
  | .hover tile => some (s.ask (s.client.checkRequestGotoPath tile))
  | .touchMove tile => some (s.ask (s.client.touchMove tile))
  | .click ptile => some { s with client := (s.client.doMapClick ptile).1 }

def init (map : MapGrid) (actions : Dict Int ActionRange) : GotoSystem where
  client :=
    { map, actions, units := ∅, currentFocus := [], occupied := []
      observer := false, activeCity := false, touchDevice := false
      gotoActive := false, gotoLastOrder := .unset, gotoLastAction := -1
      gotoRequestMap := ∅ }
  serverUnits := ∅
  requests := []
  inbox := []

end GotoSystem

def gotoRuns : Lts GotoSystem GotoAct where
  init s := ∃ map actions, s = GotoSystem.init map actions
  step := GotoSystem.step

end Freeciv3d.Web
