/-
The packets about units in the web client: `handle_map_info`'s new
tiles, `handle_unit_info`, `handle_unit_short_info` and
`handle_unit_remove`, with what they call in `unit.js`, `control.js` and
`player.js`.

# Exceptions

A handler that throws leaves the client as it was at that point
(`Except.error`). Two things throw here: `player_find_unit_by_id` returns
`NULL`, which is no name, and `update_unit_position` reads the height of
a tile that may not be there. What else drawing and dialogs do is left
out.

# The next unit

`find_best_focus_candidate` sorts the units by a comparison that is no
order, so which of them comes first is up to the browser. Which unit it
returns is left open: one that is there, or none.
-/
import Freeciv3d.Web.ActionSelection

namespace Freeciv3d.Web

open Lib

-- ==== merging

/-- `$.extend`: a field the packet has not keeps its value. -/
def UnitPacket.extend (old packet : UnitPacket) : UnitPacket :=
  { packet with
    homecity := packet.homecity.or old.homecity
    movesleft := packet.movesleft.or old.movesleft
    doneMoving := packet.doneMoving.or old.doneMoving
    ssaController := packet.ssaController.or old.ssaController
    hasOrders := packet.hasOrders.or old.hasOrders
    actionDecisionWant :=
      packet.actionDecisionWant.or old.actionDecisionWant
    actionDecisionTile :=
      packet.actionDecisionTile.or old.actionDecisionTile }

def updateUnitAnimList (old : UnitRecord) (new : UnitPacket) : List Nat :=
  if new.tile = old.tile then old.animList
  else if new.transported then []
  else
    let list :=
      if old.animList.contains old.tile then old.animList
      else old.animList ++ [old.tile]
    if old.animList.contains new.tile then list else list ++ [new.tile]

def UnitRecord.merge (old : UnitRecord) (packet : UnitPacket) : UnitRecord :=
  { old.toUnitPacket.extend packet with
    animList := updateUnitAnimList old packet }

/-- `ACTIVITY_IDLE != punit.activity || punit.has_orders`. -/
def UnitPacket.busy (punit : UnitPacket) : Bool :=
  punit.activity != 0 || punit.hasOrders == some true

def UnitPacket.ready (punit : UnitPacket) : Bool :=
  punit.movesleft.any (0 < ·) && punit.doneMoving == some false
    && punit.ssaController == some 0 && punit.activity == 0

namespace UnitClient

variable (c : UnitClient)

-- ==== the tiles

def mapAllocate (xsize ysize : Nat) : UnitClient :=
  { c with
    tiles := List.replicate (xsize * ysize) []
    currentFocus := .own c.focusIds }

def clearTileUnit (punit : UnitPacket) : UnitClient :=
  { c with tiles := c.tiles.modify punit.tile fun ids => ids.erase punit.id }

def updateTileUnit (punit : UnitPacket) : UnitClient :=
  { c with
    tiles := c.tiles.modify punit.tile fun ids =>
      if ids.contains punit.id then ids else ids ++ [punit.id] }

/-- `update_unit_position`: it reads the height of the tile. -/
def updateUnitPosition (tile : Nat) : Except UnitClient UnitClient :=
  if tile < c.tiles.length then .ok c else .error c

/-- `player_find_unit_by_id`; none if it throws. -/
def playerFindUnitById (owner id : Nat) : Option (Option UnitRecord) :=
  match c.units.get? id with
  | none => some none
  | some punit =>
    if c.players.contains owner || !c.players.contains punit.owner then
      some (some punit)
    else none

-- ==== the focus

/-- `set_unit_focus`, and `set_unit_focus_and_redraw`. -/
def setUnitFocus (punit : Option UnitRecord) :
    Except UnitClient UnitClient :=
  match punit with
  | none => .ok { c with currentFocus := .own [] }
  | some punit =>
    (({ c with currentFocus := .own [punit.id] } :
      UnitClient).actionSelectionNextInFocus 0).updateUnitPosition punit.tile

/-- The loop of `advance_unit_focus` over the queue: the candidate and
the units that need no attention any more; an error with the latter if a
unit is not there. -/
def scanUrgent (focusTile : Option Nat) :
    List Nat → Option UnitRecord → List Nat →
      Except (List Nat) (Option UnitRecord × List Nat)
  | [], candidate, stale => .ok (candidate, stale)
  | id :: rest, candidate, stale =>
    match c.units.get? id with
    | none => .error stale
    | some punit =>
      if punit.busy
          && !c.shouldAskServerForActions punit.toUnitPacket then
        scanUrgent focusTile rest candidate (punit.id :: stale)
      else if focusTile.all (· == punit.tile) then
        .ok (some punit, stale)
      else scanUrgent focusTile rest (candidate.or (some punit)) stale

/-- `advance_unit_focus`, where `find_best_focus_candidate` returns
`best`. -/
def advanceUnitFocus (best : Option Nat) : Except UnitClient UnitClient :=
  if c.clientIsObserver || c.nukeActive then .ok c
  else
    let focusTile :=
      c.unitsInFocus.head?.map fun funit : UnitRecord => funit.tile
    match c.scanUrgent focusTile c.urgentFocusQueue none [] with
    | .error stale =>
      .error { c with
        urgentFocusQueue :=
          c.urgentFocusQueue.filter fun id => !stale.contains id }
    | .ok (candidate, stale) =>
      let c := { c with
        urgentFocusQueue := c.urgentFocusQueue.filter fun id =>
          !stale.contains id
            && candidate.all fun punit : UnitRecord => punit.id != id }
      c.setUnitFocus (candidate.or (best.bind c.gameFindUnitByNumber))

def updateUnitFocus (best : Option Nat) : Except UnitClient UnitClient :=
  if c.activeCity || c.nukeActive then .ok c
  else if !c.running then .ok c
  else if !c.canAskServerForActions && !c.focusIds.isEmpty then .ok c
  else if c.unitsInFocus.any fun punit => punit.ready then .ok c
  else c.advanceUnitFocus best

def controlUnitKilled (punit : UnitRecord) (best : Option Nat) :
    Except UnitClient UnitClient :=
  let c := { c with
    urgentFocusQueue := c.urgentFocusQueue.filter (· != punit.id) }
  if c.unitIsInFocus punit.id then
    if c.focusIds.length = 1 then c.advanceUnitFocus best
    else
      .ok { c with currentFocus := .own (c.focusIds.filter (· != punit.id)) }
  else .ok c

def clientRemoveUnit (punit : UnitRecord) (best : Option Nat) :
    Except UnitClient UnitClient :=
  (c.controlUnitKilled punit best).map fun c =>
    { c with
      currentFocus :=
        if c.unitIsInFocus punit.id then .own [] else c.currentFocus
      units := c.units.erase punit.id }

-- ==== the handlers

/-- `handle_unit_remove`, of `packet['unit_id']`. -/
def handleUnitRemove (unitId : Nat) (best : Option Nat) :
    Except UnitClient UnitClient :=
  match c.gameFindUnitByNumber unitId with
  | none => .ok c
  | some punit =>
    let c :=
      if c.inProgressFor = punit.id then
        c.actionSelectionClose.actionSelectionNextInFocus punit.id
      else c
    ((c.clearTileUnit punit.toUnitPacket).clientRemoveUnit punit
      best).bind fun c => c.updateUnitPosition punit.tile

def notice (change : UnitChange) : UnitClient :=
  { c with noticed := c.noticed ++ [change] }

/-- `handle_unit_packet_common` once the unit is merged. For a unit in
front of the focus, `done_moving` is compared after that. -/
def unitPacketMerged (packet : UnitPacket) (oldTile : Option Nat)
    (best : Option Nat) : Except UnitClient UnitClient :=
  let c := c.updateTileUnit packet
  let focused : Except UnitClient UnitClient :=
    if c.focusIds.head? = some packet.id
        ∧ (c.gameFindUnitByNumber packet.id).bind
            (fun punit => punit.doneMoving) ≠ packet.doneMoving then
      (c.notice .doneMoving).updateUnitFocus best
    else .ok c
  focused.bind fun c =>
    (match oldTile with
      | some tile => c.updateUnitPosition tile
      | none => .ok c).bind fun c => c.updateUnitPosition packet.tile

def handleUnitPacketCommon (packet : UnitPacket) (best : Option Nat) :
    Except UnitClient UnitClient :=
  match c.playerFindUnitById packet.owner packet.id with
  | none => .error c
  | some found =>
    let c :=
      match found with
      | some punit => c.clearTileUnit punit.toUnitPacket
      | none => c
    match c.gameFindUnitByNumber packet.id, found with
    | none, _ =>
      let c :=
        if c.shouldAskServerForActions packet then
          c.actionDecisionHandle packet
        else c
      ({ c with
        units := c.units.set packet.id { packet with animList := [] }
        } : UnitClient).unitPacketMerged packet none best
    | some _, none =>
      -- `handle_unit_remove` is given the id for a packet and finds
      -- no unit; then a field of `punit` is read, which is null.
      .error (c.notice .owner)
    | some old, some punit =>
      let c :=
        if (punit.actionDecisionWant ≠ packet.actionDecisionWant
              ∨ punit.actionDecisionTile ≠ packet.actionDecisionTile)
            ∧ c.shouldAskServerForActions packet = true then
          c.actionDecisionHandle packet
        else c
      let c := if packet.tile ≠ old.tile then c.notice .position else c
      ({ c with units := c.units.set packet.id (old.merge packet)
        } : UnitClient).unitPacketMerged packet (some punit.tile) best

def handleUnitInfo (packet : UnitPacket) (best : Option Nat) :
    Except UnitClient UnitClient := c.handleUnitPacketCommon packet best

def handleUnitShortInfo (packet : UnitPacket) (best : Option Nat) :
    Except UnitClient UnitClient := c.handleUnitPacketCommon packet best

def settle : Except UnitClient UnitClient → UnitClient
  | .ok c => c
  | .error c => { c with threw := true }

end UnitClient

-- ==== the runs

/-- A packet about the units, or a change of the focus. -/
inductive UnitAct where
  | mapInfo (xsize ysize : Nat)
  | unitInfo (packet : UnitPacket) (best : Option Nat)
  | unitShortInfo (packet : UnitPacket) (best : Option Nat)
  | unitRemove (unitId : Nat) (best : Option Nat)
  | setUnitFocus (unitId : Option Nat)
  | advanceUnitFocus (best : Option Nat)
  | focusTile (index : Nat)
  | settings (settings : ClientSettings)

namespace UnitClient

def init (settings : ClientSettings) : UnitClient where
  tiles := []
  units := ∅
  currentFocus := .own []
  urgentFocusQueue := []
  inProgressFor := 0
  isMoreUserInputNeeded := false
  actionSelectionRestart := false
  didNotDecide := false
  dialogs := []
  requests := []
  toClientSettings := settings
  cities := ∅
  noticed := []
  threw := false

def step (c : UnitClient) : UnitAct → Option UnitClient
  | .mapInfo xsize ysize => some (c.mapAllocate xsize ysize)
  | .unitInfo packet best => some (settle (c.handleUnitInfo packet best))
  | .unitShortInfo packet best =>
    some (settle (c.handleUnitShortInfo packet best))
  | .unitRemove unitId best => some (settle (c.handleUnitRemove unitId best))
  | .setUnitFocus none => some (settle (c.setUnitFocus none))
  | .setUnitFocus (some unitId) =>
    (c.gameFindUnitByNumber unitId).map fun punit =>
      settle (c.setUnitFocus (some punit))
  | .advanceUnitFocus best => some (settle (c.advanceUnitFocus best))
  | .focusTile index =>
    if index < c.tiles.length then
      some { c with currentFocus := .tile index }
    else none
  | .settings settings => some { c with toClientSettings := settings }

end UnitClient

def unitRuns : Lts UnitClient UnitAct where
  init c := ∃ settings, c = UnitClient.init settings
  step := UnitClient.step

end Freeciv3d.Web
