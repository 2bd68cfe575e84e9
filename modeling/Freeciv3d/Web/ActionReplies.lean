/-
The dialogs of the action selection and what opens and ends them: the
server's replies, the buttons, and a city packet that asks for a refresh.

# What may come

Any reply to `packet_unit_get_actions` may come at any time, also one
that was not asked for; it answers the first request it fits. An answer
to another request comes for one that is open. Which buttons a dialog
has depends on the rules; here it has all of them.
-/
import Freeciv3d.Web.UnitPackets

namespace Freeciv3d.Web

open Lib

structure UnitActions where
  actorUnitId : Nat
  targetUnitId : Nat
  targetCityId : Nat
  targetTileId : Int
  targetExtra : Option Nat
  requestKind : RequestKind
  possible : Bool
  /-- One of `auto_attack_actions` is. -/
  attackPossible : Bool

structure CityPacket where
  id : Nat
  tile : Nat
  productionKind : Int
  productionValue : Int
  shieldStock : Int

inductive ActionButton where
  | perform
  | autoAttack
  | stealTech
  | query (target : Nat) (actionType : QueriedAction)
  | foundCity
  | changeTarget (kind : TargetKind)
  | wait
  | cancel
  | close

def CityPacket.record (packet : CityPacket) : CityRecord where
  tile := packet.tile
  productionKind := some packet.productionKind
  productionValue := some packet.productionValue
  shieldStock := some packet.shieldStock

def UnitActions.answers (packet : UnitActions) : Request → Bool
  | .getActions actor _ _ _ kind =>
    actor == packet.actorUnitId && kind == packet.requestKind
  | _ => false

namespace UnitClient

variable (c : UnitClient)

-- ==== what is stored

def actionSelectionTargets : Option Targets :=
  if c.inProgressFor = 0 then
    some { city := 0, unit := 0, tile := none, extra := none }
  else
    c.dialogs.findSome? fun dialog =>
      match dialog with
      | .actionSelection actor targets =>
        if actor = c.inProgressFor then some targets else none
      | _ => none

/-- `handle_city_info`. The packet is merged into the object `pcity` is,
and then compared with it. -/
def handleCityInfo (packet : CityPacket) : Except UnitClient UnitClient :=
  let c := { c with cities := c.cities.set packet.id packet.record }
  match c.cities.get? packet.id, c.actionSelectionTargets with
  | some pcity, some targets =>
    let shieldStockChanged :=
      pcity.shieldStock ≠ some packet.shieldStock
    let productionChanged :=
      pcity.productionKind ≠ some packet.productionKind
        ∨ pcity.productionValue ≠ some packet.productionValue
    if (productionChanged ∨ shieldStockChanged)
        ∧ targets.city = packet.id then
      if pcity.tile < c.tiles.length then
        .ok { c with
          requests := c.requests ++ [.getActions c.inProgressFor
            targets.unit (some pcity.tile) targets.extra
            .backgroundRefresh] }
      else .error c
    else .ok c
  | _, _ => .ok c

-- ==== the dialogs

def openDialog (dialog : Dialog) : UnitClient :=
  let c := c.removeElement dialog.elementId
  { c with dialogs := c.dialogs ++ [dialog] }

/-- `popup_action_selection`. It does not take the lock. -/
def popupActionSelection (actorUnit : UnitRecord) (targetTile : Option Nat)
    (targetExtra targetUnit targetCity : Option Nat) :
    Except UnitClient UnitClient :=
  let c := c.removeElement (.actionSelection actorUnit.id)
  let c :=
    if c.inProgressFor ≠ 0 ∧ c.inProgressFor ≠ actorUnit.id then
      c.actionSelectionClose
    else c
  if targetUnit.isSome && targetTile.isNone then .error c
  else
    .ok { c with
      dialogs := c.dialogs ++ [.actionSelection actorUnit.id
        { city := targetCity.getD 0
          unit := targetUnit.getD 0
          tile := targetTile
          extra := targetExtra }]
      isMoreUserInputNeeded := false }

def actionDecisionMaybeAuto (actorUnit : Option UnitRecord)
    (attackPossible : Bool) (targetTile : Option Nat) :
    Except UnitClient UnitClient :=
  if attackPossible && c.autoAttack then
    if targetTile.isSome && actorUnit.isSome then .ok c else .error c
  else
    match actorUnit with
    | some actorUnit => .ok (c.actionDecisionRequest actorUnit.toUnitPacket)
    | none => .ok c

def handleUnitActions (packet : UnitActions) :
    Except UnitClient UnitClient :=
  let pdiplomat := c.gameFindUnitByNumber packet.actorUnitId
  let targetUnit :=
    (c.gameFindUnitByNumber packet.targetUnitId).map fun u : UnitRecord => u.id
  let targetCity :=
    if c.cities.contains packet.targetCityId then some packet.targetCityId
    else none
  let ptile :=
    (c.indexToTile packet.targetTileId).map fun _ => packet.targetTileId.toNat
  let hasActions := pdiplomat.isSome && ptile.isSome && packet.possible
  match packet.requestKind with
  | .playerInitiated =>
    match pdiplomat, hasActions with
    | some actorUnit, true =>
      c.popupActionSelection actorUnit ptile packet.targetExtra targetUnit
        targetCity
    | _, _ =>
      .ok (c.actionSelectionNoLongerInProgress.actionSelectionNextInFocus
        packet.actorUnitId)
  | .backgroundRefresh =>
    match pdiplomat with
    | none => .error c
    | some actorUnit =>
      (c.removeElement (.actionSelection actorUnit.id)).popupActionSelection
        actorUnit ptile packet.targetExtra targetUnit targetCity
  | .backgroundFastAutoAttack =>
    c.actionDecisionMaybeAuto pdiplomat packet.attackPossible ptile

def actionSelectionClick (actor : Nat) (targets : Targets) :
    ActionButton → Except UnitClient UnitClient
  | .perform | .cancel | .close =>
    .ok ((c.removeElement (.actionSelection actor)).actSelQueueMayBeDone
      actor)
  | .autoAttack =>
    .ok (({ c with autoAttack := true } : UnitClient).removeElement
      (.actionSelection actor) |>.actSelQueueMayBeDone actor)
  | .stealTech =>
    if (c.gameFindUnitByNumber actor).isSome
        && c.cities.contains targets.city then
      .ok { (c.openDialog (.followUp .stealTech actor)).removeElement
        (.actionSelection actor) with isMoreUserInputNeeded := true }
    else .error c
  | .query target actionType =>
    .ok { c.removeElement (.actionSelection actor) with
      requests := c.requests ++ [.actionQuery actor target actionType]
      isMoreUserInputNeeded := true }
  | .foundCity =>
    .ok { c.removeElement (.actionSelection actor) with
      requests := c.requests ++ [.cityNameSuggestion actor]
      isMoreUserInputNeeded := true }
  | .changeTarget kind =>
    .ok (({ c.openDialog (.selectTarget kind actor targets.tile) with
      actionSelectionRestart := true } : UnitClient).removeElement
        (.actionSelection actor) |>.actSelQueueMayBeDone actor)
  | .wait =>
    .ok (({ c with didNotDecide := true } : UnitClient).removeElement
      (.actionSelection actor) |>.actSelQueueMayBeDone actor)

def followUpDone (kind : FollowUp) (actor : Nat) : UnitClient :=
  (c.removeElement (.followUp kind actor)).actSelQueueDone actor

def chooseTarget (kind : TargetKind) (actor targetUnit : Nat)
    (targetTile targetExtra : Option Nat) : UnitClient :=
  { c.removeElement (.selectTarget kind actor) with
    requests := c.requests ++ [.getActions actor targetUnit
      (targetTile.map fun tile => (tile : Int)) targetExtra
      .playerInitiated] }

def closeTarget (kind : TargetKind) (actor : Nat) : UnitClient :=
  (c.removeElement (.selectTarget kind actor)).actSelQueueMayBeDone actor

def cityNameDone (actor : Nat) : UnitClient :=
  (c.removeElement .cityName).actSelQueueDone actor

-- ==== answers to the follow-ups

/-- `handle_unit_action_answer`; none for `ACTION_COUNT`. -/
def handleUnitActionAnswer (actor target : Nat)
    (actionType : Option QueriedAction) : UnitClient :=
  match c.gameFindUnitByNumber actor with
  | none => c.actSelQueueDone actor
  | some _ =>
    match actionType with
    | some .bribe =>
      if (c.gameFindUnitByNumber target).isSome then
        c.openDialog (.followUp .bribe actor)
      else c.actSelQueueDone actor
    | some .incite =>
      if c.cities.contains target then
        c.openDialog (.followUp .incite actor)
      else c.actSelQueueDone actor
    | some .upgrade =>
      if c.cities.contains target then
        c.openDialog (.followUp .upgrade actor)
      else c.actSelQueueDone actor
    | _ => c.actSelQueueDone actor

def handleCitySabotageList (actor : Nat) : Except UnitClient UnitClient :=
  if (c.gameFindUnitByNumber actor).isSome then
    .ok (c.openDialog (.followUp .sabotage actor))
  else .error c

end UnitClient

-- ==== the runs

inductive SelectionAct where
  /-- A packet about units, or a change of the focus. -/
  | units (act : UnitAct)
  | selectUnits (ids : List Nat)
  | cityInfo (packet : CityPacket)
  | unitActions (packet : UnitActions)
  /-- `PACKET_UNIT_ACTION_ANSWER` to an open request. -/
  | actionAnswer (i : Nat) (actionType : Option QueriedAction)
  /-- `PACKET_CITY_SABOTAGE_LIST` to an open request. -/
  | sabotageList (i : Nat)
  /-- `PACKET_CITY_NAME_SUGGESTION_INFO` to an open request. -/
  | nameSuggestion (i : Nat)
  | click (i : Nat) (button : ActionButton)
  | followUpDone (i : Nat)
  | chooseTarget (i targetUnit : Nat) (targetExtra : Option Nat)
  | closeTarget (i : Nat)
  | cityNameDone (i : Nat)

namespace UnitClient

def withoutRequest (c : UnitClient) (i : Nat) : UnitClient :=
  { c with requests := c.requests.eraseIdx i }

/-- One event. Requests and dialogs are addressed by their positions. -/
def selectionStep (c : UnitClient) : SelectionAct → Option UnitClient
  | .units act => c.step act
  | .selectUnits ids =>
    if ids.all fun id => (c.gameFindUnitByNumber id).isSome then
      some (({ c with currentFocus := .own ids } :
        UnitClient).actionSelectionNextInFocus 0)
    else none
  | .cityInfo packet => some (settle (c.handleCityInfo packet))
  | .unitActions packet =>
    some (settle (({ c with
      requests := c.requests.eraseP packet.answers } :
        UnitClient).handleUnitActions packet))
  | .actionAnswer i actionType =>
    match c.requests[i]? with
    | some (.actionQuery actor target _) =>
      some ((c.withoutRequest i).handleUnitActionAnswer actor target
        actionType)
    | _ => none
  | .sabotageList i =>
    match c.requests[i]? with
    | some (.actionQuery actor _ _) =>
      some (settle ((c.withoutRequest i).handleCitySabotageList actor))
    | _ => none
  | .nameSuggestion i =>
    match c.requests[i]? with
    | some (.cityNameSuggestion actor) =>
      some ((c.withoutRequest i).openDialog (.cityName actor))
    | _ => none
  | .click i button =>
    match c.dialogs[i]? with
    | some (.actionSelection actor targets) =>
      some (settle (c.actionSelectionClick actor targets button))
    | _ => none
  | .followUpDone i =>
    match c.dialogs[i]? with
    | some (.followUp kind actor) => some (c.followUpDone kind actor)
    | _ => none
  | .chooseTarget i targetUnit targetExtra =>
    match c.dialogs[i]? with
    | some (.selectTarget kind actor targetTile) =>
      some (c.chooseTarget kind actor targetUnit targetTile targetExtra)
    | _ => none
  | .closeTarget i =>
    match c.dialogs[i]? with
    | some (.selectTarget kind actor _) => some (c.closeTarget kind actor)
    | _ => none
  | .cityNameDone i =>
    match c.dialogs[i]? with
    | some (.cityName actor) => some (c.cityNameDone actor)
    | _ => none

end UnitClient

/-- The events of the action selection, in any order. -/
def selectionRuns : Lts UnitClient SelectionAct where
  init c := ∃ settings, c = UnitClient.init settings
  step := UnitClient.selectionStep

end Freeciv3d.Web
