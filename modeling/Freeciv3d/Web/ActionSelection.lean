/-
The units of the web client and the lock of its action selection: what
`control.js` does to ask the server for the actions of a unit, and how
`action_dialog.js` moves on to the next unit.

# The objects

A unit object is shared: the table of units, the tiles and the focus
hold the same one. It is merged in place and its id never changes, so
here the table of units holds the objects, and the other three hold ids.
An array is shared, too: after a click on foreign units `current_focus`
is the very array of their tile (`FocusArray.tile`).

# What is drawn

Dialogs are here as far as their events and what they store matter. A
dialog that is closed is gone. What is drawn is left out.
-/
import Freeciv3d.Lib.Dict
import Freeciv3d.Lib.Lts

namespace Freeciv3d.Web

open Lib

inductive ActionDecision where
  | nothing
  | passive
  | active
  deriving DecidableEq

/-- `PACKET_UNIT_INFO` and `PACKET_UNIT_SHORT_INFO`; the latter has no
value in the optional fields. -/
structure UnitPacket where
  id : Nat
  owner : Nat
  tile : Nat
  type : Nat
  veteran : Nat
  activity : Nat
  transported : Bool
  homecity : Option Nat
  movesleft : Option Nat
  doneMoving : Option Bool
  ssaController : Option Nat
  hasOrders : Option Bool
  actionDecisionWant : Option ActionDecision
  actionDecisionTile : Option Int
  deriving DecidableEq

/-- A unit object: the packets merged into it, and the tiles of its
animation. -/
structure UnitRecord extends UnitPacket where
  animList : List Nat
  deriving DecidableEq

inductive FocusArray where
  | own (ids : List Nat)
  | tile (index : Nat)
  deriving DecidableEq

structure UnitTables where
  /-- The array `units` of each tile, by its index. -/
  tiles : List (List Nat)
  units : Dict Nat UnitRecord
  currentFocus : FocusArray
  urgentFocusQueue : List Nat
  threw : Bool
  deriving DecidableEq

def UnitTables.focusIds (t : UnitTables) : List Nat :=
  match t.currentFocus with
  | .own ids => ids
  | .tile index => (t.tiles[index]?).getD []

/-- `REQEST_PLAYER_INITIATED` and its siblings. -/
inductive RequestKind where
  | playerInitiated
  | backgroundRefresh
  | backgroundFastAutoAttack
  deriving DecidableEq

/-- The actions that are asked about again before they are done. -/
inductive QueriedAction where
  | bribe
  | incite
  | upgrade
  | sabotage
  deriving DecidableEq

inductive Request where
  /-- `packet_unit_get_actions`. -/
  | getActions (actorUnit targetUnit : Nat) (targetTile : Option Int)
      (targetExtra : Option Nat) (requestKind : RequestKind)
  | actionQuery (actor target : Nat) (actionType : QueriedAction)
  | cityNameSuggestion (unit : Nat)
  deriving DecidableEq

inductive FollowUp where
  | bribe
  | incite
  | upgrade
  | stealTech
  | sabotage
  deriving DecidableEq

/-- `select_tgt_unit` and `select_tgt_extra`. -/
inductive TargetKind where
  | unit
  | extra
  deriving DecidableEq

/-- An element of the page that is a dialog; there is one for the name of
a city, whichever unit founds it. -/
inductive DialogId where
  | actionSelection (actor : Nat)
  | followUp (kind : FollowUp) (actor : Nat)
  | selectTarget (kind : TargetKind) (actor : Nat)
  | cityName
  deriving DecidableEq

/-- What an action selection dialog stores; 0 for no city or unit. -/
structure Targets where
  city : Nat
  unit : Nat
  tile : Option Nat
  extra : Option Nat
  deriving DecidableEq

inductive Dialog where
  | actionSelection (actor : Nat) (targets : Targets)
  | followUp (kind : FollowUp) (actor : Nat)
  | selectTarget (kind : TargetKind) (actor : Nat) (targetTile : Option Nat)
  | cityName (actor : Nat)
  deriving DecidableEq

def Dialog.elementId : Dialog → DialogId
  | actionSelection actor _ => .actionSelection actor
  | followUp kind actor => .followUp kind actor
  | selectTarget kind actor _ => .selectTarget kind actor
  | cityName _ => .cityName

/-- `action_selection_close` takes these elements off the page. In its
selectors for the other two `#` is missing. -/
def closedElements (actor : Nat) : List DialogId :=
  [.actionSelection actor, .followUp .bribe actor, .followUp .incite actor,
    .followUp .upgrade actor, .selectTarget .unit actor,
    .selectTarget .extra actor, .cityName]

structure Selection where
  /-- `action_selection_in_progress_for`; 0 is `IDENTITY_NUMBER_ZERO`. -/
  inProgressFor : Nat
  isMoreUserInputNeeded : Bool
  actionSelectionRestart : Bool
  didNotDecide : Bool
  dialogs : List Dialog
  requests : List Request
  deriving DecidableEq

structure ClientSettings where
  /-- The keys of `players`. -/
  players : List Nat
  observing : Bool
  clientIsObserver : Bool
  nukeActive : Bool
  /-- `client_state() == C_S_RUNNING`. -/
  running : Bool
  /-- `active_city != null`. -/
  activeCity : Bool
  popupActorArrival : Bool
  autoAttack : Bool
  /-- The unit types that can do one of `auto_attack_actions`. -/
  attackTypes : List Nat
  deriving DecidableEq

/-- A field of a unit packet for whose change the handler has code. -/
inductive UnitChange where
  | position
  | owner
  | doneMoving
  deriving DecidableEq

/-- A city object. One that is known from `PACKET_CITY_SHORT_INFO` only
has no production. -/
structure CityRecord where
  tile : Nat
  productionKind : Option Int
  productionValue : Option Int
  shieldStock : Option Int
  deriving DecidableEq

structure UnitClient extends UnitTables, Selection, ClientSettings where
  cities : Dict Nat CityRecord
  noticed : List UnitChange
  deriving DecidableEq

namespace UnitClient

variable (c : UnitClient)

def gameFindUnitByNumber (id : Nat) : Option UnitRecord := c.units.get? id

/-- `index_to_tile`, of a number that may be no index. -/
def indexToTile (index : Int) : Option (List Nat) :=
  if 0 ≤ index then c.tiles[index.toNat]? else none

def unitsInFocus : List UnitRecord :=
  c.focusIds.filterMap c.gameFindUnitByNumber

def unitIsInFocus (id : Nat) : Bool := c.focusIds.contains id

def canClientIssueOrders : Bool := !c.clientIsObserver && c.running

-- ==== the lock

def shouldAskServerForActions (punit : UnitPacket) : Bool :=
  punit.actionDecisionWant == some .active
    || (punit.actionDecisionWant == some .passive && c.popupActorArrival)

def canAskServerForActions : Bool := c.inProgressFor == 0

/-- `ask_server_for_actions`: that another unit is in action selection is
only logged, and the lock is taken whether there is a tile to ask about
or not. -/
def askServerForActions (punit : UnitPacket) : UnitClient :=
  if c.observing then c
  else
    { c with
      inProgressFor := punit.id
      requests :=
        if (punit.actionDecisionTile.bind c.indexToTile).isSome then
          c.requests ++ [.getActions punit.id 0 punit.actionDecisionTile none
            .playerInitiated]
        else c.requests }

/-- `action_selection_no_longer_in_progress`: for which unit is only
logged. -/
def actionSelectionNoLongerInProgress : UnitClient :=
  { c with inProgressFor := 0, isMoreUserInputNeeded := false }

/-- The first unit in focus but `oldActor` that wants a decision. -/
def nextInFocus (oldActor : Nat) : Option UnitRecord :=
  c.unitsInFocus.find? fun funit =>
    oldActor != funit.id && c.shouldAskServerForActions funit.toUnitPacket

def actionSelectionNextInFocus (oldActor : Nat) : UnitClient :=
  match c.nextInFocus oldActor with
  | some funit => c.askServerForActions funit.toUnitPacket
  | none => c

def unitFocusUrgent (id : Nat) : UnitClient :=
  { c with urgentFocusQueue := c.urgentFocusQueue ++ [id] }

def actionDecisionRequest (actorUnit : UnitPacket) : UnitClient :=
  if !c.unitIsInFocus actorUnit.id then c.unitFocusUrgent actorUnit.id
  else if c.canClientIssueOrders && c.canAskServerForActions then
    c.askServerForActions actorUnit
  else c

def actionDecisionHandle (punit : UnitPacket) : UnitClient :=
  if c.attackTypes.contains punit.type && c.autoAttack then
    { c with
      requests := c.requests ++ [.getActions punit.id 0
        punit.actionDecisionTile none .backgroundFastAutoAttack] }
  else c.actionDecisionRequest punit

-- ==== the queue of units

/-- `act_sel_queue_may_be_done`. The message of
`action_decision_clear_want` has no answer. -/
def actSelQueueMayBeDone (actorUnit : Nat) : UnitClient :=
  if c.isMoreUserInputNeeded then c
  else
    let c :=
      if c.actionSelectionRestart then
        { c with actionSelectionRestart := false }
      else c.actionSelectionNoLongerInProgress
    if c.didNotDecide then { c with didNotDecide := false }
    else c.actionSelectionNextInFocus actorUnit

def actSelQueueDone (actorUnit : Nat) : UnitClient :=
  let c := { c with isMoreUserInputNeeded := false }
  { c.actSelQueueMayBeDone actorUnit with
    actionSelectionRestart := false
    didNotDecide := false }

/-- `$(id).remove()`. -/
def removeElement (element : DialogId) : UnitClient :=
  { c with
    dialogs := c.dialogs.filter fun dialog => dialog.elementId != element }

def actionSelectionClose : UnitClient :=
  ((closedElements c.inProgressFor).foldl removeElement c).actSelQueueDone
    c.inProgressFor

-- ==== what the lock leaves alone

@[simp] theorem tables_askServerForActions (punit : UnitPacket) :
    (c.askServerForActions punit).toUnitTables = c.toUnitTables := by
  unfold askServerForActions
  split <;> rfl

@[simp] theorem tables_actionSelectionNextInFocus (oldActor : Nat) :
    (c.actionSelectionNextInFocus oldActor).toUnitTables
      = c.toUnitTables := by
  unfold actionSelectionNextInFocus
  split <;> simp

@[simp] theorem tables_actSelQueueMayBeDone (actorUnit : Nat) :
    (c.actSelQueueMayBeDone actorUnit).toUnitTables = c.toUnitTables := by
  unfold actSelQueueMayBeDone actionSelectionNoLongerInProgress
  split
  · rfl
  · dsimp only
    split <;> split <;> simp

@[simp] theorem tables_actSelQueueDone (actorUnit : Nat) :
    (c.actSelQueueDone actorUnit).toUnitTables = c.toUnitTables :=
  tables_actSelQueueMayBeDone _ actorUnit

@[simp] theorem tables_removeElement (element : DialogId) :
    (c.removeElement element).toUnitTables = c.toUnitTables := rfl

@[simp] theorem tables_actionSelectionClose :
    c.actionSelectionClose.toUnitTables = c.toUnitTables := by
  unfold actionSelectionClose closedElements
  rw [tables_actSelQueueDone]
  simp only [List.foldl_cons, List.foldl_nil, tables_removeElement]

theorem tables_actionDecisionHandle (punit : UnitPacket) :
    ∃ queue, (c.actionDecisionHandle punit).toUnitTables
        = { c.toUnitTables with urgentFocusQueue := queue }
      ∧ ∀ id ∈ queue, id ∈ c.urgentFocusQueue ∨ id = punit.id := by
  have hsame : c.toUnitTables
      = { c.toUnitTables with urgentFocusQueue := c.urgentFocusQueue } := rfl
  unfold actionDecisionHandle actionDecisionRequest unitFocusUrgent
  split
  · exact ⟨_, hsame, fun id => Or.inl⟩
  · split
    · refine ⟨_, rfl, fun id hid => ?_⟩
      simpa using hid
    · split
      · exact ⟨_, (tables_askServerForActions c punit).trans hsame,
          fun id => Or.inl⟩
      · exact ⟨_, hsame, fun id => Or.inl⟩

end UnitClient

end Freeciv3d.Web
