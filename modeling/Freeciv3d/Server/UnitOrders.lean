/-
The orders of a unit: `handle_unit_orders` checks and stores a list,
`execute_orders` works it off, over as many turns as it takes.

# One unit

The rest of the game is a world `W`. The rules of the game do not change;
what the code asks about the world is a function of it. What
`unit_move_handling` and `unit_perform_action` do to the unit is not
decided here: it comes with the label of a step, a `Deed`, as does
whatever happens to the unit between two executions. Either may free the
orders (`free_unit_orders`), neither gives new ones.

# Assertions

A failed `fc_assert` is logged, and the code goes on as it does with
assertions on. Reading an order outside the list ends the model.
-/
import Freeciv3d.Lib.Lts
import Freeciv3d.Server.DataioRaw

namespace Freeciv3d.Server

open Lib

def maxLenRoute : Int := 2000

def noTarget : Int := -1

/-- `A_FUTURE`, two above `MAX_NUM_ADVANCES`. -/
def advanceFuture : Int := 252

/-- `enum unit_orders`. -/
inductive OrderKind where
  | move
  | activity
  | fullMp
  | actionMove
  | performAction
  | last
  deriving DecidableEq

/-- The kind of an order; `none` above `ORDER_LAST`. -/
def UnitOrder.kind (o : UnitOrder) : Option OrderKind :=
  match enumOf o.order with
  | 0 => some .move
  | 1 => some .activity
  | 2 => some .fullMp
  | 3 => some .actionMove
  | 4 => some .performAction
  | 5 => some .last
  | _ => none

def activityIdle : Nat := 0

def activitySentry : Nat := 5

def activityLast : Nat := 18

inductive SubTargetKind where
  | nothing
  | building
  | tech
  | extra
  | extraNotThere
  deriving DecidableEq

inductive TargetKind where
  | city
  | unit
  | units
  | tile
  | extras
  | self
  deriving DecidableEq

/-- `struct action`, as far as orders ask. -/
structure ActionRule where
  subTargetKind : SubTargetKind
  targetKind : TargetKind
  /-- `target_complexity == ACT_TGT_COMPL_FLEXIBLE`. -/
  isFlexible : Bool
  /-- `utype_is_consumed_by_action(paction, NULL)`. -/
  consumesActor : Bool
  /-- `utype_is_unmoved_by_action(paction, NULL)`. -/
  leavesActor : Bool
  /-- `utype_is_moved_to_tgt_by_action(paction, NULL)`. -/
  movesToTarget : Bool
  /-- `action_has_result(paction, ACTRES_FORTIFY)`. -/
  fortifies : Bool
  removesExtra : Nat → Bool
  createsExtra : Nat → Bool

structure OrderQueue where
  length : Nat
  index : Nat
  repeats : Bool
  vigilant : Bool
  list : List UnitOrder

structure OrdUnit where
  activity : Nat
  tile : Nat
  movesLeft : Int
  doneMoving : Bool
  hasOrders : Bool
  orders : OrderQueue
  gotoTile : Option Nat

structure OrderRules (W : Type) where
  mapIndexSize : Nat
  mapstep : Nat → Int → Option Nat
  dirIsValid : Int → Bool
  numExtraTypes : Nat
  extrasFit : numExtraTypes ≤ maxExtraTypes
  /-- `improvement_by_number` finds something. -/
  isImprovement : Int → Bool
  /-- `valid_advance_by_number` finds something. -/
  isAdvance : Int → Bool
  /-- `action_by_number`, of an action that exists. -/
  action : Int → Option ActionRule
  isPlayerPhase : W → Bool
  canDoActivity : W → OrdUnit → Nat → Bool
  /-- `maybe_cancel_patrol_due_to_enemy`. -/
  enemyNear : W → OrdUnit → Bool
  /-- `maybe_cancel_goto_due_to_enemy`. -/
  enemyInWay : W → OrdUnit → Nat → Bool
  actionMpFullMakesLegal : W → OrdUnit → Int → Bool
  unitMoveRate : W → OrdUnit → Int
  tileHasCity : W → Nat → Bool
  /-- `action_tgt_unit` finds something. -/
  tileHasTarget : W → OrdUnit → Nat → Bool
  /-- `action_sub_target_id_for_action`: an extra or nothing. -/
  subTargetForAction : W → OrdUnit → Int → Option (Fin maxExtraTypes)
  tileHasExtra : W → Nat → Nat → Bool
  /-- `action_prob_possible` of the `action_prob_*` for the kind of
  target. -/
  isPossible : W → OrdUnit → TargetKind → Int → Nat → Option Nat → Bool
  /-- `action_id_get_act_time` is `ACT_TIME_INSTANTANEOUS`. -/
  isInstant : W → OrdUnit → Int → Nat → Option Nat → Bool

variable {W : Type} (G : OrderRules W)

def indexToTile (i : Int) : Option Nat :=
  if 0 ≤ i ∧ i < G.mapIndexSize then some i.toNat else none

-- ==== the checks

/-- The activities of the two lists of `unit_order_list_is_sane`. What is
in neither passes. -/
def activityIsSane (isLast : Bool) (activity : Nat) : Bool :=
  if activity = activitySentry then isLast
  else decide (activityLast < activity)

def subTargetIsSane (paction : ActionRule) (subTarget : Int) : Bool :=
  match paction.subTargetKind with
  | .building => G.isImprovement subTarget
  | .tech =>
    subTarget ≠ 0 && (G.isAdvance subTarget || subTarget = advanceFuture)
  | .extra | .extraNotThere =>
    if subTarget = noTarget ∨ subTarget < 0 ∨
        (G.numExtraTypes : Int) ≤ subTarget then
      paction.isFlexible
    else
      paction.removesExtra subTarget.toNat ||
        paction.createsExtra subTarget.toNat
  | .nothing => true

def actionMayGoOn (paction : ActionRule) : Bool :=
  !(paction.consumesActor || !(paction.leavesActor || paction.movesToTarget)
    || paction.fortifies)

def unitOrderIsSane (isLast : Bool) (o : UnitOrder) : Bool :=
  match o.kind with
  | none => false
  | some .move | some .actionMove => G.dirIsValid o.dir
  | some .activity => activityIsSane isLast (enumOf o.activity)
  | some .performAction =>
    match G.action o.action with
    | none => false
    | some paction =>
      (indexToTile G o.target).isSome && subTargetIsSane G paction
        o.subTarget && (isLast || actionMayGoOn paction)
  | some .fullMp => true
  -- "An invalid order. This is handled above."
  | some .last => true

def unitOrderListIsSane : List UnitOrder → Bool
  | [] => true
  | o :: rest =>
    unitOrderIsSane G rest.isEmpty o && unitOrderListIsSane rest

def createUnitOrders (orders : List UnitOrder) : Option (List UnitOrder) :=
  if unitOrderListIsSane G orders then some orders else none

-- ==== the packet

/-- `PACKET_UNIT_ORDERS`, for a unit of the sender. -/
structure UnitOrdersPacket where
  srcTile : Int
  length : Int
  repeats : Bool
  vigilant : Bool
  orders : Nat → UnitOrder
  destTile : Int

def freeUnitOrders (u : OrdUnit) : OrdUnit :=
  { u with
    gotoTile := if u.hasOrders then none else u.gotoTile
    orders := { u.orders with
      list := if u.hasOrders then [] else u.orders.list
      length := 0 }
    hasOrders := false }

def setUnitActivity (u : OrdUnit) (activity : Nat) : OrdUnit :=
  { u with
    activity := activity
    doneMoving :=
      if activity = activityIdle ∧ 0 < u.movesLeft then false
      else u.doneMoving }

/-- `unit_activity_handling(punit, ACTIVITY_IDLE)`; being idle is always
possible. -/
def unitActivityIdle (u : OrdUnit) : OrdUnit :=
  setUnitActivity (freeUnitOrders u) activityIdle

/-- What `handle_unit_orders` leaves, and whether it returned before the
orders were taken over. -/
structure HandledOrders where
  unit : OrdUnit
  rejected : Bool

/-- The part of `handle_unit_orders` behind the checks. -/
def storeOrders (u : OrdUnit) (p : UnitOrdersPacket)
    (list : List UnitOrder) : OrdUnit :=
  let u := freeUnitOrders u
  let u := { u with doneMoving := decide (u.movesLeft ≤ 0) }
  if p.length = 0 then u
  else
    { u with
      hasOrders := true
      orders :=
        { length := p.length.toNat
          index := 0
          repeats := p.repeats
          vigilant := p.vigilant
          list := list }
      gotoTile := if p.repeats then none else indexToTile G p.destTile }

/-- `handle_unit_orders`, up to the execution. -/
def handleUnitOrders (u : OrdUnit) (p : UnitOrdersPacket) :
    HandledOrders :=
  if 0 > p.length ∨ maxLenRoute < p.length then ⟨u, true⟩
  else if indexToTile G p.srcTile ≠ some u.tile then ⟨u, true⟩
  else
    -- "New orders implicitly abandon current activity"
    let u := if u.activity ≠ activityIdle then unitActivityIdle u else u
    if p.length = 0 then ⟨storeOrders G u p [], false⟩
    else
      match createUnitOrders G
          ((List.range p.length.toNat).map p.orders) with
      | none => ⟨u, true⟩
      | some list => ⟨storeOrders G u p list, false⟩

-- ==== the executor

inductive OrderAssert where
  | existingAction
  | onlySentry
  | existingExtra
  | knownOrder

/-- What a move or an action does to the unit, and what it returns. -/
structure Deed (W : Type) where
  world : W
  dies : Bool
  /-- `free_unit_orders` is called on the way. -/
  freed : Bool
  activity : Nat
  tile : Nat
  movesLeft : Int
  doneMoving : Bool
  res : Bool

def Deed.on (d : Deed W) (u : OrdUnit) : OrdUnit :=
  { (if d.freed then freeUnitOrders u else u) with
    activity := d.activity
    tile := d.tile
    movesLeft := d.movesLeft
    doneMoving := d.doneMoving }

/-- The head of the loop: what it does before an order is read. -/
inductive LoopHead where
  | returns (u : OrdUnit)
  | reads

def loopHead (w : W) (u : OrdUnit) (movesMade : Nat) : LoopHead :=
  if u.doneMoving then .returns u
  else if u.orders.vigilant && G.enemyNear w u then
    .returns (freeUnitOrders u)
  else if movesMade = u.orders.length then
    .returns { u with doneMoving := true }
  else .reads

def orderWaits (w : W) (u : OrdUnit) (o : UnitOrder) : Bool :=
  match o.kind with
  | some .move | some .actionMove | some .fullMp => u.movesLeft = 0
  | some .performAction => G.actionMpFullMakesLegal w u o.action
  | _ => false

/-- What the body of the `switch` does: it leaves the unit, if alive, and
goes on or returns. -/
structure OrderDone (W : Type) where
  unit : Option OrdUnit
  world : W
  goesOn : Bool
  failed : List OrderAssert

def cancelOrders (w : W) (u : OrdUnit) : OrderDone W :=
  ⟨some (freeUnitOrders u), w, false, []⟩

def doFullMp (w : W) (u : OrdUnit) : OrderDone W :=
  ⟨some { u with
    doneMoving := u.doneMoving || decide (u.movesLeft < G.unitMoveRate w u) },
    w, true, []⟩

def doActivity (w : W) (u : OrdUnit) (o : UnitOrder) : OrderDone W :=
  let activity := enumOf o.activity
  let failed :=
    if activity = activitySentry then [] else [OrderAssert.onlySentry]
  if G.canDoActivity w u activity then
    ⟨some (setUnitActivity { u with doneMoving := true } activity), w, true,
      failed⟩
  else { cancelOrders w u with failed := failed }

def doMove (w : W) (u : OrdUnit) (o : UnitOrder) (d : Deed W) :
    OrderDone W :=
  match G.mapstep u.tile o.dir with
  | none => cancelOrders w u
  | some dstTile =>
    if o.kind ≠ some .actionMove && G.enemyInWay w u dstTile then
      cancelOrders w u
    else
      let u := d.on u
      if d.dies then ⟨none, d.world, false, []⟩
      else if d.res && dstTile ≠ u.tile then
        -- "Movement succeeded but unit didn't move."
        ⟨some u, d.world, false, []⟩
      else if !d.res then cancelOrders d.world u
      else ⟨some u, d.world, true, []⟩

def subTargetId (w : W) (u : OrdUnit) (oaction : ActionRule)
    (o : UnitOrder) : Int :=
  if oaction.isFlexible && o.subTarget = noTarget then
    match G.subTargetForAction w u o.action with
    | none => noTarget
    | some e => e.val
  else o.subTarget

/-- Whether the action has its main target: what is checked before the
sub target is looked up. -/
def hasMainTarget (w : W) (u : OrdUnit) (oaction : ActionRule)
    (dstTile : Nat) : Bool :=
  !(!G.tileHasCity w dstTile && oaction.targetKind = .city) &&
    !(!G.tileHasTarget w u dstTile && oaction.targetKind = .unit)

/-- `extra_by_number`, but for `NO_TARGET`. -/
def extraByNumber (id : Int) : Option Nat × List OrderAssert :=
  if id = noTarget then (none, [])
  else if 0 ≤ id ∧ id < maxExtraTypes then (some id.toNat, [])
  else (none, [.existingExtra])

def isMoot (w : W) (oaction : ActionRule) (dstTile : Nat) :
    Option Nat → Bool
  | none => false
  | some e =>
    (oaction.subTargetKind = .extraNotThere && oaction.createsExtra e &&
      G.tileHasExtra w dstTile e) ||
    (oaction.subTargetKind = .extra && oaction.removesExtra e &&
      !G.tileHasExtra w dstTile e)

/-- The end of `ORDER_PERFORM_ACTION`, with the extra found. -/
def performOn (w : W) (u : OrdUnit) (o : UnitOrder) (oaction : ActionRule)
    (dstTile : Nat) (pextra : Option Nat) (d : Deed W) : OrderDone W :=
  if isMoot G w oaction dstTile pextra then ⟨some u, w, true, []⟩
  else if !G.isPossible w u oaction.targetKind o.action dstTile pextra then
    cancelOrders w u
  else
    let u := d.on u
    if d.dies then ⟨none, d.world, false, []⟩
    else if !d.res then cancelOrders d.world u
    else if !G.isInstant d.world u o.action dstTile pextra then
      ⟨some { u with doneMoving := true }, d.world, true, []⟩
    else ⟨some u, d.world, true, []⟩

/-- `ORDER_PERFORM_ACTION`, with the action found. -/
def doPerformAction (w : W) (u : OrdUnit) (o : UnitOrder)
    (oaction : ActionRule) (d : Deed W) : OrderDone W :=
  match indexToTile G o.target with
  | none => cancelOrders w u
  | some dstTile =>
    if !hasMainTarget G w u oaction dstTile then cancelOrders w u
    else
      let extra := extraByNumber (subTargetId G w u oaction o)
      let done := performOn G w u o oaction dstTile extra.1 d
      { done with failed := extra.2 ++ done.failed }

/-- The second `switch`. An order of no kind falls through it. -/
def doOrder (w : W) (u : OrdUnit) (o : UnitOrder) (d : Deed W) :
    OrderDone W :=
  match o.kind with
  | some .fullMp => doFullMp G w u
  | some .activity => doActivity G w u o
  | some .move | some .actionMove => doMove G w u o d
  | some .performAction =>
    match G.action o.action with
    | none => ⟨some u, w, true, [.existingAction]⟩
    | some oaction => doPerformAction G w u o oaction d
  | some .last => { cancelOrders w u with failed := [.knownOrder] }
  | none => ⟨some u, w, true, []⟩

/-- Whether the order is the last one of a list that does not repeat. -/
def isLastOrder (u : OrdUnit) : Bool :=
  !u.orders.repeats && u.orders.index + 1 = u.orders.length

/-- The unit with its orders advanced by one, which the last order frees
first. -/
def advanceOrders (u : OrdUnit) : OrdUnit :=
  let v := if isLastOrder u then freeUnitOrders u else u
  { v with orders := { v.orders with index := v.orders.index + 1 } }

def wrapOrders (u : OrdUnit) : OrdUnit :=
  if u.orders.index = u.orders.length then
    { u with orders := { u.orders with index := 0 } }
  else u

-- ==== the run

/-- A unit, if alive, with the world around it. `loop` is `moves_made`
while `execute_orders` runs. -/
structure OrderRun (W : Type) where
  unit : Option OrdUnit
  world : W
  loop : Option Nat
  failed : List OrderAssert
  misread : Bool

def OrderRun.startLoop (s : OrderRun W) (u : OrdUnit) : OrderRun W :=
  if u.activity ≠ activityIdle then
    { s with unit := some { u with doneMoving := true }, loop := none }
  else { s with unit := some u, loop := some 0 }

def OrderRun.runOrder (s : OrderRun W) (u : OrdUnit) (movesMade : Nat)
    (o : UnitOrder) (d : Deed W) : OrderRun W :=
  if o.kind = some .performAction && (G.action o.action).isNone then
    { s with
      loop := some (movesMade + 1)
      failed := s.failed ++ [.existingAction] }
  else if orderWaits G s.world u o then { s with loop := none }
  else
    let done := doOrder G s.world (advanceOrders u) o d
    { s with
      world := done.world
      failed := s.failed ++ done.failed
      unit :=
        if done.goesOn && !isLastOrder u then done.unit.map wrapOrders
        else done.unit
      loop :=
        if done.goesOn && !isLastOrder u then some (movesMade + 1)
        else none }

def OrderRun.round (s : OrderRun W) (u : OrdUnit) (movesMade : Nat)
    (d : Deed W) : OrderRun W :=
  match loopHead G s.world u movesMade with
  | .returns v => { s with unit := some v, loop := none }
  | .reads =>
    match u.orders.list[u.orders.index]? with
    | none => { s with misread := true, loop := none }
    | some o => s.runOrder G u movesMade o d

inductive OrderEvent (W : Type) where
  | packet (p : UnitOrdersPacket)
  /-- `execute_unit_orders`, at the start of a turn. -/
  | execute
  /-- The loop goes round; the deed counts if the order gets so far. -/
  | round (d : Deed W)
  /-- Something else happens to the unit or to the world. -/
  | other (d : Deed W)

def OrderRun.step (s : OrderRun W) : OrderEvent W → Option (OrderRun W)
  | .packet p =>
    match s.unit, s.loop with
    | some u, none =>
      let handled := handleUnitOrders G u p
      if handled.rejected || !handled.unit.hasOrders ||
          !G.isPlayerPhase s.world then
        some { s with unit := some handled.unit }
      else some (s.startLoop handled.unit)
    | _, _ => none
  | .execute =>
    match s.unit, s.loop with
    | some u, none => if u.hasOrders then some (s.startLoop u) else none
    | _, _ => none
  | .round d =>
    match s.unit, s.loop with
    | some u, some movesMade => some (s.round G u movesMade d)
    | _, _ => none
  | .other d =>
    match s.unit, s.loop with
    | some u, none =>
      some { s with
        world := d.world
        unit := if d.dies then none else some (d.on u) }
    | _, _ => none

def OrdUnit.fresh (tile : Nat) (movesLeft : Int) : OrdUnit where
  activity := activityIdle
  tile := tile
  movesLeft := movesLeft
  doneMoving := false
  hasOrders := false
  orders :=
    { length := 0, index := 0, repeats := false, vigilant := false,
      list := [] }
  gotoTile := none

def OrderRun.fresh (w : W) (tile : Nat) (movesLeft : Int) : OrderRun W where
  unit := some (.fresh tile movesLeft)
  world := w
  loop := none
  failed := []
  misread := false

/-- All that can happen to a unit without orders from the beginning. -/
def orderRuns : Lts (OrderRun W) (OrderEvent W) where
  init s := ∃ w tile movesLeft, s = .fresh w tile movesLeft
  step s a := s.step G a

end Freeciv3d.Server
