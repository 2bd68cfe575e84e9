/-
`_handle_action` with its local moves tracking, and the runs of one
agent's actions against the civserver's own move counters: the tracking
never blocks an action of a unit that has moves left on the server.

# The pre-submission check

Before the validator, an action that needs moves is checked against the
cached `moves_left` less the actions already counted
(`unit_moves_consumed`); the counts are dropped when the turn of the
state changes.

# The runs

`MovesWorld` sets the handler against the server's counters. Nothing
ties the two together but the steps: an accepted action costs the
server's unit one move or more, and any packet may arrive at any time,
with any content.

# Why

The counts could well be wrong, in both directions: the cached
`moves_left` may or may not include the actions already counted. But
the check never gets to compare them. `get_full_state` keys its units
by strings, the check asks with an integer, so it finds no unit
(`cachedUnit_recordsValue`), and without a unit it passes
(`preSubmission_full_state`).
-/
import Freeciv3d.Lib.Lts
import Freeciv3d.Proxy.ActionPackets
import Freeciv3d.Proxy.ActionSanitizer
import Freeciv3d.Proxy.ActionValidator

namespace Freeciv3d.Proxy

open Lib

-- ==== states as dicts

/-- A dict of records with string keys, as a value. -/
def recordsValue {ρ : Type} (record : ρ → StateDict) (d : Dict String ρ) :
    PyVal :=
  .dict (d.entries.map fun e => (.str e.1, .dict (record e.2)))

/-- The fields of a unit record that an action is checked against. -/
def UnitInfo.toDict (u : UnitInfo) : StateDict :=
  [(.str "id", .int u.id), (.str "owner", .int u.owner),
    (.str "type", .str u.type), (.str "moves_left", .int u.movesLeft)]

/-- The fields of a city record that an action is checked against. -/
def CityInfo.toDict (c : CityInfo) : StateDict :=
  [(.str "id", .int c.id), (.str "owner", .int c.owner)]

/-- The field of a player record that an action is checked against. -/
def PlayerInfo.toDict (p : PlayerInfo) : StateDict :=
  [(.str "id", .int p.id)]

/-- The sections of a full state that `_handle_action` and the
validator read. -/
def FullState.toDict (s : FullState) : StateDict :=
  [(.str "turn", .int s.sections.turn),
    (.str "units", recordsValue UnitInfo.toDict s.units),
    (.str "cities", recordsValue CityInfo.toDict s.cities),
    (.str "players", recordsValue PlayerInfo.toDict s.sections.players)]

namespace MovesTracking

open ActionValidator

def unitActionsRequiringMoves : List String :=
  ["unit_move", "unit_sentry", "unit_fortify", "unit_board", "unit_unload",
    "unit_build_road", "unit_build_mine", "unit_build_irrigation",
    "unit_pillage", "unit_explore"]

/-- `action_type in UNIT_ACTIONS_REQUIRING_MOVES`. -/
def requiresMoves (action : PyDict) : Bool :=
  match action.get? "type" with
  | some (.str t) => unitActionsRequiringMoves.contains t
  | _ => false

structure Tracking where
  lastTrackedTurn : PyVal
  unitMovesConsumed : Dict Int Int

namespace Tracking

/-- `LLMWSHandler.__init__`. -/
def init : Tracking := ⟨.null, ∅⟩

def onTurn (t : Tracking) (turn : PyVal) : Tracking :=
  if turn.isNull || turn.eq t.lastTrackedTurn then t
  else ⟨turn, ∅⟩

/-- `unit_moves_consumed[unit] += 1`. -/
def consume (t : Tracking) (unit : Int) : Tracking :=
  let consumed := (t.unitMovesConsumed.get? unit).getD 0
  { t with unitMovesConsumed := t.unitMovesConsumed.set unit (consumed + 1) }

end Tracking

-- ==== the two early steps

/-- `sanitized_action['player_id'] = self.player_id`, unless it is
there. -/
def withPlayer (playerId : Int) (action : PyDict) : PyDict :=
  if action.contains "player_id" then action
  else action.set "player_id" (.int playerId)

variable (rt : PyRuntime)

def unitsById : List PyVal → Except PyError StateDict
  | [] => .ok []
  | .dict u :: rest =>
    if (getField u "id").isNull then unitsById rest
    else do
      let n ← (getField u "id").toInt rt.toCharTables
      let later ← unitsById rest
      -- a later unit replaces an earlier one
      if (later.lookup (.int n)).isSome then return later
      else return (.int n, .dict u) :: later
  | _ :: rest => unitsById rest

/-- `units.get(unit_id_int)` on the units of a state. -/
def cachedUnit (units : PyVal) (unitId : PyVal) :
    Except PyError (Option (Int × PyVal)) := do
  let units ← match units with
    | .list items => (unitsById rt items).map .dict
    | u => .ok u
  if !units.truthy then return none
  match unitId.toInt rt.toCharTables with
  | .error (.valueError _) => return none
  | .error .typeError => return none
  | .error e => throw e
  | .ok n =>
    match units with
    | .dict entries => return (entries.lookup (.int n)).map fun u => (n, u)
    | _ => throw .attributeError

/-- The comparison of the cached moves with those consumed. -/
def checkMoves (t : Tracking) (unitId : PyVal) :
    Option (Int × PyVal) → Except Stop Unit
  | none => .ok ()
  | some (n, unit) => do
      if !unit.truthy then return ()
      let cached ← python (unit.get? "moves_left")
      let out ← python ((cached.getD (.int 0)).le
        ((t.unitMovesConsumed.get? n).getD 0))
      if out then
        validationError "E024" ("Unit " ++ unitId.toStr rt
          ++ " has no moves remaining (pre-submission validation)")
      else return ()

/-- The check of a unit against the units of a state. -/
def checkUnit (t : Tracking) (gameState : Option StateDict)
    (unitId : PyVal) : Except Stop Unit :=
  match stateSection gameState "units" with
  | none => .ok ()
  | some units => do
      let found ← python (cachedUnit rt units unitId)
      checkMoves rt t unitId found

/-- The pre-submission check of a sanitised action against a state, and
the tracking fields after it. -/
def preSubmission (t : Tracking) (gameState : Option StateDict)
    (action : PyDict) : Tracking × Except Stop Unit :=
  if requiresMoves action && (actingUnit action).truthy then
    let t := t.onTurn ((stateSection gameState "turn").getD .null)
    (t, checkUnit rt t gameState (actingUnit action))
  else (t, .ok ())

-- ==== the whole handler

inductive Reply where
  /-- `action_rejected`. -/
  | rejected (errorCode errorMessage : String)
  /-- `error`. -/
  | failed (code : String)
  /-- `action_accepted`, and the packet that was sent. -/
  | accepted (packet : ActionPackets.Fields)

/-- The answer when a check stops the action; an exception is E132. -/
def Reply.ofStop : Stop → Reply
  | .rejected code message => .rejected code message
  | .raised _ => .failed "E132"

/-- The unit whose move is counted when an action was sent. -/
def countedUnit (action : PyDict) : Option Int :=
  if requiresMoves action then
    match (actingUnit action).toInt rt.toCharTables with
    | .ok n => some n
    | .error _ => none
  else none

/-- The validator, the converter and the count, after the check. -/
def submitChecked (found : Bool) (m : Mirror) (playerId : Int)
    (t : Tracking) (action : PyDict) (gameState : Option StateDict) :
    Tracking × Reply :=
  match validateAction rt action playerId gameState with
  | .error e => (t, .ofStop e)
  | .ok () =>
    match ActionPackets.convertActionToPacket rt (some m) action found with
    | .error _ => (t, .failed "E132")
    | .ok packet =>
      ((countedUnit rt action).elim t t.consume, .accepted packet)

/-- `_handle_action` from the sanitizer on. Every state it asks for is
built from the mirror the first one leaves, with the same units. -/
def handleAction (found : Bool) (m : Mirror) (playerId : Int)
    (t : Tracking) (action : PyDict) : Mirror × Tracking × Reply :=
  match ActionSanitizer.sanitizeActionData rt action with
  | .error (.custom e) =>
    (m, t, .rejected "S001" ("Input sanitization failed: " ++ e))
  | .error _ => (m, t, .failed "E132")
  | .ok s =>
    let s := withPlayer playerId s
    let (m, state) := m.getFullState playerId
    match preSubmission rt t (some state.toDict) s with
    | (t, .error e) => (m, t, .ofStop e)
    | (t, .ok ()) =>
      (m, submitChecked rt found m playerId t s (some state.toDict))

end MovesTracking

-- ==== the runs

open MovesTracking

/-- One agent's handler and the counters of the civserver. -/
structure MovesWorld where
  playerId : Int
  mirror : Mirror
  tracking : Tracking
  /-- The server's `moves_left` of each unit. -/
  server : Dict Int Int

inductive MovesEvent where
  /-- The agent sends an action; if it is accepted, its unit loses
  `spent + 1` moves, or all it has. -/
  | submit (action : PyDict) (spent : Nat)
  | unitInfo (u : UnitInfo)
  | turnInfo (turn : Int)
  /-- The server sets a counter, as at the start of a turn. -/
  | serverMoves (unit moves : Int)

namespace MovesWorld

variable (rt : PyRuntime) (found : Bool)

/-- What an accepted action costs its unit on the server. -/
def spend (server : Dict Int Int) (unit : Option Int) (spent : Nat) :
    Dict Int Int :=
  unit.elim server fun u =>
    server.modify u fun moves => max 0 (moves - (spent + 1))

/-- The unit an action orders, as the packet names it. -/
def orderedUnit (packet : ActionPackets.Fields) : Option Int :=
  match (packet.lookup "unit_id").or (packet.lookup "actor_id") with
  | some (.int u) => some u
  | _ => none

def submit (w : MovesWorld) (action : PyDict) (spent : Nat) : MovesWorld :=
  match handleAction rt found w.mirror w.playerId w.tracking action with
  | (m, t, .accepted packet) =>
    { w with mirror := m, tracking := t
             server := spend w.server (orderedUnit packet) spent }
  | (m, t, _) => { w with mirror := m, tracking := t }

def step (w : MovesWorld) : MovesEvent → MovesWorld
  | .submit action spent => w.submit rt found action spent
  | .unitInfo u =>
    { w with mirror :=
        { w.mirror with playerUnits := w.mirror.playerUnits.set u.id u } }
  | .turnInfo turn => { w with mirror := { w.mirror with gameTurn := turn } }
  | .serverMoves unit moves =>
    { w with server := w.server.set unit moves }

/-- A run starts with the handler's fields as `__init__` sets them. -/
def runs : Lts MovesWorld MovesEvent where
  init w := w.tracking = .init
  step w e := some (w.step rt found e)

/-- The answer of the pre-submission check to an action, when the
sanitizer lets it through. -/
def checked (w : MovesWorld) (action : PyDict) : Option (Except Stop Unit) :=
  match ActionSanitizer.sanitizeActionData rt action with
  | .error _ => none
  | .ok s => some (preSubmission rt w.tracking
      (some (w.mirror.getFullState w.playerId).2.toDict)
      (withPlayer w.playerId s)).2

end MovesWorld

open ActionValidator

variable {rt : PyRuntime}

-- ==== the lookup

theorem lookup_int_recordsValue {ρ : Type} (record : ρ → StateDict)
    (entries : List (String × ρ)) (n : Int) :
    (entries.map fun e =>
      (PyKey.str e.1, PyVal.dict (record e.2))).lookup (.int n) = none := by
  induction entries with
  | nil => rfl
  | cons e rest ih =>
    have hne : (PyKey.int n == PyKey.str e.1) = false := by simp
    rw [List.map_cons, List.lookup_cons, hne]
    exact ih

/-- The check finds no unit in a dict with string keys: it may raise on
the number, and has nothing to compare otherwise. -/
theorem cachedUnit_recordsValue {ρ : Type} (record : ρ → StateDict)
    (d : Dict String ρ) (unitId : PyVal)
    {found : Option (Int × PyVal)}
    (h : cachedUnit rt (recordsValue record d) unitId = .ok found) :
    found = none := by
  have hlookup := lookup_int_recordsValue record d.entries
  simp only [cachedUnit, recordsValue, bind, Except.bind, pure,
    Except.pure] at h
  split at h
  · cases h
    rfl
  · split at h
    next => cases h; rfl
    next => cases h; rfl
    next => cases h
    next n _ =>
      rw [hlookup n] at h
      cases h
      rfl

theorem stateSection_units (s : FullState) :
    stateSection (some s.toDict) "units"
      = some (recordsValue UnitInfo.toDict s.units) := rfl

theorem checkUnit_full_state (t : Tracking) (s : FullState)
    (unitId : PyVal) (code message : String) :
    checkUnit rt t (some s.toDict) unitId
      ≠ .error (.rejected code message) := by
  intro h
  simp only [checkUnit, stateSection_units] at h
  cases hc : cachedUnit rt (recordsValue UnitInfo.toDict s.units) unitId with
  | error e =>
    rw [hc] at h
    cases h
  | ok found =>
    rw [hc, cachedUnit_recordsValue _ _ _ hc] at h
    cases h

theorem preSubmission_full_state (t : Tracking) (s : FullState)
    (action : PyDict) (code message : String) :
    (preSubmission rt t (some s.toDict) action).2
      ≠ .error (.rejected code message) := by
  unfold preSubmission
  split
  · exact checkUnit_full_state _ s _ code message
  · nofun

-- ==== the runs

namespace MovesWorld

def HasMovesLeft (rt : PyRuntime) (w : MovesWorld) (action : PyDict) : Prop :=
  ∃ s unit moves, ActionSanitizer.sanitizeActionData rt action = .ok s
    ∧ (actingUnit s).toInt rt.toCharTables = .ok unit
    ∧ w.server.get? unit = some moves ∧ 0 < moves

/-- The pre-submission check rejects an action. -/
def Blocked (rt : PyRuntime) (w : MovesWorld) (action : PyDict) : Prop :=
  ∃ message, w.checked rt action = some (.error (.rejected "E024" message))

/-- No step submits an action that has its moves and is blocked. -/
def NotBlocked (rt : PyRuntime) (w : MovesWorld) : MovesEvent → Prop
  | .submit action _ => w.HasMovesLeft rt action → ¬ w.Blocked rt action
  | _ => True

theorem not_blocked (w : MovesWorld) (action : PyDict) :
    ¬ w.Blocked rt action := by
  intro h
  obtain ⟨message, hm⟩ := h
  unfold checked at hm
  split at hm
  · cases hm
  · next s _ =>
    exact preSubmission_full_state w.tracking
      (w.mirror.getFullState w.playerId).2 (withPlayer w.playerId s) "E024"
      message (Option.some.inj hm)

/-- Along every run, whatever packets arrive and whatever the server
does: no action of a unit with moves left is rejected by the
pre-submission check. -/
theorem moves_left_never_blocked (rt : PyRuntime) (found : Bool)
    (w : MovesWorld) (events : List MovesEvent) :
    (runs rt found).Along (NotBlocked rt) w events := by
  refine Lts.along_of_forall ?_ w events
  intro v e
  cases e with
  | submit action spent => exact fun _ => v.not_blocked action
  | unitInfo u | turnInfo turn | serverMoves unit moves => trivial

end MovesWorld

end Freeciv3d.Proxy
