/-
State queries and action queries on one `CivCom`: the two states a
`CivCom` builds, what `StateExtractor` and the WebSocket handler make
of them, and the run of one `CivCom` between packets and queries.

# Who reads what

`get_full_state` and `build_llm_optimized_state` end with a drain of
the combat log, whoever asked. Askers are: `handle_state_query`, which
returns the state as it is; `extract_state` of the HTTP endpoint (an
extractor of its own per request, so its cache is always empty); the
WebSocket `state_query`, behind the process-wide state cache and the
cache of the handler's extractor; and the action queries, which build a
full state to look one unit or city up and drop it.

# The caches

Whether an entry still answers (its TTL, its signature, evictions by
other games' entries) and whether a new state fits is the label's. An
entry that answers is a snapshot: only a compressed entry is one, and
an uncompressed entry shares its dict with the state the handler stamps
afterwards, so its signature no longer verifies.

# What is left out

Of the action lists only the moves are modelled, of the `llm_optimized`
sections those that read the mirror; the delta format is not.
-/
import Freeciv3d.Proxy.UnitActions

namespace Freeciv3d.Proxy

open Lib UnitActions

-- ==== the states

inductive StateFormat where
  | full | llmOptimized
  deriving DecidableEq

def StateFormat.value : StateFormat → String
  | full => "full"
  | llmOptimized => "llm_optimized"

structure ActiveUnit where
  id : Int
  type : String
  x : Int
  y : Int
  movesLeft : Int
  canAct : Bool
  activity : Option String

/-- `_build_tactical_view`: the `active_units`. -/
def buildTacticalView (m : Mirror) : List ActiveUnit :=
  m.playerUnits.values.map fun u : UnitInfo =>
    { id := u.id, type := u.type, x := u.x, y := u.y
      movesLeft := u.movesLeft, canAct := decide (u.movesLeft > 0)
      activity := u.activity }

structure LlmState where
  turn : Int
  phase : String
  playerId : Int
  isOver : Bool
  citiesCount : Nat
  unitsCount : Nat
  activeUnits : List ActiveUnit
  legalActions : List MoveAction
  players : Dict String PlayerInfo
  units : Dict Int UnitInfo
  cities : Dict Int CityInfo
  map : Option MapInfo
  techs : Dict String (List String)
  wonders : Dict String (List String)
  combatLog : Option (List CombatEvent)

structure FormattedFull where
  turn : Int
  phase : String
  map : MapInfo
  currentPlayer : Int
  units : Dict String UnitInfo
  cities : Dict String CityInfo
  players : Dict String PlayerInfo
  techs : Dict String (List String)

inductive StateAnswer where
  | raw (s : FullState)
  | full (s : FormattedFull)
  | llm (s : LlmState)

/-- The `combat_log` of a state, empty when it has none. -/
def StateAnswer.events : StateAnswer → List CombatEvent
  | raw s => s.combatLog.getD []
  | full _ => []
  | llm s => s.combatLog.getD []

namespace Mirror

-- ==== build_llm_optimized

/-- The loop of `_get_unit_actions`, over the units in the store: each
unit with moves left is looked up through the extractor. -/
def unitActionsLoop (pid : Int) :
    Mirror → List (Int × UnitInfo) → Mirror × List MoveAction
  | m, [] => (m, [])
  | m, (id, u) :: rest =>
    if u.movesLeft ≤ 0 then unitActionsLoop pid m rest
    else
      let (m, answer) := getUnitActions m id pid
      let (m, more) := unitActionsLoop pid m rest
      match answer with
      | .error _ _ => (m, more)
      | .actions _ _ moves => (m, moves ++ more)

/-- `_get_legal_actions_optimized`, its unit part. The extractor asks
this `CivCom` when its own `player_id` is the requested one; otherwise
it looks for another in the registry, whose mirror is not this one. -/
def getLegalActionsOptimized (m : Mirror) (playerId : Option Int)
    (pid : Int) : Mirror × List MoveAction :=
  if playerId = some pid then unitActionsLoop pid m m.playerUnits.entries
  else (m, [])

/-- `build_llm_optimized_state`: the legal actions first, the combat
log last. -/
def buildLlmOptimizedState (m : Mirror) (playerId : Option Int)
    (pid : Int) : Mirror × LlmState :=
  let (m, legalActions) := m.getLegalActionsOptimized playerId pid
  let players := playersDict (m.getAllPlayersWithDiplomacy pid)
  let techs := m.buildTechsDict
  let (m, wonders) := m.buildWondersDict m.allPlayers
  let state : LlmState :=
    { turn := m.gameTurn
      phase := m.gamePhase
      playerId := pid
      isOver := m.gameIsOver
      citiesCount := m.playerCities.size
      unitsCount := m.playerUnits.size
      activeUnits := buildTacticalView m
      legalActions := legalActions
      players := players
      units := m.playerUnits
      cities := m.playerCities
      map := m.mapInfo
      techs := techs
      wonders := wonders
      combatLog := none }
  let (m, combatLog) := m.drainCombatLog
  (m, { state with combatLog := combatLog })

def handleStateQuery (m : Mirror) (playerId : Option Int)
    (format : StateFormat) (pid : Int) : Mirror × StateAnswer :=
  match format with
  | .llmOptimized =>
    let (m, s) := m.buildLlmOptimizedState playerId pid
    (m, .llm s)
  | .full =>
    let (m, s) := m.getFullState pid
    (m, .raw s)

-- ==== the extractor

def formatFullState (s : FullState) (pid : Int) : FormattedFull :=
  { turn := s.sections.turn
    phase := s.sections.phase
    map := s.sections.map
    currentPlayer := pid
    units := s.units
    cities := s.cities
    players := s.sections.players
    techs := s.sections.techs }

def extractState (m : Mirror) (playerId : Option Int)
    (format : StateFormat) (pid : Int) : Mirror × StateAnswer :=
  match format with
  | .llmOptimized =>
    let (m, s) := m.buildLlmOptimizedState playerId pid
    (m, .llm s)
  | .full =>
    let (m, s) := m.getFullState pid
    (m, .full (formatFullState s pid))

/-- `get_legal_actions`: builds a full state, then lists the actions
from the `CivCom` itself. -/
def getLegalActions (m : Mirror) (playerId : Option Int) (pid : Int) :
    Mirror × List MoveAction :=
  let (m, _) := m.getFullState pid
  m.getLegalActionsOptimized playerId pid

inductive CityAnswer where
  | error (error errorCode : String)
  | actions (cityName : String) (location : Int × Int)

def getCityActions (m : Mirror) (cityId pid : Int) :
    Mirror × CityAnswer :=
  let (m, state) := m.getFullState pid
  let answer : CityAnswer :=
    match state.cities.get? (toString cityId) with
    | none => .error ("City " ++ toString cityId ++ " not found") "E240"
    | some c =>
      if c.owner ≠ pid then
        .error ("City " ++ toString cityId ++ " is not owned by player "
          ++ toString pid) "E241"
      else .actions c.name (c.x.getD 0, c.y.getD 0)
  (m, answer)

end Mirror

-- ==== one CivCom, asked

/-- What a cache makes of one query: whether the entry of its key still
answers, and whether a new state fits. -/
structure CacheFate where
  alive : Bool
  fits : Bool
  deriving DecidableEq

namespace CacheFate

/-- `get`: an entry that does not answer is dropped. -/
def get (fate : CacheFate) (cache : Dict String StateAnswer)
    (key : String) : Dict String StateAnswer × Option StateAnswer :=
  if fate.alive then (cache, cache.get? key) else (cache.erase key, none)

/-- `set`: a state that does not fit is not cached. -/
def set (fate : CacheFate) (cache : Dict String StateAnswer)
    (key : String) (s : StateAnswer) : Dict String StateAnswer :=
  if fate.fits then cache.set key s else cache

end CacheFate

/-- One `CivCom` with the caches its queries go through. -/
structure QueryWorld where
  gameId : String
  /-- The `player_id` of the `CivCom`. -/
  playerId : Option Int
  mirror : Mirror
  extractorCache : Dict String StateAnswer
  stateCache : Dict String StateAnswer

inductive QueryAct where
  | combat (p : CombatPacket) (now : Int)
  /-- Any other packet: the mirror it leaves, but for the combat log. -/
  | packet (m : Mirror) (playerId : Option Int)
  | stateQuery (format : StateFormat) (pid : Int)
  | extractState (format : StateFormat) (pid : Int)
  | wsStateQuery (format : StateFormat) (includeActions : Bool) (pid : Int)
      (outer inner : CacheFate)
  | legalActions (pid : Int)
  | unitActions (unitId pid : Int)
  | cityActions (cityId pid : Int)
  deriving DecidableEq

inductive Outcome where
  | recorded (e : Option CombatEvent)
  | state (s : StateAnswer)
  | other

namespace QueryWorld

/-- `_build_cache_key` of the extractor, without `since_turn`. -/
def extractorKey (w : QueryWorld) (format : StateFormat) (pid : Int) :
    String :=
  w.gameId ++ "_" ++ toString pid ++ "_" ++ format.value ++ "_turn_"
    ++ toString w.mirror.gameTurn

def stateKey (w : QueryWorld) (format : StateFormat) (pid : Int) :
    String :=
  "state_" ++ toString pid ++ "_" ++ format.value ++ "_turn_"
    ++ toString w.mirror.gameTurn

/-- `extract_state` behind the cache of the handler's extractor. -/
def extractCached (w : QueryWorld) (format : StateFormat) (pid : Int)
    (inner : CacheFate) : QueryWorld × StateAnswer :=
  let key := w.extractorKey format pid
  let (cache, cached) := inner.get w.extractorCache key
  match cached with
  | some s => ({ w with extractorCache := cache }, s)
  | none =>
    let (m, s) := w.mirror.extractState w.playerId format pid
    ({ w with mirror := m, extractorCache := inner.set cache key s }, s)

/-- The moves the handler lists from a full state: those of the units
the player owns. -/
def handlerLegalActions (m : Mirror) (s : FullState) (pid : Int) :
    List MoveAction :=
  (s.units.values.filter fun u => u.owner == pid).flatMap fun u =>
    moveActions m u pid

/-- `_get_strategic_summary`, `_assess_threats` and
`_identify_opportunities`: each builds a full state of its own. -/
def analysisLayers (m : Mirror) (pid : Int) : Mirror :=
  (((m.getFullState pid).1.getFullState pid).1.getFullState pid).1

/-- `_build_optimized_state`: a full state first, then the extractor's,
then the analysis layers of an `llm_optimized` state. -/
def buildOptimizedState (w : QueryWorld) (format : StateFormat)
    (includeActions : Bool) (pid : Int) (inner : CacheFate) :
    QueryWorld × StateAnswer :=
  let (m, fullState) := w.mirror.getFullState pid
  let (w, state) := extractCached { w with mirror := m } format pid inner
  match format, state with
  | .llmOptimized, .llm s =>
    let m := analysisLayers w.mirror pid
    let actions :=
      if includeActions then handlerLegalActions m fullState pid
      else s.legalActions
    ({ w with mirror := m }, .llm { s with legalActions := actions })
  | _, _ => (w, state)

def handleStateQuery (w : QueryWorld) (format : StateFormat)
    (includeActions : Bool) (pid : Int) (outer inner : CacheFate) :
    QueryWorld × StateAnswer :=
  let key := w.stateKey format pid
  let (cache, cached) := outer.get w.stateCache key
  match cached with
  | some s => ({ w with stateCache := cache }, s)
  | none =>
    let (w, s) := buildOptimizedState { w with stateCache := cache }
      format includeActions pid inner
    ({ w with stateCache := outer.set w.stateCache key s }, s)

/-- `_get_civcom_for_player` finds this `CivCom`. -/
def serves (w : QueryWorld) (pid : Int) : Bool := w.playerId == some pid

def act (w : QueryWorld) : QueryAct → QueryWorld × Outcome
  | .combat p now =>
    ({ w with mirror := w.mirror.handleCombatInfo p now },
      .recorded (w.mirror.combatEvent p now))
  | .packet m playerId =>
    ({ w with
       mirror := { m with combatLog := w.mirror.combatLog }
       playerId := playerId }, .other)
  | .stateQuery format pid =>
    let (m, s) := w.mirror.handleStateQuery w.playerId format pid
    ({ w with mirror := m }, .state s)
  | .extractState format pid =>
    let (m, s) := w.mirror.extractState w.playerId format pid
    ({ w with mirror := m }, .state s)
  | .wsStateQuery format includeActions pid outer inner =>
    let (w, s) := w.handleStateQuery format includeActions pid outer inner
    (w, .state s)
  | .legalActions pid =>
    ({ w with mirror := (w.mirror.getLegalActions w.playerId pid).1 },
      .other)
  | .unitActions unitId pid =>
    if w.serves pid then
      ({ w with mirror := (getUnitActions w.mirror unitId pid).1 }, .other)
    else (w, .other)
  | .cityActions cityId pid =>
    if w.serves pid then
      ({ w with mirror := (w.mirror.getCityActions cityId pid).1 }, .other)
    else (w, .other)

end QueryWorld

end Freeciv3d.Proxy
