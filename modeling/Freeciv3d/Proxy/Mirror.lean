/-
The game mirror of a `CivCom`: the stores its packet handlers fill
(units, cities, players, research, rulesets, the combat log), and the
helpers that assemble state dicts from them.

# What is a value here

A helper that returns a new dict on every call is a function to
`Dict`. Whether a dict in a returned state *is* one of the stores is
decided in `Proxy/GlobalQuery.lean`, which tracks references; this
module only says what the stores contain. The unit and city stores are
dicts from `__init__` on, and every handler keeps them dicts, so
`_normalize_to_dict` returns the store itself.

# What is left out

Fields of packets that no modelled function reads, and the
floating-point fields of a spaceship record.

What building a full state does to the mirror it is built from: the
wonder cache may grow and the combat log is emptied; nothing else
changes. Every reader of the mirror goes through here.
-/
import Freeciv3d.Lib.Dict
import Freeciv3d.Proxy.CivCom

namespace Freeciv3d.Proxy

open Lib

-- ==== records

/-- The record PACKET_UNIT_INFO stores for a unit, whoever owns it. -/
structure UnitInfo where
  id : Int
  owner : Int
  type : String
  typeId : Option Int
  tile : Int
  homecity : Int
  movesLeft : Int
  hp : Int
  veteran : Int
  transported : Bool
  doneMoving : Bool
  activity : Option String
  x : Int
  y : Int
  deriving DecidableEq

/-- The record PACKET_CITY_INFO stores for a city. `improvements` is a
key the handler never writes; helpers still ask for it. -/
structure CityInfo where
  id : Int
  owner : Int
  name : String
  tile : Option Int
  x : Option Int
  y : Option Int
  size : Int
  productionKind : Option Int
  productionValue : Option Int
  foodStock : Int
  shieldStock : Int
  improvements : Option (List Nat)
  deriving DecidableEq

structure PlayerInfo where
  id : Int
  name : String
  nation : String
  score : Int
  gold : Int
  diplomaticStatus : Option String
  deriving DecidableEq

/-- An event of `combat_log`, built from PACKET_UNIT_COMBAT_INFO. -/
structure CombatEvent where
  attackerUnitId : Int
  defenderUnitId : Int
  attackerUnitType : String
  defenderUnitType : String
  attackerHpBefore : Option Int
  attackerHpAfter : Int
  defenderHpBefore : Option Int
  defenderHpAfter : Int
  attackerWon : Bool
  defenderWon : Bool
  mutualDestruction : Bool
  makeAttVeteran : Bool
  makeDefVeteran : Bool
  turn : Int
  timestamp : Int
  deriving DecidableEq

/-- PACKET_UNIT_COMBAT_INFO: the fields its handler reads. -/
structure CombatPacket where
  attackerUnitId : Option Int
  defenderUnitId : Option Int
  attackerHp : Int
  defenderHp : Int
  makeAttVeteran : Bool
  makeDefVeteran : Bool
  deriving DecidableEq

/-- PACKET_RULESET_BUILDING: the fields the wonder helpers read. -/
structure Improvement where
  name : String
  soundtag : String
  deriving DecidableEq

/-- A spaceship record; the part counts are carried, never read. -/
structure Spaceship where
  state : Int
  structurals : Int
  components : Int
  modules : Int
  launchYear : Int
  deriving DecidableEq

/-- `map_info`: empty until PACKET_MAP_INFO arrives. The handler of that
packet writes no `wrap_x` and no `wrap_y`; readers ask for both. -/
structure MapInfo where
  width : Int
  height : Int
  wrapX : Option Bool
  wrapY : Option Bool
  deriving DecidableEq

structure TileInfo where
  terrain : Option Int
  deriving DecidableEq

/-- PACKET_RULESET_TERRAIN: the class and the native unit classes, 32
to a word. -/
structure Terrain where
  tclass : Int
  nativeTo : List Nat
  deriving DecidableEq

/-- PACKET_RULESET_UNIT with the `utype_actions` bytes merged in. -/
structure UnitType where
  name : String
  unitClass : Option Int
  utypeActions : List Nat
  deriving DecidableEq

structure UnitClass where
  name : String
  deriving DecidableEq

structure DiplState where
  type : Int
  turnsLeft : Int
  deriving DecidableEq

structure GameSection where
  turn : Int
  phase : String
  isOver : Bool
  winners : List Int
  currentPlayer : Option Int

structure StateSections where
  turn : Int
  phase : String
  players : Dict String PlayerInfo
  techs : Dict String (List String)
  wonders : Dict String (List String)
  spaceship : Dict String Spaceship
  map : MapInfo
  game : GameSection

-- ==== the stores

/-- The mirror fields of a `CivCom`. -/
structure Mirror where
  gameTurn : Int
  gamePhase : String
  gameIsOver : Bool
  winners : List Int
  mapInfo : Option MapInfo
  tiles : Dict Int TileInfo
  playerUnits : Dict Int UnitInfo
  otherUnits : Dict Int UnitInfo
  playerCities : Dict Int CityInfo
  allPlayers : List PlayerInfo
  diplomaticStates : Dict (Int × Int) DiplState
  /-- `research_info`: the `inventions` string of each player. -/
  researchInfo : Dict Int String
  /-- `techs`: the name of each tech of the ruleset. -/
  techs : Dict Int String
  improvements : Dict Int Improvement
  terrains : Dict Int Terrain
  unitTypes : Dict Int UnitType
  unitClasses : Dict Int UnitClass
  wonderCache : Dict String (List String)
  spaceshipInfo : Dict Int Spaceship
  /-- `deque(maxlen=500)`, oldest first. -/
  combatLog : List CombatEvent
  deriving DecidableEq

namespace Mirror

/-- The stores of `CivCom.__init__`. -/
def init : Mirror where
  gameTurn := 1
  gamePhase := "movement"
  gameIsOver := false
  winners := []
  mapInfo := none
  tiles := ∅
  playerUnits := ∅
  otherUnits := ∅
  playerCities := ∅
  allPlayers := []
  diplomaticStates := ∅
  researchInfo := ∅
  techs := ∅
  improvements := ∅
  terrains := ∅
  unitTypes := ∅
  unitClasses := ∅
  wonderCache := ∅
  spaceshipInfo := ∅
  combatLog := []

/-- `_filter_by_owner`: a new dict with string keys. -/
def filterByOwner {ρ : Type} (owner : ρ → Int) (d : Dict Int ρ)
    (ownerId : Int) : Dict String ρ :=
  Dict.ofList ((d.entries.filter fun e => owner e.2 == ownerId).map
    fun e => (toString e.1, e.2))

-- ==== the state dict parts

def getValidMapInfo (m : Mirror) : MapInfo :=
  match m.mapInfo with
  | some i =>
    if i.width < 1 || i.height < 1 then ⟨80, 50, none, none⟩ else i
  | none => ⟨80, 50, none, none⟩

def dsNames : List (Int × String) :=
  [(0, "war"), (1, "armistice"), (2, "ceasefire"), (3, "peace"),
    (4, "alliance"), (5, "no_contact")]

/-- `get_diplstate`: the `type` of the tracked state in either
direction, DS_NO_CONTACT when there is none. -/
def diplType (m : Mirror) (p q : Int) : Int :=
  match (m.diplomaticStates.get? (p, q)).or
      (m.diplomaticStates.get? (q, p)) with
  | some s => s.type
  | none => 5

/-- `get_diplstate`: the `type_name`. -/
def diplTypeName (m : Mirror) (p q : Int) : String :=
  (dsNames.lookup (m.diplType p q)).getD
    ("unknown(" ++ toString (m.diplType p q) ++ ")")

/-- `get_all_players_with_diplomacy`: copies of the players. -/
def getAllPlayersWithDiplomacy (m : Mirror) (pid : Int) :
    List PlayerInfo :=
  m.allPlayers.map fun p =>
    if p.id = pid then p
    else { p with diplomaticStatus := some (m.diplTypeName pid p.id) }

/-- The `players` dict: `_normalize_to_dict` of a list. -/
def playersDict (ps : List PlayerInfo) : Dict String PlayerInfo :=
  Dict.ofList (ps.map fun p => (toString p.id, p))

/-- The key of a per-player section: `f'player{pid}'`. -/
def playerKey (pid : Int) : String := "player" ++ toString pid

/-- The names of the known techs: position `i` of the string is tech
`i + 1`, and only named techs count. -/
def knownTechNames (m : Mirror) (inventions : String) : List String :=
  (inventions.toList.zipIdx.filter fun e => e.1 == '2').filterMap fun e =>
    (m.techs.get? (e.2 + 1)).filter fun name => name != ""

def buildTechsDict (m : Mirror) : Dict String (List String) :=
  Dict.ofList (m.researchInfo.entries.map fun e =>
    (playerKey e.1, m.knownTechNames e.2))

/-- `is_wonder`: the soundtag starts with 'w'. -/
def isWonder (i : Improvement) : Bool := i.soundtag.toList.head? == some 'w'

/-- `city_has_improvement`: the bit of the first improvement of that
name. -/
def cityHasImprovement (m : Mirror) (c : CityInfo) (name : String) : Bool :=
  match c.improvements, m.improvements.entries.find? fun e =>
      e.2.name.toLower == name.toLower with
  | some bytes, some (id, _) =>
    (bytes[id.toNat / 8]?).any fun b => b.testBit (id.toNat % 8)
  | _, _ => false

def playerHasWonder (m : Mirror) (pid : Int) (name : String) : Bool :=
  m.playerCities.values.any fun c =>
    c.owner == pid && m.cityHasImprovement c name

/-- `get_player_wonders`: from the cache, or computed and cached. -/
def getPlayerWonders (m : Mirror) (pid : Int) : Mirror × List String :=
  let key := toString pid ++ "_wonders"
  match m.wonderCache.get? key with
  | some ws => (m, ws)
  | none =>
    let ws := (m.improvements.values.filter fun i =>
      isWonder i && i.name != "" && m.playerHasWonder pid i.name).map
        Improvement.name
    ({ m with wonderCache := m.wonderCache.set key ws }, ws)

/-- `_build_wonders_dict`: one cached list a player. -/
def buildWondersDict (m : Mirror) :
    List PlayerInfo → Mirror × Dict String (List String)
  | [] => (m, ∅)
  | p :: rest =>
    let (m', ws) := m.getPlayerWonders p.id
    let (m'', d) := buildWondersDict m' rest
    (m'', ((∅ : Dict String (List String)).set (playerKey p.id) ws).update d)

def buildSpaceshipDict (m : Mirror) : Dict String Spaceship :=
  Dict.ofList (m.spaceshipInfo.entries.map fun e => (playerKey e.1, e.2))

/-- `_build_state_dict`: the sections besides units and cities, for one
requesting player or for all. -/
def buildStateDict (m : Mirror) (requesting : Option Int) :
    Mirror × StateSections :=
  let raw := match requesting with
    | some pid => m.getAllPlayersWithDiplomacy pid
    | none => m.allPlayers
  let (m', wonders) := m.buildWondersDict raw
  (m', { turn := m.gameTurn
         phase := m.gamePhase
         players := playersDict raw
         techs := m.buildTechsDict
         wonders := wonders
         spaceship := m.buildSpaceshipDict
         map := m.getValidMapInfo
         game :=
           { turn := m.gameTurn, phase := m.gamePhase
             isOver := m.gameIsOver, winners := m.winners
             currentPlayer := requesting } })

-- ==== the combat log

/-- `deque(maxlen=500)`. -/
def combatLogMaxlen : Nat := 500

/-- `combat_log.append(event)`: a full deque drops its oldest event. -/
def appendCombat (log : List CombatEvent) (e : CombatEvent) :
    List CombatEvent :=
  (log ++ [e]).drop (log.length + 1 - combatLogMaxlen)

/-- The tracked unit of a combat packet: own store first, then the
other one. -/
def findUnit (m : Mirror) (id : Int) : Option UnitInfo :=
  (m.playerUnits.get? id).or (m.otherUnits.get? id)

/-- The event PACKET_UNIT_COMBAT_INFO records at a time: none without
both unit ids. -/
def combatEvent (m : Mirror) (p : CombatPacket) (now : Int) :
    Option CombatEvent :=
  match p.attackerUnitId, p.defenderUnitId with
  | some attackerId, some defenderId =>
    let att := m.findUnit attackerId
    let dfn := m.findUnit defenderId
    some
      { attackerUnitId := attackerId
        defenderUnitId := defenderId
        attackerUnitType := (att.map UnitInfo.type).getD "unknown"
        defenderUnitType := (dfn.map UnitInfo.type).getD "unknown"
        attackerHpBefore := att.map UnitInfo.hp
        attackerHpAfter := p.attackerHp
        defenderHpBefore := dfn.map UnitInfo.hp
        defenderHpAfter := p.defenderHp
        attackerWon := p.defenderHp ≤ 0 && 0 < p.attackerHp
        defenderWon := p.attackerHp ≤ 0 && 0 < p.defenderHp
        mutualDestruction := p.attackerHp ≤ 0 && p.defenderHp ≤ 0
        makeAttVeteran := p.makeAttVeteran
        makeDefVeteran := p.makeDefVeteran
        turn := m.gameTurn
        timestamp := now }
  | _, _ => none

def handleCombatInfo (m : Mirror) (p : CombatPacket) (now : Int) : Mirror :=
  match m.combatEvent p now with
  | some event => { m with combatLog := appendCombat m.combatLog event }
  | none => m

/-- `_drain_combat_log`: the `combat_log` a state gets (absent when
there is nothing to report) and the mirror with an empty log. -/
def drainCombatLog (m : Mirror) : Mirror × Option (List CombatEvent) :=
  if m.combatLog.isEmpty then (m, none)
  else ({ m with combatLog := [] }, some m.combatLog)

end Mirror

-- ==== one full state

/-- A state built by `get_full_state`: its units and cities are new
dicts. -/
structure FullState where
  playerId : Int
  units : Dict String UnitInfo
  cities : Dict String CityInfo
  sections : StateSections
  combatLog : Option (List CombatEvent)

/-- `get_full_state`: the state of one player, and the mirror it
leaves. -/
def Mirror.getFullState (m : Mirror) (pid : Int) : Mirror × FullState :=
  let units := Mirror.filterByOwner UnitInfo.owner m.playerUnits pid
  let cities := Mirror.filterByOwner CityInfo.owner m.playerCities pid
  let (m, sections) := m.buildStateDict (some pid)
  let (m, combatLog) := m.drainCombatLog
  (m, { playerId := pid, units := units, cities := cities
        sections := sections, combatLog := combatLog })

def FullState.events (s : FullState) : List CombatEvent :=
  s.combatLog.getD []

namespace Mirror

theorem drainCombatLog_fst (m : Mirror) :
    m.drainCombatLog.1 = { m with combatLog := [] } := by
  unfold drainCombatLog
  split
  next h =>
    have hnil : m.combatLog = [] := List.isEmpty_iff.mp h
    rw [← hnil]
  next => rfl

theorem drainCombatLog_snd (m : Mirror) :
    m.drainCombatLog.2.getD [] = m.combatLog := by
  unfold drainCombatLog
  split
  next h => exact (List.isEmpty_iff.mp h).symm
  next => rfl

theorem getPlayerWonders_fst (m : Mirror) (pid : Int) :
    ∃ cache, (m.getPlayerWonders pid).1 = { m with wonderCache := cache } := by
  unfold getPlayerWonders
  dsimp only
  split
  · exact ⟨m.wonderCache, rfl⟩
  · exact ⟨_, rfl⟩

/-- All players' wonders, by induction on the players. -/
theorem buildWondersDict_fst (m : Mirror) (ps : List PlayerInfo) :
    ∃ cache, (m.buildWondersDict ps).1
      = { m with wonderCache := cache } := by
  induction ps generalizing m with
  | nil => exact ⟨m.wonderCache, rfl⟩
  | cons p rest ih =>
    obtain ⟨cache, hc⟩ := getPlayerWonders_fst m p.id
    obtain ⟨cache', hc'⟩ := ih (m.getPlayerWonders p.id).1
    refine ⟨cache', ?_⟩
    show ((m.getPlayerWonders p.id).1.buildWondersDict rest).1 = _
    rw [hc', hc]

theorem getFullState_fst (m : Mirror) (pid : Int) :
    ∃ cache, (m.getFullState pid).1
      = { m with wonderCache := cache, combatLog := [] } := by
  obtain ⟨cache, hc⟩ :=
    m.buildWondersDict_fst (m.getAllPlayersWithDiplomacy pid)
  refine ⟨cache, ?_⟩
  show (m.buildWondersDict
    (m.getAllPlayersWithDiplomacy pid)).1.drainCombatLog.1 = _
  rw [drainCombatLog_fst, hc]

theorem getFullState_events (m : Mirror) (pid : Int) :
    (m.getFullState pid).2.events = m.combatLog := by
  obtain ⟨cache, hc⟩ :=
    m.buildWondersDict_fst (m.getAllPlayersWithDiplomacy pid)
  show (m.buildWondersDict
    (m.getAllPlayersWithDiplomacy pid)).1.drainCombatLog.2.getD [] = _
  rw [drainCombatLog_snd, hc]

@[simp] theorem getFullState_combatLog (m : Mirror) (pid : Int) :
    (m.getFullState pid).1.combatLog = [] := by
  obtain ⟨cache, h⟩ := m.getFullState_fst pid
  rw [h]

end Mirror

end Freeciv3d.Proxy
