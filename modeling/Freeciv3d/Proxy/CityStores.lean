/-
The cities of a `CivCom` and the ruleset tables beside them: what their
packets store, the production offers, and the list of a player's
wonders, each with its cache.

# The fields of a record

PACKET_CITY_INFO makes a new record. It writes no `improvements`,
`can_build_unit` or `can_build_improvement`, and
PACKET_WEB_CITY_INFO_ADDITION writes `can_build` alone; readers ask for
all of them. Fields that nothing here reads are left out.

# Keys

A cache key f"{turn}_{player_id}_city_actions" is the pair of its
numbers, a key f"{player_id}_wonders" is its number. Numbers of unit
types and improvements are unsigned in the packets.
-/
import Freeciv3d.Lib.Lts
import Freeciv3d.Lib.Memo
import Freeciv3d.Proxy.RulesetMapper

namespace Freeciv3d.Proxy

open Lib

/-- An entry of the `can_build` of a city. -/
structure Buildable where
  isUnit : Bool
  id : Int
  name : String

/-- A record of `player_cities`. -/
structure CityRecord where
  owner : Int
  name : String
  shieldStock : Int
  canBuild : Option (List Buildable)
  canBuildUnit : Option (List Nat)
  canBuildImprovement : Option (List Nat)
  improvements : Option (List Nat)

structure RulesetUnit where
  id : Option Nat
  name : Option String

structure RulesetBuilding where
  id : Option Nat
  name : Option String
  soundtag : Option String

/-- PACKET_CITY_INFO; its handler does not read `improvements`. -/
structure CityInfoPacket where
  id : Option Int
  owner : Option Int
  name : Option String
  shieldStock : Option Int
  improvements : Option (List Nat)

structure CityAddition where
  id : Option Int
  canBuildUnit : Option (List Nat)
  canBuildImprovement : Option (List Nat)

structure ProductionAction where
  type : String
  cityId : Int
  cityName : String
  productionType : String
  productionKind : Int
  productionValue : Nat
  reason : String
  deriving DecidableEq

structure CityStores where
  gameTurn : Int
  unitTypes : Dict Nat String
  improvements : Dict Nat Improvement
  playerCities : Dict Int CityRecord
  /-- `_action_cache`, the production offers: by turn and player. -/
  actionCache : Dict (Int × Int) (List ProductionAction)
  wonderCache : Dict Int (List String)

namespace CityStores

def init : CityStores where
  gameTurn := 1
  unitTypes := ∅
  improvements := ∅
  playerCities := ∅
  actionCache := ∅
  wonderCache := ∅

/-- `raw[n // 8] & (1 << (n % 8))`, false past the end. -/
def isSet (raw : List Nat) (n : Nat) : Bool :=
  (raw[n / 8]?).any fun byte => byte.testBit (n % 8)

/-- `BitVector(raw).to_list()`. -/
def bits (raw : List Nat) : List Nat :=
  (List.range (raw.length * 8)).filter (isSet raw)

variable (s : CityStores)

-- ==== the packets

def handleRulesetUnit (packet : RulesetUnit) : CityStores :=
  match packet.id, packet.name with
  | some id, some name =>
    if name = "" then s
    else { s with unitTypes := s.unitTypes.set id name }
  | _, _ => s

def handleRulesetBuilding (packet : RulesetBuilding) : CityStores :=
  match packet.id, packet.name with
  | some id, some name =>
    if name = "" then s
    else
      let building : Improvement := ⟨name, packet.soundtag.getD ""⟩
      { s with improvements := s.improvements.set id building }
  | _, _ => s

def cityRecord (packet : CityInfoPacket) (id owner : Int) : CityRecord where
  owner := owner
  name := packet.name.getD ("City" ++ toString id)
  shieldStock := packet.shieldStock.getD 0
  canBuild := none
  canBuildUnit := none
  canBuildImprovement := none
  improvements := none

def handleCityInfo (packet : CityInfoPacket) : CityStores :=
  match packet.id, packet.owner with
  | some id, some owner =>
    { s with
      playerCities := s.playerCities.set id (cityRecord packet id owner)
      wonderCache := s.wonderCache.erase owner }
  | _, _ => s

def handleCityRemove (cityId : Option Int) : CityStores :=
  match cityId with
  | some id =>
    match s.playerCities.get? id with
    | some city =>
      { s with
        playerCities := s.playerCities.erase id
        wonderCache := s.wonderCache.erase city.owner }
    | none => s
  | none => s

/-- What `can_build` becomes: the set bits that the ruleset names. -/
def buildables (packet : CityAddition) : List Buildable :=
  ((bits (packet.canBuildUnit.getD [])).filterMap fun id =>
      (s.unitTypes.get? id).map fun name => ⟨true, id, name⟩)
    ++ (bits (packet.canBuildImprovement.getD [])).filterMap fun id =>
      (s.improvements.get? id).map fun building =>
        ⟨false, id, building.name⟩

def handleAddition (packet : CityAddition) : CityStores :=
  match packet.id with
  | some id =>
    { s with playerCities := s.playerCities.modify id fun city =>
        { city with canBuild := some (s.buildables packet) } }
  | none => s

def handleGameInfo (turn : Option Int) : CityStores :=
  { s with gameTurn := turn.getD s.gameTurn }

-- ==== the production offers

/-- A bit of a bitvector a record may have: without one, or with an
empty one, everything is allowed. -/
def allowed (raw : Option (List Nat)) (id : Nat) : Bool :=
  match raw with
  | none => true
  | some [] => true
  | some raw => isSet raw id

def canCityBuildUnit (city : CityRecord) (unitTypeId : Nat) : Bool :=
  allowed city.canBuildUnit unitTypeId

def canCityBuildImprovement (city : CityRecord) (improvementId : Nat) :
    Bool :=
  allowed city.canBuildImprovement improvementId

def makeProductionAction (cityId : Int) (city : CityRecord)
    (productionName : String) (kind : Int) (value : Nat) :
    ProductionAction where
  type := "city_production"
  cityId := cityId
  cityName := city.name
  productionType := productionName
  productionKind := kind
  productionValue := value
  reason := if city.shieldStock = 0 then "finished" else "coinage"

def cityActions (e : Int × CityRecord) : List ProductionAction :=
  (s.unitTypes.entries.filterMap fun unit =>
      if unit.2 ≠ "" ∧ canCityBuildUnit e.2 unit.1 then
        some (makeProductionAction e.1 e.2 unit.2 RulesetMapper.vutUtype
          unit.1)
      else none)
    ++ s.improvements.entries.filterMap fun building =>
      if building.2.name ≠ "" ∧ canCityBuildImprovement e.2 building.1 then
        some (makeProductionAction e.1 e.2 building.2.name
          RulesetMapper.vutImprovement building.1)
      else none

/-- The cities of a player, `max_cities` of them at most. -/
def citiesOf (player : Int) (maxCities : Option Int) :
    List (Int × CityRecord) :=
  let own := s.playerCities.entries.filter fun e => e.2.owner = player
  match maxCities with
  | some n => own.take n.toNat
  | none => own

def getCityProductionActions (player : Int) (maxCities : Option Int) :
    CityStores × List ProductionAction :=
  let (cache, actions) := Memo.ask s.actionCache (s.gameTurn, player)
    ((s.citiesOf player maxCities).flatMap s.cityActions)
  ({ s with actionCache := cache }, actions)

-- ==== the wonders

variable (rt : PyRuntime)

def cityHasImprovement (city : CityRecord) (improvementName : String) :
    Bool :=
  match city.improvements with
  | none => false
  | some [] => false
  | some raw =>
    match s.improvements.entries.find? fun e =>
        RulesetMapper.lower rt e.2.name
          = RulesetMapper.lower rt improvementName with
    | some (id, _) => isSet raw id
    | none => false

def playerHasWonder (player : Int) (improvementName : String) : Bool :=
  s.playerCities.values.any fun city =>
    city.owner = player ∧ s.cityHasImprovement rt city improvementName

def getPlayerWonders (player : Int) : CityStores × List String :=
  let (cache, wonders) := Memo.ask s.wonderCache player
    ((s.improvements.values.filter fun building =>
      Mirror.isWonder building ∧ building.name ≠ ""
        ∧ s.playerHasWonder rt player building.name).map Improvement.name)
  ({ s with wonderCache := cache }, wonders)

end CityStores

-- ==== the runs

/-- What the production offers depend on, or a query. -/
inductive ProductionAct where
  | rulesetUnit (packet : RulesetUnit)
  | rulesetBuilding (packet : RulesetBuilding)
  | cityInfo (packet : CityInfoPacket)
  | addition (packet : CityAddition)
  | gameInfo (turn : Option Int)
  | query (player : Int) (maxCities : Option Int)

/-- The stores, and the last addition that came for each city. -/
structure ProductionWorld where
  stores : CityStores
  additions : Dict Int CityAddition

namespace ProductionWorld

variable (w : ProductionWorld)

/-- The addition is noted whether the city is known or not. -/
def receiveAddition (packet : CityAddition) : ProductionWorld where
  stores := w.stores.handleAddition packet
  additions := match packet.id with
    | some id => w.additions.set id packet
    | none => w.additions

def step : ProductionAct → ProductionWorld
  | .rulesetUnit packet =>
    { w with stores := w.stores.handleRulesetUnit packet }
  | .rulesetBuilding packet =>
    { w with stores := w.stores.handleRulesetBuilding packet }
  | .cityInfo packet => { w with stores := w.stores.handleCityInfo packet }
  | .addition packet => w.receiveAddition packet
  | .gameInfo turn => { w with stores := w.stores.handleGameInfo turn }
  | .query player maxCities =>
    { w with
      stores := (w.stores.getCityProductionActions player maxCities).1 }

end ProductionWorld

def productionRuns : Lts ProductionWorld ProductionAct where
  init w := w = ⟨.init, ∅⟩
  step w a := some (w.step a)

inductive WonderAct where
  | rulesetBuilding (packet : RulesetBuilding)
  | cityInfo (packet : CityInfoPacket)
  | cityRemove (cityId : Option Int)
  | query (player : Int)

/-- The stores, and the last PACKET_CITY_INFO of each city that has not
been removed since. -/
structure WonderWorld where
  stores : CityStores
  infos : Dict Int CityInfoPacket

namespace WonderWorld

variable (rt : PyRuntime) (w : WonderWorld)

def step : WonderAct → WonderWorld
  | .rulesetBuilding packet =>
    { w with stores := w.stores.handleRulesetBuilding packet }
  | .cityInfo packet =>
    { stores := w.stores.handleCityInfo packet
      infos := match packet.id with
        | some id => w.infos.set id packet
        | none => w.infos }
  | .cityRemove cityId =>
    { stores := w.stores.handleCityRemove cityId
      infos := match cityId with
        | some id => w.infos.erase id
        | none => w.infos }
  | .query player =>
    { w with stores := (w.stores.getPlayerWonders rt player).1 }

end WonderWorld

def wonderRuns (rt : PyRuntime) : Lts WonderWorld WonderAct where
  init w := w = ⟨.init, ∅⟩
  step w a := some (w.step rt a)

end Freeciv3d.Proxy
