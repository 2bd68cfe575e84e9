/-
Research in a `CivCom`: the technology table and the research records
its packet handlers fill, the two ways to ask what is known
(`get_tech_state` by number, `_build_techs_dict` by name), and the
technologies offered, with their cache.

# Numbers and keys

Numbers of technologies are unsigned in the packets. A cache key
f"{turn}_{player_id}_tech_actions" is the pair of its numbers; the
substring tests of `invalidate_action_cache` tell such keys apart by the
player. The cached city offers stand under other keys, which the
technology queries do not read, and are not part of the model.
-/
import Freeciv3d.Lib.Lts
import Freeciv3d.Lib.Memo
import Freeciv3d.Proxy.DiplomaticStates

namespace Freeciv3d.Proxy

open Lib

/-- `A_UNSET`: no technology is selected. -/
def aUnset : Int := 253

/-- An entry of `techs`: a PACKET_RULESET_TECH with its name replaced. -/
structure TechInfo where
  name : String
  cost : Option Int
  ruleName : Option String

structure RulesetTech where
  id : Option Nat
  name : Option String
  cost : Option Int
  ruleName : Option String

/-- An entry of `research_info`. `inventions` has one character a
technology. -/
structure ResearchInfo where
  inventions : Option (List Char)
  researching : Option Int

inductive TechState where
  | known
  | prereqsKnown
  | unknown
  deriving DecidableEq

structure ResearchableTech where
  id : Nat
  name : String
  cost : Int
  ruleName : String

structure TechAction where
  type : String
  techId : Nat
  techName : String
  techCost : Int
  reason : String
  deriving DecidableEq

/-- The packets that the cached offers may depend on. -/
inductive ResearchPacket where
  | rulesetTech (packet : RulesetTech)
  | researchInfo (id : Option Int) (info : ResearchInfo)
  | gameInfo (turn : Option Int)
  | beginTurn (turn : Option Int)
  | diplstate (packet : DiplstatePacket)

structure ResearchStores where
  gameTurn : Int
  playerId : Option Int
  techs : Dict Nat TechInfo
  researchInfo : Dict Int ResearchInfo
  diplomaticStates : DiplomaticStates
  /-- `_action_cache`, the technology offers: by turn and player. -/
  actionCache : Dict (Int × Int) (List TechAction)

namespace ResearchStores

def init (playerId : Option Int) : ResearchStores where
  gameTurn := 1
  playerId := playerId
  techs := ∅
  researchInfo := ∅
  diplomaticStates := ∅
  actionCache := ∅

variable (v : ResearchStores)

-- ==== the packets

/-- `name.replace('?tech:', '')`. -/
def withoutMark : List Char → List Char
  | '?' :: 't' :: 'e' :: 'c' :: 'h' :: ':' :: cs => withoutMark cs
  | c :: cs => c :: withoutMark cs
  | [] => []

def handleRulesetTech (packet : RulesetTech) : ResearchStores :=
  let name := String.ofList (withoutMark (packet.name.getD "").toList)
  match packet.id with
  | some id =>
    if name = "" then v
    else
      let tech : TechInfo := ⟨name, packet.cost, packet.ruleName⟩
      { v with techs := v.techs.set id tech }
  | none => v

/-- `invalidate_action_cache(player_id, 'tech')`. -/
def invalidateTech (player : Int) : ResearchStores :=
  { v with actionCache := v.actionCache.filter fun k _ => k.2 != player }

/-- `invalidate_action_cache()`. -/
def invalidateAll : ResearchStores := { v with actionCache := ∅ }

/-- The PACKET_RESEARCH_INFO branch: a change of `researching` alone
invalidates. -/
def handleResearchInfo (id : Option Int) (info : ResearchInfo) :
    ResearchStores :=
  match id with
  | some id =>
    let old := (v.researchInfo.get? id).bind ResearchInfo.researching
    let v' := { v with researchInfo := v.researchInfo.set id info }
    if old ≠ info.researching then v'.invalidateTech id else v'
  | none => v

/-- The PACKET_PLAYER_DIPLSTATE branch: the store, and the invalidation
when the type changes for our player. -/
def handleDiplstate (packet : DiplstatePacket) : ResearchStores :=
  let v' := { v with diplomaticStates := v.diplomaticStates.store packet }
  match packet.plr1, packet.plr2, v.playerId with
  | some plr1, some plr2, some playerId =>
    let old := (v.diplomaticStates.get? (plr1, plr2)).map
      TrackedState.type
    if (plr1 = playerId ∨ plr2 = playerId)
        ∧ old ≠ some packet.state.type then v'.invalidateAll
    else v'
  | _, _, _ => v'

theorem techs_handleResearchInfo (id : Option Int) (info : ResearchInfo) :
    (v.handleResearchInfo id info).techs = v.techs := by
  cases id with
  | none => rfl
  | some id =>
    unfold handleResearchInfo
    dsimp only
    split <;> rfl

/-- A diplomatic state leaves the research alone and drops all cached
offers or none. -/
theorem handleDiplstate_frame (packet : DiplstatePacket) :
    (v.handleDiplstate packet).gameTurn = v.gameTurn
      ∧ (v.handleDiplstate packet).techs = v.techs
      ∧ (v.handleDiplstate packet).researchInfo = v.researchInfo
      ∧ ((v.handleDiplstate packet).actionCache = ∅
        ∨ (v.handleDiplstate packet).actionCache = v.actionCache) := by
  unfold handleDiplstate
  split
  case h_1 =>
    dsimp only
    split
    · exact ⟨rfl, rfl, rfl, .inl rfl⟩
    · exact ⟨rfl, rfl, rfl, .inr rfl⟩
  case h_2 => exact ⟨rfl, rfl, rfl, .inr rfl⟩

/-- The branches of `parse_and_store_packet`. -/
def handle : ResearchPacket → ResearchStores
  | .rulesetTech packet => v.handleRulesetTech packet
  | .researchInfo id info => v.handleResearchInfo id info
  | .gameInfo turn => { v with gameTurn := turn.getD v.gameTurn }
  | .beginTurn turn => { v with gameTurn := turn.getD v.gameTurn }
  | .diplstate packet => v.handleDiplstate packet

-- ==== what is known

/-- `research.get('inventions', [])`, of a player's record. -/
def inventions (player : Int) : List Char :=
  ((v.researchInfo.get? player).bind ResearchInfo.inventions).getD []

def getTechState (techId : Nat) (player : Int) : TechState :=
  match (v.inventions player)[techId]? with
  | some '2' => .known
  | some '1' => .prereqsKnown
  | _ => .unknown

def canResearchTech (techId : Nat) (player : Int) : Bool :=
  v.getTechState techId player = .prereqsKnown

/-- The technologies a record lists as known, as `_build_techs_dict`
counts them: position `idx` is technology `idx + 1`. -/
def knownNames (inventions : List Char) : List String :=
  inventions.zipIdx.filterMap fun e =>
    if e.1 = '2' then
      ((v.techs.get? (e.2 + 1)).map TechInfo.name).filter (· ≠ "")
    else none

def buildTechsDict : Dict String (List String) :=
  Dict.ofList (v.researchInfo.entries.map fun e =>
    (Mirror.playerKey e.1, v.knownNames (e.2.inventions.getD [])))

-- ==== the offers

def getResearchableTechs (player : Int) : List ResearchableTech :=
  match v.researchInfo.get? player with
  | none => []
  | some _ =>
    (v.techs.entries.filter fun e => v.canResearchTech e.1 player).map
      fun e => ⟨e.1, e.2.name, e.2.cost.getD 0, e.2.ruleName.getD ""⟩

/-- What `_get_tech_research_actions` computes when nothing is
cached. -/
def techResearchActions (player : Int) : List TechAction :=
  match v.researchInfo.get? player with
  | none => []
  | some research =>
    if research.researching ≠ some aUnset then []
    else (v.getResearchableTechs player).map fun tech =>
      ⟨"tech_research", tech.id, tech.name, tech.cost, "tech_completed"⟩

def getTechResearchActions (player : Int) :
    ResearchStores × List TechAction :=
  let (cache, actions) := Memo.ask v.actionCache (v.gameTurn, player)
    (v.techResearchActions player)
  ({ v with actionCache := cache }, actions)

end ResearchStores

inductive ResearchAct where
  | packet (packet : ResearchPacket)
  | query (player : Int)

def researchRuns : Lts ResearchStores ResearchAct where
  init v := ∃ playerId, v = .init playerId
  step v
    | .packet packet => some (v.handle packet)
    | .query player => some (v.getTechResearchActions player).1

end Freeciv3d.Proxy
