/-
`LLMActionValidator`: which actions of a player are let through.

# Two ways to find a unit

Moves, city founding and five worker orders look the unit up in the
`units` of the state by its key (`_validate_unit_can_act`); the
category validators search for a record whose `id` field equals the
number (`_validate_unit_ownership`). Both end in the same comparison of
`owner`.

# What is left out

The counters of `validation_stats`, which nothing reads back, and the
decoding that `detect_xss` does first: its caller has checked the
message against a pattern that leaves nothing to decode.
-/
import Freeciv3d.Lib.Regex
import Freeciv3d.Proxy.CoordinateUtils

namespace Freeciv3d.Proxy

open Lib

inductive ActionType where
  | unitMove | unitTeleport | unitAirlift | unitParadrop | unitEmbark
  | unitDisembark | unitBoard | unitDeboard | unitLoad | unitUnload
  | unitAttack | unitSuicideAttack | unitBombard | unitCapture | unitWipe
  | unitConquerCity | unitNuke | unitNukeCity | unitNukeUnits
  | unitBuildCity | unitJoinCity | unitHomeCity | unitTradeRoute
  | tradeRoute | unitMarketplace | unitHelpWonder | unitBuildRoad
  | unitBuildIrrigation | unitBuildMine | unitBuildBase | unitPillage
  | unitClean | unitTransform | unitCultivate | unitPlant | unitFortify
  | unitSentry | unitExplore | unitDisband | unitUpgrade | unitConvert
  | unitHeal | unitSkip | unitWake | unitEstablishEmbassy | unitExpel
  | spyInvestigateCity | spyPoison | spySabotageCity
  | spyTargetedSabotageCity | spyStealTech | spyTargetedStealTech
  | spyInciteCity | spyStealGold | spyStealMaps | spyNuke
  | spySpreadPlague | spyBribeUnit | spySabotageUnit | spyAttack
  | diplomacyDeclareWar | diplomacyCancelTreaty
  | diplomacyProposeCeasefire | diplomacyProposePeace
  | diplomacyProposeAlliance | diplomacyAcceptTreaty
  | diplomacyRejectTreaty | diplomacyShareVision | diplomacyWithdrawVision
  | diplomacyMessage | cityProduction | cityChangeProduction | cityBuy
  | citySellImprovement | techResearch | endTurn
  deriving DecidableEq

inductive ActionCategory where
  | movement | combat | cityFoundation | trade | terrain | unitStatus
  | espionage | diplomacy | cityManagement | research
  deriving DecidableEq

namespace ActionType

def value : ActionType → String
  | unitMove => "unit_move"
  | unitTeleport => "unit_teleport"
  | unitAirlift => "unit_airlift"
  | unitParadrop => "unit_paradrop"
  | unitEmbark => "unit_embark"
  | unitDisembark => "unit_disembark"
  | unitBoard => "unit_board"
  | unitDeboard => "unit_deboard"
  | unitLoad => "unit_load"
  | unitUnload => "unit_unload"
  | unitAttack => "unit_attack"
  | unitSuicideAttack => "unit_suicide_attack"
  | unitBombard => "unit_bombard"
  | unitCapture => "unit_capture"
  | unitWipe => "unit_wipe"
  | unitConquerCity => "unit_conquer_city"
  | unitNuke => "unit_nuke"
  | unitNukeCity => "unit_nuke_city"
  | unitNukeUnits => "unit_nuke_units"
  | unitBuildCity => "unit_build_city"
  | unitJoinCity => "unit_join_city"
  | unitHomeCity => "unit_home_city"
  | unitTradeRoute => "unit_trade_route"
  | tradeRoute => "trade_route"
  | unitMarketplace => "unit_marketplace"
  | unitHelpWonder => "unit_help_wonder"
  | unitBuildRoad => "unit_build_road"
  | unitBuildIrrigation => "unit_build_irrigation"
  | unitBuildMine => "unit_build_mine"
  | unitBuildBase => "unit_build_base"
  | unitPillage => "unit_pillage"
  | unitClean => "unit_clean"
  | unitTransform => "unit_transform"
  | unitCultivate => "unit_cultivate"
  | unitPlant => "unit_plant"
  | unitFortify => "unit_fortify"
  | unitSentry => "unit_sentry"
  | unitExplore => "unit_explore"
  | unitDisband => "unit_disband"
  | unitUpgrade => "unit_upgrade"
  | unitConvert => "unit_convert"
  | unitHeal => "unit_heal"
  | unitSkip => "unit_skip"
  | unitWake => "unit_wake"
  | unitEstablishEmbassy => "unit_establish_embassy"
  | unitExpel => "unit_expel"
  | spyInvestigateCity => "spy_investigate_city"
  | spyPoison => "spy_poison"
  | spySabotageCity => "spy_sabotage_city"
  | spyTargetedSabotageCity => "spy_targeted_sabotage_city"
  | spyStealTech => "spy_steal_tech"
  | spyTargetedStealTech => "spy_targeted_steal_tech"
  | spyInciteCity => "spy_incite_city"
  | spyStealGold => "spy_steal_gold"
  | spyStealMaps => "spy_steal_maps"
  | spyNuke => "spy_nuke"
  | spySpreadPlague => "spy_spread_plague"
  | spyBribeUnit => "spy_bribe_unit"
  | spySabotageUnit => "spy_sabotage_unit"
  | spyAttack => "spy_attack"
  | diplomacyDeclareWar => "diplomacy_declare_war"
  | diplomacyCancelTreaty => "diplomacy_cancel_treaty"
  | diplomacyProposeCeasefire => "diplomacy_propose_ceasefire"
  | diplomacyProposePeace => "diplomacy_propose_peace"
  | diplomacyProposeAlliance => "diplomacy_propose_alliance"
  | diplomacyAcceptTreaty => "diplomacy_accept_treaty"
  | diplomacyRejectTreaty => "diplomacy_reject_treaty"
  | diplomacyShareVision => "diplomacy_share_vision"
  | diplomacyWithdrawVision => "diplomacy_withdraw_vision"
  | diplomacyMessage => "diplomacy_message"
  | cityProduction => "city_production"
  | cityChangeProduction => "city_change_production"
  | cityBuy => "city_buy"
  | citySellImprovement => "city_sell_improvement"
  | techResearch => "tech_research"
  | endTurn => "end_turn"

def all : List ActionType :=
  [unitMove, unitTeleport, unitAirlift, unitParadrop, unitEmbark,
    unitDisembark, unitBoard, unitDeboard, unitLoad, unitUnload,
    unitAttack, unitSuicideAttack, unitBombard, unitCapture, unitWipe,
    unitConquerCity, unitNuke, unitNukeCity, unitNukeUnits, unitBuildCity,
    unitJoinCity, unitHomeCity, unitTradeRoute, tradeRoute,
    unitMarketplace, unitHelpWonder, unitBuildRoad, unitBuildIrrigation,
    unitBuildMine, unitBuildBase, unitPillage, unitClean, unitTransform,
    unitCultivate, unitPlant, unitFortify, unitSentry, unitExplore,
    unitDisband, unitUpgrade, unitConvert, unitHeal, unitSkip, unitWake,
    unitEstablishEmbassy, unitExpel, spyInvestigateCity, spyPoison,
    spySabotageCity, spyTargetedSabotageCity, spyStealTech,
    spyTargetedStealTech, spyInciteCity, spyStealGold, spyStealMaps,
    spyNuke, spySpreadPlague, spyBribeUnit, spySabotageUnit, spyAttack,
    diplomacyDeclareWar, diplomacyCancelTreaty, diplomacyProposeCeasefire,
    diplomacyProposePeace, diplomacyProposeAlliance,
    diplomacyAcceptTreaty, diplomacyRejectTreaty, diplomacyShareVision,
    diplomacyWithdrawVision, diplomacyMessage, cityProduction,
    cityChangeProduction, cityBuy, citySellImprovement, techResearch,
    endTurn]

/-- `ActionType(s)`; `none` is the `ValueError`. -/
def ofValue (s : String) : Option ActionType :=
  all.find? fun a => a.value == s

/-- `ACTION_CATEGORIES`. -/
def category : ActionType → ActionCategory
  | unitMove | unitTeleport | unitAirlift | unitParadrop | unitEmbark |
    unitDisembark | unitBoard | unitDeboard | unitLoad | unitUnload =>
    .movement
  | unitAttack | unitSuicideAttack | unitBombard | unitCapture | unitWipe
    | unitConquerCity | unitNuke | unitNukeCity | unitNukeUnits => .combat
  | unitBuildCity | unitJoinCity | unitHomeCity => .cityFoundation
  | unitTradeRoute | tradeRoute | unitMarketplace | unitHelpWonder =>
    .trade
  | unitBuildRoad | unitBuildIrrigation | unitBuildMine | unitBuildBase |
    unitPillage | unitClean | unitTransform | unitCultivate | unitPlant =>
    .terrain
  | unitFortify | unitSentry | unitExplore | unitDisband | unitUpgrade |
    unitConvert | unitHeal | unitSkip | unitWake => .unitStatus
  | unitEstablishEmbassy | unitExpel | spyInvestigateCity | spyPoison |
    spySabotageCity | spyTargetedSabotageCity | spyStealTech |
    spyTargetedStealTech | spyInciteCity | spyStealGold | spyStealMaps |
    spyNuke | spySpreadPlague | spyBribeUnit | spySabotageUnit | spyAttack
    => .espionage
  | diplomacyDeclareWar | diplomacyCancelTreaty |
    diplomacyProposeCeasefire | diplomacyProposePeace |
    diplomacyProposeAlliance | diplomacyAcceptTreaty |
    diplomacyRejectTreaty | diplomacyShareVision | diplomacyWithdrawVision
    | diplomacyMessage => .diplomacy
  | cityProduction | cityChangeProduction | cityBuy | citySellImprovement
    => .cityManagement
  | techResearch | endTurn => .research

end ActionType

-- ==== outcomes

inductive Stop where
  /-- An invalid `ValidationResult`. -/
  | rejected (errorCode errorMessage : String)
  | raised (e : PyError)
  deriving DecidableEq

/-- A state as the validator gets it: a dict of sections. -/
abbrev StateDict := List (PyKey × PyVal)

namespace ActionValidator

open CoordinateUtils

def validationError {α : Type} (code message : String) : Except Stop α :=
  .error (.rejected code message)

def python {α : Type} : Except PyError α → Except Stop α
  | .ok a => .ok a
  | .error e => .error (.raised e)

/-- The section of a state, when there is a state and it has it. -/
def stateSection (gameState : Option StateDict) (name : String) :
    Option PyVal := gameState.bind fun s => PyVal.field? s name

-- ==== input_validator checks

/-- `validate_coordinate`: an `int` that is no `bool`, 0 to 9999. -/
def validateCoordinate (value : PyVal) (fieldName : String) :
    Except Stop Int :=
  match value with
  | .null => validationError "E220"
      ("Missing required coordinate: " ++ fieldName)
  | .int n =>
    if n < 0 ∨ 9999 < n then
      validationError "E251" ("Coordinate " ++ fieldName
        ++ " out of range: " ++ toString n ++ " (must be 0-9999)")
    else .ok n
  | v => validationError "E221" ("Coordinate " ++ fieldName
      ++ " must be an integer, got " ++ v.typeName)

structure FieldConstraint where
  maxLength : Nat
  pattern : Regex
  description : String

/-- `^[…]+$`. -/
def onlyChars (p : Char → Bool) : Regex :=
  .seq (.plus (.char p)) .finish

/-- `[a-zA-Z0-9_ ]`. -/
def isNameChar (c : Char) : Bool := c.isAlphanum || c == '_' || c == ' '

/-- `[a-zA-Z0-9 .,!?'"()\-]`. -/
def isMessageChar (c : Char) : Bool :=
  c.isAlphanum || c ∈ [' ', '.', ',', '!', '?', '\'', '"', '(', ')', '-']

/-- `FIELD_CONSTRAINTS`, of the fields an action can carry. -/
def fieldConstraints : List (String × FieldConstraint) :=
  [("tech_name", ⟨50, onlyChars isNameChar,
      "Tech names must be alphanumeric with spaces, underscores"⟩),
    ("message", ⟨256, .seq (.star (.char isMessageChar)) .finish,
      "Messages may contain alphanumeric and basic punctuation"⟩),
    ("improvement_name", ⟨30, onlyChars isNameChar,
      "Improvement names must be alphanumeric with spaces, underscores"⟩)]

/-- `validate_string_field`, on a field with constraints. -/
def validateStringField (rt : PyRuntime) (value : PyVal)
    (fieldType : String) : Except Stop Unit :=
  match value with
  | .null => validationError "E220"
      ("Missing required field: " ++ fieldType)
  | .str s =>
    match fieldConstraints.lookup fieldType with
    | none =>
      if 1000 < s.length then
        validationError "E224" ("Field " ++ fieldType
          ++ " exceeds generic max length: " ++ toString s.length
          ++ " > 1000")
      else .ok ()
    | some c =>
      if c.maxLength < s.length then
        validationError "E224" ("Field " ++ fieldType
          ++ " exceeds max length: " ++ toString s.length ++ " > "
          ++ toString c.maxLength)
      else if !c.pattern.isMatch rt.isWord s.toList then
        validationError "E223" ("Field " ++ fieldType
          ++ " contains invalid characters. " ++ c.description)
      else .ok ()
  | v => validationError "E221" ("Field " ++ fieldType
      ++ " must be a string, got " ++ v.typeName)

def anyCase (s : String) : Regex :=
  s.toList.foldr (fun c r => .seq (.char fun d => d.toLower == c) r) .empty

/-- `[^>]*`. -/
def notClosing : Regex := .star (.char fun c => c != '>')

/-- `\s*`. -/
def spaces : Regex := .star (.char PyStr.isSpace)

def xssPatterns (rt : PyRuntime) : List Regex :=
  [ .seq (anyCase "<script") (.seq .boundary (.seq notClosing
      (.literal ">"))),
    anyCase "</script>",
    anyCase "javascript:",
    .seq (anyCase "on") (.seq (.plus (.char rt.isWord)) (.seq spaces
      (.literal "="))),
    .seq (anyCase "<iframe") .boundary,
    .seq (anyCase "<object") .boundary,
    .seq (anyCase "<embed") .boundary,
    .seq (anyCase "<svg") (.seq .boundary (.seq notClosing
      (anyCase "onload"))),
    .seq (anyCase "<img") (.seq .boundary (.seq notClosing
      (anyCase "onerror"))),
    .seq (anyCase "expression") (.seq spaces (.literal "(")),
    .seq (anyCase "url") (.seq spaces (.seq (.literal "(") (.seq spaces
      (.seq (.atMost (.char fun c => c == '"' || c == '\'') 1)
        (.seq spaces (anyCase "data:")))))) ]

/-- `detect_xss`: does the scan find something? -/
def detectXss (rt : PyRuntime) (message : PyVal) : Bool :=
  match message with
  | .str s => 2048 < s.length
      || (xssPatterns rt).any fun r => r.search rt.isWord s.toList
  | _ => false

-- ==== shared by the actions

/-- `u.get(name)`, `None` when it is missing. -/
def getField (u : StateDict) (name : String) : PyVal :=
  (PyVal.field? u name).getD .null

/-- `u.get('owner') == player_id`. -/
def ownedBy (u : StateDict) (playerId : Int) : Bool :=
  (getField u "owner").eq (.int playerId)

/-- `isinstance(u, dict) and u.get('id') == id`. -/
def hasId (id : PyVal) : PyVal → Bool
  | .dict u => (getField u "id").eq id
  | _ => false

/-- `0 <= x < size`. -/
def inSpan (x : Int) (size : PyVal) : Except PyError Bool :=
  if x < 0 then .ok false else size.gt x

/-- `_validate_coordinates`: within the map of the state, or the
default one. -/
def validateCoordinates (x y : Int) (gameState : Option StateDict) :
    Except PyError Bool :=
  match stateSection gameState "map_info" with
  | none => .ok (0 ≤ x && x < defaultMapWidth && 0 ≤ y
      && y < defaultMapHeight)
  | some mapInfo => do
      let width ← mapInfo.get? "width"
      let height ← mapInfo.get? "height"
      let insideX ← inSpan x (width.getD (.int defaultMapWidth))
      if insideX then inSpan y (height.getD (.int defaultMapHeight))
      else .ok false

/-- The ownership check on a record found by its `id` field. -/
def validateOwnership (rt : PyRuntime) (sectionName idField noun : String)
    (errorMissing errorNotFound errorNotOwned actionName : String)
    (action : PyDict) (playerId : Int) (gameState : Option StateDict) :
    Except Stop Unit :=
  match action.get? idField with
  | none => validationError errorMissing
      (actionName ++ " requires " ++ idField ++ " field")
  | some id =>
    match stateSection gameState sectionName with
    | none => .ok ()
    | some things => do
        let records ← python things.elements
        match records.find? (hasId id) with
        | some (.dict u) =>
          if ownedBy u playerId then .ok ()
          else
            validationError errorNotOwned ("Player does not own "
              ++ noun.toLower ++ " " ++ id.toStr rt)
        | _ =>
          validationError errorNotFound
            (noun ++ " not found: " ++ id.toStr rt)

def validateUnitOwnership (rt : PyRuntime) :=
  validateOwnership rt "units" "unit_id" "Unit"

def validateCityOwnership (rt : PyRuntime) :=
  validateOwnership rt "cities" "city_id" "City"

/-- The units by key: a list becomes a dict by `str(id)`, a later unit
replacing an earlier one. -/
def unitTable (rt : PyRuntime) : PyVal → Except PyError StateDict
  | .dict entries => .ok entries
  | .list items => .ok (items.zipIdx.filterMap fun e =>
    match e.1 with
    | .dict u => some (.str (((PyVal.field? u "id").getD
        (.int e.2)).toStr rt), .dict u)
    | _ => none).reverse
  | _ => .error .typeError

/-- The unit of an id: by the string, else by the number. -/
def findUnit (rt : PyRuntime) (table : StateDict) (id : PyVal) :
    Except PyError (Option PyVal) :=
  match table.lookup (.str (id.toStr rt)) with
  | some u => .ok (some u)
  | none => do
      match ← id.key with
      | some k => return table.lookup k
      | none => return none

/-- `action.get('unit_id') or action.get('actor_id')`. -/
def actingUnit (action : PyDict) : PyVal :=
  ((action.get? "unit_id").getD .null).or
    ((action.get? "actor_id").getD .null)

def checkCanAct (rt : PyRuntime) (id : PyVal) (playerId : Int) :
    Option PyVal → Except Stop Unit
  | some (.dict u) =>
    if !ownedBy u playerId then
      validationError "E231" ("Player does not own unit " ++ id.toStr rt)
    else
      match ((PyVal.field? u "moves_left").getD (.int 0)).le 0 with
      | .ok true => validationError "E024"
          ("Unit " ++ id.toStr rt ++ " has no moves remaining")
      | .ok false => .ok ()
      | .error e => .error (.raised e)
  | none | some .null => validationError "E230"
      ("Unit " ++ id.toStr rt ++ " not found (may have been destroyed)")
  | some _ => .error (.raised .attributeError)

/-- `_validate_unit_can_act`: there, owned, and with moves left. -/
def validateUnitCanAct (rt : PyRuntime) (action : PyDict) (playerId : Int)
    (gameState : Option StateDict) (actionName : String) :
    Except Stop Unit :=
  let id := actingUnit action
  if id.isNull then
    validationError "E010"
      (actionName ++ " requires unit_id or actor_id field")
  else match stateSection gameState "units" with
    | none => .ok ()
    | some units => do
        let table ← python (unitTable rt units)
        let found ← python (findUnit rt table id)
        checkCanAct rt id playerId found

-- ==== one type each

variable (rt : PyRuntime) (action : PyDict) (actionType : ActionType)
  (playerId : Int) (gameState : Option StateDict)

def validateUnitMove : Except Stop Unit :=
  match ["unit_id", "dest_x", "dest_y"].find? fun f =>
      !action.contains f with
  | some f => validationError "E010" ("Unit move requires " ++ f)
  | none =>
    let x := ((action.get? "dest_x").getD .null).toInt rt.toCharTables
    let y := ((action.get? "dest_y").getD .null).toInt rt.toCharTables
    match x, y with
    | .ok x, .ok y => do
        if ← python (validateCoordinates x y gameState) then
          validateUnitCanAct rt action playerId gameState "Unit move"
        else
          validationError "E012"
            "Destination coordinates out of game bounds"
    | .error .overflowError, _ => .error (.raised .overflowError)
    | .ok _, .error .overflowError => .error (.raised .overflowError)
    | _, _ =>
      validationError "E011" "Destination coordinates must be integers"

/-- `'settler' not in unit_type and 'colonist' not in unit_type`. -/
def checkSettler (u : PyVal) : Except Stop Unit :=
  if u.truthy then
    match u.get? "type" with
    | .ok (some (.str s)) =>
      let type := String.ofList (rt.lower s.toList)
      if PyStr.hasSubstring type "settler"
          || PyStr.hasSubstring type "colonist" then .ok ()
      else validationError "E022" "Unit cannot build cities"
    | .ok none => validationError "E022" "Unit cannot build cities"
    | .ok (some _) => .error (.raised .attributeError)
    | .error e => .error (.raised e)
  else .ok ()

def checkFounder (id : PyVal) : Except Stop Unit :=
  match stateSection gameState "units" with
  | none => .ok ()
  | some (.dict units) =>
    checkSettler rt ((PyVal.field? units (id.toStr rt)).getD .null)
  | some units => do
      let records ← python units.elements
      checkSettler rt ((records.find? (hasId id)).getD .null)

def validateUnitBuildCity : Except Stop Unit :=
  match action.get? "unit_id" with
  | none => validationError "E020" "Build city requires unit_id"
  | some id => do
      validateUnitCanAct rt action playerId gameState "Build city"
      checkFounder rt gameState id

/-- `^[a-zA-Z0-9\s\-\.]+$`. -/
def productionPattern : Regex :=
  onlyChars fun c => c.isAlphanum || PyStr.isSpace c || c == '-' || c == '.'

def checkProductionType (production : PyVal) : Except Stop Unit :=
  if !production.truthy then
    validationError "E031" "production_type cannot be empty"
  else
    match production.len, production with
    | .error e, _ => .error (.raised e)
    | .ok n, production =>
      if 64 < n then
        validationError "E031"
          ("production_type too long: " ++ toString n ++ " chars")
      else
        match production with
        | .str s =>
          if productionPattern.isMatch rt.isWord s.toList then .ok ()
          else validationError "E031"
            ("Invalid characters in production_type: " ++ s)
        | _ => .error (.raised .typeError)

def checkProducingCity (id : PyVal) : Except Stop Unit :=
  match stateSection gameState "cities" with
  | none => .ok ()
  | some cities => do
      let records ← python cities.elements
      match records.find? (hasId id) with
      | some (.dict c) =>
        if ownedBy c playerId then .ok ()
        else validationError "E032" "Player does not own this city"
      | _ => validationError "E033" "City not found"

def validateCityProduction : Except Stop Unit :=
  match action.get? "city_id", action.get? "production_type" with
  | none, _ => validationError "E030" "City production requires city_id"
  | some _, none =>
    validationError "E030" "City production requires production_type"
  | some id, some production => do
      checkProductionType rt production
      checkProducingCity playerId gameState id

def validTechs : List String :=
  ["alphabet", "animal_husbandry", "agriculture", "pottery", "mining",
    "bronze_working", "the_wheel", "writing", "ceremonial_burial",
    "code_of_laws", "horseback_riding", "iron_working", "mapmaking",
    "masonry", "mysticism", "mathematics", "construction", "currency",
    "literacy", "philosophy", "republic", "monarchy", "seafaring",
    "trade", "university", "warrior_code", "astronomy", "banking",
    "chemistry", "chivalry", "democracy", "economics", "engineering",
    "feudalism", "gunpowder", "invention", "medicine", "metallurgy",
    "navigation", "physics", "theology", "printing_press",
    "colonization", "magnetism", "leadership", "tactics",
    "steam_engine", "railroad", "steel", "electricity", "sanitation",
    "refrigeration", "conscription", "explosives", "corporation",
    "refining", "combustion", "automobile", "flight", "radio",
    "electronics", "mass_production", "plastics", "atomic_theory",
    "rocketry", "computers"]

/-- `s.lower().replace(' ', '_')`. -/
def techKey (s : String) : String :=
  String.ofList ((rt.lower s.toList).map fun c => if c = ' ' then '_' else c)

def validateTechResearch : Except Stop Unit :=
  match action.get? "tech_name" with
  | none => validationError "E040" "Tech research requires tech_name field"
  | some tech =>
    if techKey rt (tech.toStr rt) ∈ validTechs then .ok ()
    else
      validationError "E041" ("Invalid technology: \"" ++ tech.toStr rt
        ++ "\". Try one of: " ++ String.intercalate ", "
        ((validTechs.take 12).mergeSort fun a b => decide (a ≤ b))
        ++ "... (Note: tech names are case-insensitive)")

-- ==== by category

def checkOnMap (target : PyVal × PyVal) (code message : String) :
    Except Stop Unit := do
  let x ← validateCoordinate target.1 "target_x"
  let y ← validateCoordinate target.2 "target_y"
  if ← python (validateCoordinates x y gameState) then .ok ()
  else validationError code message

def lacksTarget (target : PyVal × PyVal) : Bool :=
  target.1.isNull || target.2.isNull

/-- What a combat action requires besides its unit. -/
def checkCombatTarget : Except Stop Unit :=
  let target := extractTargetCoordinates action
  match actionType with
  | .unitAttack | .unitSuicideAttack | .unitBombard | .unitCapture =>
    if !lacksTarget target then
      checkOnMap gameState target "E233"
        "Target coordinates out of bounds"
    else if !action.contains "target_unit_id"
        && !action.contains "target_city_id" then
      validationError "E235" (actionType.value ++ " requires target "
        ++ "coordinates or target_unit_id/target_city_id")
    else .ok ()
  | .unitNuke =>
    if lacksTarget target then
      validationError "E236" "unit_nuke requires target_x and target_y"
    else
      checkOnMap gameState target "E237"
        "Nuke target coordinates out of bounds"
  | .unitNukeCity =>
    if action.contains "target_city_id" then .ok ()
    else validationError "E239" "unit_nuke_city requires target_city_id"
  | .unitNukeUnits =>
    if lacksTarget target then
      validationError "E240"
        "unit_nuke_units requires target_x and target_y"
    else .ok ()
  | _ => .ok ()

def validateCombatAction : Except Stop Unit := do
  validateUnitOwnership rt "E230" "E232" "E231" actionType.value action
    playerId gameState
  checkCombatTarget action actionType gameState

def checkMessage : Except Stop Unit :=
  match action.get? "message" with
  | none => validationError "E263" "diplomacy_message requires message field"
  | some message => do
      validateStringField rt message "message"
      if detectXss rt message then
        validationError "E265"
          "Message contains potentially dangerous content"
      else .ok ()

/-- The counterpart: another player, and one of the state. -/
def checkCounterpart (target : PyVal) : Except Stop Unit :=
  if target.eq (.int playerId) then
    validationError "E261" "Cannot perform diplomacy action on yourself"
  else
    match stateSection gameState "players" with
    | none => .ok ()
    | some players => do
        let records ← python players.elements
        if records.any (hasId target) then .ok ()
        else
          validationError "E262"
            ("Target player not found: " ++ target.toStr rt)

def validateDiplomacyAction : Except Stop Unit :=
  match action.get? "target_player_id" with
  | none => validationError "E260"
      (actionType.value ++ " requires target_player_id")
  | some target => do
      checkCounterpart rt playerId gameState target
      if actionType = .diplomacyMessage then checkMessage rt action
      else .ok ()

def isCitySpyAction : ActionType → Bool
  | .spyInvestigateCity | .spyPoison | .spySabotageCity
  | .spyTargetedSabotageCity | .spyStealTech | .spyTargetedStealTech
  | .spyInciteCity | .spyStealGold | .spyStealMaps | .spyNuke
  | .spySpreadPlague => true
  | _ => false

def checkSubTarget (fieldType : String) : Except Stop Unit :=
  match action.get? "sub_target" with
  | none => validationError "E274" (actionType.value
      ++ " requires sub_target (improvement or tech name)")
  | some sub => validateStringField rt sub fieldType

/-- What an espionage action requires besides its unit. -/
def checkEspionage : Except Stop Unit :=
  if isCitySpyAction actionType then
    if !action.contains "target_city_id" then
      validationError "E273" (actionType.value ++ " requires target_city_id")
    else match actionType with
      | .spyTargetedStealTech =>
        checkSubTarget rt action actionType "tech_name"
      | .spyTargetedSabotageCity =>
        checkSubTarget rt action actionType "improvement_name"
      | _ => .ok ()
  else match actionType with
    | .spyBribeUnit | .spySabotageUnit | .spyAttack =>
      if action.contains "target_unit_id" then .ok ()
      else validationError "E275"
        (actionType.value ++ " requires target_unit_id")
    | .unitEstablishEmbassy =>
      if action.contains "target_player_id"
          || action.contains "target_city_id" then .ok ()
      else validationError "E276" ("unit_establish_embassy requires "
        ++ "target_player_id or target_city_id")
    | _ => .ok ()

def validateEspionageAction : Except Stop Unit := do
  validateUnitOwnership rt "E270" "E272" "E271" actionType.value action
    playerId gameState
  checkEspionage rt action actionType

/-- What a movement action requires besides its unit. -/
def checkMovementTarget : Except Stop Unit :=
  let target := extractTargetCoordinates action
  match actionType with
  | .unitEmbark | .unitBoard | .unitLoad =>
    if action.contains "transport_id" || action.contains "target_unit_id"
        || action.contains "target_id" then .ok ()
    else validationError "E283" (actionType.value
      ++ " requires transport_id, target_unit_id, or target_id")
  | .unitAirlift =>
    if action.contains "target_city_id" then .ok ()
    else validationError "E284" "unit_airlift requires target_city_id"
  | .unitParadrop =>
    if lacksTarget target then
      validationError "E285" "unit_paradrop requires target_x and target_y"
    else
      checkOnMap gameState target "E286"
        "Paradrop target coordinates out of bounds"
  | .unitTeleport =>
    if lacksTarget target then
      validationError "E288" "unit_teleport requires target_x and target_y"
    else do
      let _ ← validateCoordinate target.1 "target_x"
      let _ ← validateCoordinate target.2 "target_y"
      .ok ()
  | _ => .ok ()

def validateMovementAction : Except Stop Unit := do
  validateUnitOwnership rt "E280" "E282" "E281" actionType.value action
    playerId gameState
  checkMovementTarget action actionType gameState

/-- `_validate_terrain_action`: the ownership check alone. -/
def validateTerrainAction : Except Stop Unit :=
  validateUnitOwnership rt "E290" "E292" "E291" actionType.value action
    playerId gameState

/-- `_validate_unit_status_action`: the ownership check alone. -/
def validateUnitStatusAction : Except Stop Unit :=
  validateUnitOwnership rt "E295" "E297" "E296" actionType.value action
    playerId gameState

def checkTradeTarget : Except Stop Unit :=
  match actionType with
  | .unitTradeRoute | .tradeRoute | .unitHelpWonder =>
    if action.contains "target_city_id" then .ok ()
    else validationError "E313"
      (actionType.value ++ " requires target_city_id")
  | _ => .ok ()

def validateTradeAction : Except Stop Unit := do
  validateUnitOwnership rt "E310" "E312" "E311" actionType.value action
    playerId gameState
  checkTradeTarget action actionType

def checkImprovement : Except Stop Unit :=
  match actionType with
  | .citySellImprovement =>
    if action.contains "improvement_id"
        || action.contains "improvement_name" then .ok ()
    else validationError "E323" ("city_sell_improvement requires "
      ++ "improvement_id or improvement_name")
  | _ => .ok ()

def validateCityManagementAction : Except Stop Unit := do
  validateCityOwnership rt "E320" "E322" "E321" actionType.value action
    playerId gameState
  checkImprovement action actionType

/-- `_validate_basic_action`: at most `MAX_ACTION_PARAMS` fields. -/
def validateBasicAction : Except Stop Unit :=
  if 20 < action.size then
    validationError "E003" "Action has too many parameters (max 20)"
  else .ok ()

-- ==== dispatch

/-- The validators of the remaining types; no branch names the category
of city foundation. -/
def validateByCategory : Except Stop Unit :=
  match actionType.category with
  | .combat => validateCombatAction rt action actionType playerId gameState
  | .diplomacy =>
    validateDiplomacyAction rt action actionType playerId gameState
  | .espionage =>
    validateEspionageAction rt action actionType playerId gameState
  | .movement =>
    validateMovementAction rt action actionType playerId gameState
  | .terrain => validateTerrainAction rt action actionType playerId gameState
  | .unitStatus =>
    validateUnitStatusAction rt action actionType playerId gameState
  | .trade => validateTradeAction rt action actionType playerId gameState
  | .cityManagement =>
    validateCityManagementAction rt action actionType playerId gameState
  | _ => validateBasicAction action

def validateByType : Except Stop Unit :=
  match actionType with
  | .unitMove => validateUnitMove rt action playerId gameState
  | .unitBuildCity => validateUnitBuildCity rt action playerId gameState
  | .cityProduction | .cityChangeProduction =>
    validateCityProduction rt action playerId gameState
  | .techResearch => validateTechResearch rt action
  | .endTurn => .ok ()
  | .unitFortify =>
    validateUnitCanAct rt action playerId gameState "Unit fortify"
  | .unitSentry =>
    validateUnitCanAct rt action playerId gameState "Unit sentry"
  | .unitBuildRoad =>
    validateUnitCanAct rt action playerId gameState "Unit build road"
  | .unitBuildIrrigation =>
    validateUnitCanAct rt action playerId gameState "Unit build irrigation"
  | .unitBuildMine =>
    validateUnitCanAct rt action playerId gameState "Unit build mine"
  | _ => validateByCategory rt action actionType playerId gameState

/-- `validate_action`, on a dict; any other value is E001. -/
def validateAction : Except Stop Unit :=
  match action.get? "type" with
  | none => validationError "E002" "Action must specify a type"
  | some type =>
    match type.str?.bind ActionType.ofValue with
    | none => validationError "E003"
        ("Unknown action type: " ++ type.toStr rt)
    | some actionType =>
      if ((action.get? "player_id").getD (.int playerId)).eq
          (.int playerId) then
        validateByType rt action actionType playerId gameState
      else
        validationError "E005"
          "Action player_id does not match authenticated player"

end ActionValidator

end Freeciv3d.Proxy
