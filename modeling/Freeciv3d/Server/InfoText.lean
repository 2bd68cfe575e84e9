/-
The text about a tile: `handle_web_info_text_req` and the function it
calls, `web_popup_info_text`, with the helpers that decide what the text
is read from.

# What is given

The ruleset, the map's topology and the texts of other files are one
record of functions, each of the data that the source's function reads.
What the effects system and the combat code answer may depend on the
whole world. Every tile has a terrain. Steps in floating point are
functions of their arguments.

# Numbers

Divisions are C's. No value here comes near the bounds of an `int`.
-/
import Mathlib.Algebra.Order.Ring.Int
import Mathlib.Data.List.Basic

namespace Freeciv3d.Server

-- ==== the game

inductive VisionLayer where
  | main
  | invis
  | subsurface

inductive DiplStateType where
  | armistice
  | war
  | ceasefire
  | peace
  | alliance
  | noContact
  | team
  deriving DecidableEq

inductive UnitActivity where
  | idle
  | pollution
  | mine
  | irrigate
  | fortified
  | sentry
  | pillage
  | goto
  | explore
  | transform
  | fortifying
  | fallout
  | base
  | genRoad
  | convert
  | cultivate
  | plant
  | clean
  deriving DecidableEq

/-- The order of `activity_type_iterate`. -/
def UnitActivity.all : List UnitActivity :=
  [.idle, .pollution, .mine, .irrigate, .fortified, .sentry, .pillage,
    .goto, .explore, .transform, .fortifying, .fallout, .base, .genRoad,
    .convert, .cultivate, .plant, .clean]

inductive Output where
  | food
  | shield
  | trade

/-- A `struct tile`: the real one. -/
structure MapTile where
  continent : Int
  terrain : Nat
  resource : Option Nat
  extras : Nat → Bool

/-- A `struct vision_site`: a city as a player's map has it. -/
structure VisionSite where
  identity : Nat
  owner : Option Nat
  name : String

/-- A `struct player_tile`, with the player's `tile_known` bit. -/
structure PlayerTile where
  known : Bool
  seenCount : VisionLayer → Nat
  extras : Nat → Bool
  owner : Option Nat
  site : Option VisionSite

structure MapUnit where
  id : Nat
  type : Nat
  owner : Nat
  tile : Nat
  homecity : Nat
  veteran : Nat
  hp : Int
  activity : UnitActivity
  activityTarget : Option Nat
  activityCount : Int
  movesLeft : Int
  transported : Bool

structure MapCity where
  id : Nat
  owner : Nat
  name : String
  tile : Nat
  buildings : List Nat
  capital : Bool

structure MapPlayer where
  username : String
  name : String
  ai : Bool
  nationAdjective : String
  team : Option String

/-- A `struct player_diplstate`. -/
structure DiplState where
  type : DiplStateType
  turnsLeft : Int

structure World where
  tiles : Nat → MapTile
  playerTiles : Nat → Nat → PlayerTile
  units : List MapUnit
  cities : List MapCity
  players : Nat → MapPlayer
  gold : Nat → Int
  diplState : Nat → Nat → DiplState

-- ==== the ruleset

structure InfoTerrain where
  output : Output → Int
  miningShieldIncr : Int
  irrigationFoodIncr : Int
  roadOutputIncrPct : Output → Int

structure InfoRoad where
  extra : Nat
  tileIncrConst : Output → Int
  tileIncr : Output → Int
  tileBonus : Output → Int

/-- A `struct veteran_level`; its name is none where the type has one
level only. -/
structure VeteranLevel where
  name : Option String
  powerFact : Int
  moveBonus : Int

structure InfoUnitType where
  name : String
  attackStrength : Int
  defenseStrength : Int
  firepower : Int
  hp : Int
  moveRate : Int
  vlayer : VisionLayer
  hidingExtras : List Nat
  veteran : Nat → VeteranLevel

inductive TileEffect where
  | miningPct
  | irrigationPct
  | outputAddTile
  | outputPenaltyTile
  | outputIncTile
  | outputPerTile
  | outputTilePunishPct

/-- `enum extra_rmcause`, for cleaning. -/
inductive RmCause where
  | pillage
  | clean
  | cleanPollution
  | cleanFallout

/-- What the text takes from the ruleset, the map's topology and other
files. -/
structure InfoRules where
  mapIndexSize : Nat
  mapPos : Nat → Int × Int
  nativePos : Nat → Int × Int
  mapDistance : Nat → Nat → Int
  borders : Bool
  baseBribeCost : Int
  terrain : Nat → InfoTerrain
  resourceOutput : Nat → Output → Int
  roads : List InfoRoad
  huts : List Nat
  extras : List Nat
  rmExtras : RmCause → List Nat
  /-- `is_extra_caused_by`, which the code asks with the number of an
  `extra_rmcause`. -/
  causedBy : Nat → RmCause → Bool
  extraName : Nat → String
  unitType : Nat → InfoUnitType
  visibleImprovements : List Nat
  improvementName : Nat → String
  /-- `tile_get_info_text (ptile, TRUE, 0)`. -/
  tileInfoText : MapTile → String
  infrastructureText : (Nat → Bool) → String
  /-- `astr_build_and_list`. -/
  andList : List String → String
  breakLines : String → String
  activityName : UnitActivity → String
  activityRate : MapUnit → Int
  activityTime : World → UnitActivity → Nat → Option Nat → Int
  /-- `get_tile_output_bonus`, without a city. -/
  tileBonus : World → TileEffect → Output → Nat → Int
  /-- `get_player_output_bonus` of `EFT_OUTPUT_PENALTY_TILE`. -/
  playerPenalty : World → Nat → Output → Int
  /-- `unit_win_chance (u, v) * 100`. -/
  attChance : World → MapUnit → MapUnit → Int
  /-- `(1.0 - unit_win_chance (v, u)) * 100`. -/
  defChance : World → MapUnit → MapUnit → Int
  /-- `EFT_UNIT_BRIBE_COST_PCT` for a unit and its briber. -/
  bribePct : World → MapUnit → Nat → Int
  /-- `cost *= unit_build_shield_cost_base (punit) / 10.0`. -/
  shieldCost : Int → MapUnit → Int
  /-- `(float)cost / 2 * (1.0 + (float)punit->hp / default_hp)`. -/
  healthCost : Int → MapUnit → Int

-- ==== what a player can see

def World.knownAndSeen (w : World) (p t : Nat) (layer : VisionLayer) :
    Bool :=
  (w.playerTiles p t).known
    && decide (0 < (w.playerTiles p t).seenCount layer)

def World.allied (w : World) (p q : Nat) : Bool :=
  if p = q then true
  else
    match (w.diplState p q).type with
    | .alliance | .team => true
    | _ => false

def World.tileCity (w : World) (t : Nat) : Option MapCity :=
  w.cities.find? fun c => c.tile == t

def World.unitsAt (w : World) (t : Nat) : List MapUnit :=
  w.units.filter fun u => u.tile == t

def World.unitByNumber (w : World) (id : Nat) : Option MapUnit :=
  w.units.find? fun u => u.id == id

/-- `can_player_see_units_in_city`; the owner of no city is nobody. -/
def World.seesUnitsInCity (w : World) (p : Nat) : Option MapCity → Bool
  | some c => (p == c.owner) || w.allied p c.owner
  | none => false

def World.seesUnit (w : World) (r : InfoRules) (p : Nat) (u : MapUnit) :
    Bool :=
  if !w.knownAndSeen p u.tile .main then false
  else if u.transported && !w.allied p u.owner then false
  else if (w.tileCity u.tile).any fun c =>
      !w.seesUnitsInCity p (some c) then false
  else if w.allied p u.owner then true
  else if (r.unitType u.type).hidingExtras.any (w.tiles u.tile).extras then
    false
  else
    match (r.unitType u.type).vlayer with
    | .main => true
    | layer => w.knownAndSeen p u.tile layer

-- ==== the tile's output

/-- `tile_resource_is_valid`, with the resource. -/
def MapTile.validResource (tile : MapTile) : Option Nat :=
  tile.resource.filter tile.extras

def tileRoadsOutputIncr (r : InfoRules) (tile : MapTile) (o : Output) :
    Int :=
  let present := r.roads.filter fun road => tile.extras road.extra
  (present.map (·.tileIncrConst o)).sum
    + ((present.map (·.tileIncr o)).sum
        * (r.terrain tile.terrain).roadOutputIncrPct o).tdiv 100

def tileRoadsOutputBonus (r : InfoRules) (tile : MapTile) (o : Output) :
    Int :=
  ((r.roads.filter fun road => tile.extras road.extra).map
    (·.tileBonus o)).sum

/-- `city_tile_output`, without a city and not celebrating. -/
def cityTileOutput (r : InfoRules) (w : World) (t : Nat) (o : Output) :
    Int :=
  let tile := w.tiles t
  let terrain := r.terrain tile.terrain
  let bonus := fun effect => r.tileBonus w effect o t
  let bare := terrain.output o
    + (tile.validResource.map fun e => r.resourceOutput e o).getD 0
  let worked :=
    match o with
    | .shield =>
      if terrain.miningShieldIncr ≠ 0 then
        bare + (terrain.miningShieldIncr * bonus .miningPct).tdiv 100
      else bare
    | .food =>
      if terrain.irrigationFoodIncr ≠ 0 then
        bare + (terrain.irrigationFoodIncr * bonus .irrigationPct).tdiv 100
      else bare
    | .trade => bare
  let crossed := worked + tileRoadsOutputIncr r tile o
  let bonused := crossed
    + (crossed * tileRoadsOutputBonus r tile o).tdiv 100
    + bonus .outputAddTile
  let raised :=
    if bonused > 0 then
      let more := bonused + bonus .outputIncTile
      let most := more + (more * bonus .outputPerTile).tdiv 100
      if bonus .outputPenaltyTile > 0 ∧ most > bonus .outputPenaltyTile then
        most - 1
      else most
    else bonused
  raised - (raised * bonus .outputTilePunishPct).tdiv 100

def outputText (r : InfoRules) (w : World) (p t : Nat) (o : Output) :
    String :=
  let x := cityTileOutput r w t o
  let beforePenalty := r.playerPenalty w p o
  if beforePenalty > 0 ∧ x > beforePenalty then s!"{x}(-1)" else s!"{x}"

-- ==== activities

def UnitActivity.isBuild : UnitActivity → Bool
  | .mine | .irrigate | .base | .genRoad => true
  | _ => false

def UnitActivity.isClean : UnitActivity → Bool
  | .pillage | .clean | .pollution | .fallout => true
  | _ => false

def UnitActivity.isTile (act : UnitActivity) : Bool :=
  act.isBuild || act.isClean
    || match act with
      | .cultivate | .plant | .transform => true
      | _ => false

/-- The cell of `calc_activity` for an activity and, where it needs one,
its target: turns until the units there are done, 0 if none is at it. -/
def activityTurns (r : InfoRules) (w : World) (t : Nat)
    (units : List MapUnit) (act : UnitActivity) (target : Option Nat) :
    Int :=
  let here := units.filter fun u =>
    decide (u.activity = act)
      && (target.isNone || decide (u.activityTarget = target))
  let done := (here.map fun u => u.activityCount
    + if u.movesLeft > 0 then r.activityRate u else 0).sum
  let rate := (here.map r.activityRate).sum
  if rate > 0 then
    let remains := r.activityTime w act t target - done
    if remains > 0 then 1 + (remains + rate - 1).tdiv rate else 1
  else 0

/-- The extras that the text looks for under an activity that cleans. -/
def rmExtrasOf (r : InfoRules) : UnitActivity → List Nat
  | .pillage => r.rmExtras .pillage
  | .pollution => r.rmExtras .cleanPollution
  | .fallout => r.rmExtras .cleanFallout
  | .clean =>
    r.rmExtras .clean
      ++ (r.rmExtras .cleanPollution).filter (!r.causedBy · .clean)
      ++ (r.rmExtras .cleanFallout).filter fun e =>
        !r.causedBy e .clean && !r.causedBy e .cleanPollution
  | _ => []

def activityEntries (r : InfoRules) (w : World) (t : Nat)
    (units : List MapUnit) (act : UnitActivity) : List String :=
  if act.isBuild then
    r.extras.filterMap fun e =>
      let turns := activityTurns r w t units act (some e)
      if turns > 0 then some s!"{r.extraName e}({turns})" else none
  else if act.isClean then
    (rmExtrasOf r act).filterMap fun e =>
      let turns := activityTurns r w t units act (some e)
      let verb := if act = .pillage then "Pillage" else "Clean"
      if turns > 0 then some s!"{verb} {r.extraName e}({turns})" else none
  else if act.isTile then
    let turns := activityTurns r w t units act none
    if turns > 0 then [s!"{r.activityName act}({turns})"] else []
  else []

def concatTileActivityText (r : InfoRules) (w : World) (t : Nat) : String :=
  "/".intercalate
    (UnitActivity.all.flatMap (activityEntries r w t (w.unitsAt t)))

-- ==== bribes

def bribeDistMax : Int := 32

/-- The loop over the owner's capitals in `unit_bribe_cost`. -/
def bribeDist (r : InfoRules) (w : World) (u : MapUnit) : Int :=
  ((w.cities.filter fun c => c.owner == u.owner).filter (·.capital)).foldl
    (fun dist c => min (r.mapDistance c.tile u.tile) dist) bribeDistMax

def singleMove : Int := 3

def unitBribeCost (r : InfoRules) (w : World) (u : MapUnit) (briber : Nat) :
    Int :=
  let level := (r.unitType u.type).veteran u.veteran
  let moveRate := (r.unitType u.type).moveRate
  let base := (w.gold u.owner + r.baseBribeCost).tdiv (bribeDist r w u + 2)
  let built := r.shieldCost base u
  let adjusted := built + (built * r.bribePct w u briber).tdiv 100
  let veteran := (adjusted * level.powerFact).tdiv 100
  let moving := veteran + (veteran * level.moveBonus).tdiv
    (if moveRate > 0 then moveRate else singleMove)
  r.healthCost moving u

-- ==== the text

/-- What is put to the text: a new line, or more of the last one. -/
inductive InfoPiece where
  /-- `astr_add_line`. -/
  | line (s : String)
  | add (s : String)

/-- One `astr_add_line` or `astr_add`. -/
def InfoPiece.onto (text : String) : InfoPiece → String
  | .line s => if text = "" then s else text ++ "\n" ++ s
  | .add s => text ++ s

def diploNationPluralAdjective : DiplStateType → String
  | .armistice => "Neutral"
  | .war => "Hostile"
  | .ceasefire => "Neutral"
  | .peace => "Peaceful"
  | .alliance => "Friendly"
  | .noContact => "Mysterious"
  | .team => "Friendly(team)"

/-- `diplo_city_adjectives`, which spells the states the same. -/
def diploCityAdjective : DiplStateType → String
  | .armistice => "Neutral"
  | .war => "Hostile"
  | .ceasefire => "Neutral"
  | .peace => "Peaceful"
  | .alliance => "Friendly"
  | .noContact => "Mysterious"
  | .team => "Friendly(team)"

def getFullUsername (player : MapPlayer) : String :=
  if player.ai then s!"AI {player.name}" else player.username

def getFullNation (player : MapPlayer) : String :=
  match player.team with
  | some team => s!"{player.nationAdjective}, team {team}"
  | none => player.nationAdjective

def groundPieces (r : InfoRules) (w : World) (p t : Nat) : List InfoPiece :=
  let (x, y) := r.mapPos t
  let (nx, ny) := r.nativePos t
  let output := outputText r w p t
  [.line s!"Location: ({x}, {y}) [{(w.tiles t).continent}]",
    .line s!"Native coordinates: ({nx}, {ny})",
    .line s!"Terrain: {r.tileInfoText (w.tiles t)}",
    .line s!"Food/Prod/Trade: {output .food}/{output .shield}/{output .trade}"]

def hutPieces (r : InfoRules) (plrtile : PlayerTile) : List InfoPiece :=
  (r.huts.filter plrtile.extras).map fun e => .line (r.extraName e)

/-- Whose territory the tile is on the player's map. -/
def territoryPieces (r : InfoRules) (w : World) (p : Nat)
    (plrtile : PlayerTile) : List InfoPiece :=
  if r.borders ∧ plrtile.site.isNone then
    match plrtile.owner with
    | none => [.line "Unclaimed territory"]
    | some owner =>
      let username := getFullUsername (w.players owner)
      let nation := getFullNation (w.players owner)
      let ds := w.diplState p owner
      if owner = p then [.line "Our territory"]
      else if ds.type = .ceasefire then
        [.line (s!"Territory of {username} ({nation}) "
          ++ s!"({ds.turnsLeft} turn cease-fire)")]
      else
        [.line (s!"Territory of {username} ({nation} | "
          ++ s!"{diploNationPluralAdjective ds.type})")]
  else []

def cityLine (w : World) (p : Nat) (site : VisionSite) : String :=
  match site.owner with
  | none => s!"City: {site.name}"
  | some owner =>
    let username := getFullUsername (w.players owner)
    let nation := getFullNation (w.players owner)
    let ds := w.diplState p owner
    if owner = p then s!"City: {site.name} | {username} ({nation})"
    else if ds.type = .ceasefire then
      s!"City: {site.name} | {username} ({nation}, "
        ++ s!"{ds.turnsLeft} turn cease-fire)"
    else
      s!"City: {site.name} | {username} ({nation}, "
        ++ s!"{diploCityAdjective ds.type})"

def occupiedText (w : World) (p t : Nat) : String :=
  let city := w.tileCity t
  let count := (w.unitsAt t).length
  if w.seesUnitsInCity p city then
    if count = 1 then " | Occupied with 1 unit."
    else if count > 0 then s!" | Occupied with {count} units."
    else " | Not occupied."
  else if city.isSome ∧ count > 0 then " | Occupied."
  else " | Not occupied."

/-- What is visible of the buildings; the code reads them of no city. -/
def improvementPieces (r : InfoRules) :
    Option MapCity → Option (List InfoPiece)
  | none => if r.visibleImprovements = [] then some [] else none
  | some city =>
    let names := (r.visibleImprovements.filter (· ∈ city.buildings)).map
      r.improvementName
    some (if names = [] then []
      else [.line s!"   with {r.andList names}."])

/-- The city of the player's map, and the real one if the tile is seen. -/
def cityPieces (r : InfoRules) (w : World) (p t : Nat) (visible : Bool) :
    Option VisionSite → Option (List InfoPiece)
  | none => some []
  | some site =>
    if visible then do
      let improvements ← improvementPieces r (w.tileCity t)
      return .line (cityLine w p site) :: .add (occupiedText w p t)
        :: improvements
    else some [.line (cityLine w p site)]

def infrastructurePieces (r : InfoRules) (plrtile : PlayerTile) :
    List InfoPiece :=
  let text := r.infrastructureText plrtile.extras
  if text = "" then [] else [.line s!"Infrastructure: {text}"]

def activityPieces (r : InfoRules) (w : World) (t : Nat) : List InfoPiece :=
  let text := concatTileActivityText r w t
  if text = "" then [] else [.line s!"Activity: {text}"]

def unitLine (r : InfoRules) (w : World) (p : Nat) (u : MapUnit) : String :=
  let name := (r.unitType u.type).name
  let username := getFullUsername (w.players u.owner)
  let nation := getFullNation (w.players u.owner)
  let ds := w.diplState p u.owner
  if u.owner = p then
    -- the home is named if the player's map has it where it is
    match w.cities.find? fun c => c.owner == u.owner && c.id == u.homecity with
    | some home =>
      if (w.playerTiles p home.tile).site.any (·.identity == home.id) then
        s!"Unit: {name} | {username} ({nation}, {home.name})"
      else s!"Unit: {name} | {username} ({nation})"
    | none => s!"Unit: {name} | {username} ({nation})"
  else if ds.type = .ceasefire then
    s!"Unit: {name} | {username} ({nation}, {ds.turnsLeft} turn cease-fire)"
  else
    s!"Unit: {name} | {username} ({nation}, {diploCityAdjective ds.type})"

def fcInfinity : Int := 1000000000

def focusOdds (r : InfoRules) (w : World) (t : Nat) (focus : MapUnit) :
    List InfoPiece :=
  match (w.unitsAt t).filter fun u => u.owner != focus.owner with
  | [] => []
  | enemies =>
    let att := enemies.foldl
      (fun least u => min (r.attChance w focus u) least) fcInfinity
    let dfn := enemies.foldl
      (fun least u => min (r.defChance w focus u) least) fcInfinity
    [.line s!"Chance to win: A:{att}%25 D:{dfn}%25"]

def combatOdds (r : InfoRules) (w : World) (t : Nat)
    (focus : Option MapUnit) (u : MapUnit) : List InfoPiece :=
  let type := r.unitType u.type
  focus.toList.flatMap (focusOdds r w t)
    ++ [.line (s!"A:{type.attackStrength} D:{type.defenseStrength} "
          ++ s!"FP:{type.firepower} HP:{u.hp}/{type.hp}")]
    ++ match (type.veteran u.veteran).name with
      | some name => [.add s!" ({name})"]
      | none => []

def unitPieces (r : InfoRules) (w : World) (p t : Nat)
    (focus : Option MapUnit) (u : MapUnit) : List InfoPiece :=
  let count := (w.unitsAt t).length
  let cost := unitBribeCost r w u p
  .line (unitLine r w p u) :: combatOdds r w t focus u
    ++ [.line (if u.owner = p then s!"Bribe cost: {cost}"
          else s!"Estimated bribe cost: > {cost}")]
    ++ if u.owner = p ∧ count ≥ 2 then [.add s!"  ({count - 1} more)"]
      else []

/-- The block about `visible_unit_id`, where there is one: on a tile in
sight, without a city on the player's map. -/
def namedPieces (r : InfoRules) (w : World) (p t : Nat) (visible : Bool)
    (punit focus : Option MapUnit) : Option VisionSite → List InfoPiece
  | some _ => []
  | none =>
    if visible then
      match punit with
      | some u => unitPieces r w p t focus u
      | none => []
    else []

/-- `web_popup_info_text`: none where it reads a city through `NULL`. -/
def webPopupInfoText (r : InfoRules) (w : World) (p t : Nat)
    (punit funit : Option MapUnit) : Option String := do
  let plrtile := w.playerTiles p t
  let visible := w.knownAndSeen p t .main
  let city ← cityPieces r w p t visible plrtile.site
  let activity := if visible then activityPieces r w t else []
  let named := namedPieces r w p t visible punit funit plrtile.site
  let pieces := groundPieces r w p t ++ hutPieces r plrtile
    ++ territoryPieces r w p plrtile ++ city
    ++ infrastructurePieces r plrtile ++ activity ++ named
  return r.breakLines (pieces.foldl InfoPiece.onto "")

def InfoRules.indexToTile (r : InfoRules) (loc : Int) : Option Nat :=
  if 0 ≤ loc ∧ loc < r.mapIndexSize then some loc.toNat else none

def World.requestedUnit (w : World) (id : Nat) : Option MapUnit :=
  if id = 0 then none else w.unitByNumber id

/-- `handle_web_info_text_req`: the text for the player's connections, or
none where the code reads through `NULL`. -/
def handleWebInfoTextReq (r : InfoRules) (w : World) (p : Nat) (loc : Int)
    (visibleUnitId focusUnitId : Nat) : Option String := do
  let t ← r.indexToTile loc
  webPopupInfoText r w p t (w.requestedUnit visibleUnitId)
    (w.requestedUnit focusUnitId)

end Freeciv3d.Server
