/-
The 3D models of tile extras: `update_tile_extras` of
`object_position_handler.js` with the table `tile_extra_positions_list` and
the scene.

# What is given

There is a scene and every model is loaded. The ids of the extras are told
apart by their rule names, from which `handle_ruleset_extra` makes the
`EXTRA_…` variables. The set bits of a tile's extras are a list, in the
order of `toBitSet`.

# What is left out

Where a model stands, its height and how it is turned. Forests, jungles and
cacti, which have a table of their own.
-/
import Freeciv3d.Lib.Dict
import Freeciv3d.Lib.Lts

namespace Freeciv3d.Web

open Lib

/-- `extras` of a ruleset, and the variables that name some of them. -/
structure ExtraTypes where
  ruleName : Nat → String
  /-- `is_extra_caused_by(…, EC_RESOURCE)`. -/
  isResource : Nat → Bool
  ruleName_inj : Function.Injective ruleName
  mine : Nat
  hut : Nat
  ruins : Nat
  airbase : Nat
  fortress : Nat
  oilWell : Nat
  fallout : Nat
  pollution : Nat
  buoy : Nat
  ruleName_mine : ruleName mine = "Mine"
  ruleName_hut : ruleName hut = "Hut"
  ruleName_ruins : ruleName ruins = "Ruins"
  ruleName_airbase : ruleName airbase = "Airbase"
  ruleName_fortress : ruleName fortress = "Fortress"
  ruleName_oilWell : ruleName oilWell = "Oil Well"
  ruleName_fallout : ruleName fallout = "Fallout"
  ruleName_pollution : ruleName pollution = "Pollution"
  ruleName_buoy : ruleName buoy = "Buoy"

def specialResources : List String :=
  ["Fish", "Whales", "Oasis", "Wine", "Iron", "Spice", "Ivory", "Oil",
    "Coal", "Fruit", "Furs", "Gold", "Gems", "Silk", "Resources", "Fallout",
    "Game", "Buffalo", "Pheasant", "Wheat", "Peat", "Buoy"]

/-- A model in the scene; `extraName` is the name it was loaded under. -/
structure ExtraModel where
  id : Nat
  tile : Nat
  extraName : String
  deriving DecidableEq

def numModels (extraName : String) : Nat :=
  if extraName = "Fish" then 3
  else if extraName = "Buffalo" then 3
  else if extraName = "Fruit" then 5
  else if extraName = "Spice" then 2
  else if extraName = "Gems" then 3
  else if extraName = "Wheat" then 14
  else if extraName = "Game" then 3
  else if extraName = "Pheasant" then 2
  else 1

/-- The name of the model for a name: there are three of fish. -/
def fileName (rnd : Fin 3) (extraName : String) : String :=
  if extraName = "Fish" then "Fish" ++ toString (1 + rnd.val)
  else extraName

structure ExtraScene where
  /-- `tile_extra_positions_list`, by extra and tile. -/
  tileExtraPositionsList : Dict (Nat × Nat) (List ExtraModel)
  scene : List ExtraModel
  nextId : Nat
  tiles : Dict Nat (List Nat)

namespace ExtraScene

variable (types : ExtraTypes) (s : ExtraScene)

/-- The name the model is looked up under: later checks win. -/
def shownName (extras : List Nat) (extraName : String) : String :=
  if types.pollution ∈ extras then "Pollution"
  else if types.buoy ∈ extras then "Buoy"
  else if types.fallout ∈ extras then "Fallout"
  else if types.oilWell ∈ extras then "Oil Well"
  else extraName

/-- The loop that adds the models: the list is begun anew for each. -/
def addModels (extraType tile : Nat) (name : String) :
    Nat → ExtraScene → ExtraScene
  | 0, s => s
  | n + 1, s =>
    let model : ExtraModel :=
      { id := s.nextId, tile, extraName := name }
    addModels extraType tile name n
      { s with
        tileExtraPositionsList :=
          s.tileExtraPositionsList.set (extraType, tile) [model]
        scene := s.scene ++ [model]
        nextId := s.nextId + 1 }

def updateTileExtraUpdateModel (rnd : Fin 3) (extraType : Nat)
    (extraName : String) (tile : Nat) (extras : List Nat) : ExtraScene :=
  match s.tileExtraPositionsList.get? (extraType, tile) with
  | none =>
    if extraType ∈ extras ∨ types.oilWell ∈ extras
        ∨ types.fallout ∈ extras ∨ types.pollution ∈ extras
        ∨ types.buoy ∈ extras then
      let name := shownName types extras extraName
      addModels extraType tile (fileName rnd name) (numModels name) s
    else s
  | some models =>
    if extraType ∈ extras then s
    else
      { s with
        tileExtraPositionsList :=
          s.tileExtraPositionsList.erase (extraType, tile)
        scene := s.scene.filter (· ∉ models) }

def tileResource (extras : List Nat) : Option Nat :=
  extras.find? fun extra => types.isResource extra

/-- The part of `update_tile_extras` for the resource of the tile. -/
def updateResource (rnd : Fin 3) (tile : Nat) (extras : List Nat) :
    ExtraScene :=
  match tileResource types extras with
  | none => s
  | some extra =>
    if s.tileExtraPositionsList.get? (extra, tile) = none
        ∧ types.ruleName extra ∈ specialResources then
      s.updateTileExtraUpdateModel types rnd extra (types.ruleName extra)
        tile extras
    else s

def updateTileExtras (rnd : Fin 3) (tile : Nat) (extras : List Nat) :
    ExtraScene :=
  let s := { s with tiles := s.tiles.set tile extras }
  let s := s.updateTileExtraUpdateModel types rnd types.mine "Mine" tile
    extras
  let s := s.updateTileExtraUpdateModel types rnd types.hut "Hut" tile
    extras
  let s := s.updateTileExtraUpdateModel types rnd types.ruins "Ruins" tile
    extras
  let s := s.updateTileExtraUpdateModel types rnd types.airbase "Airbase"
    tile extras
  let s := s.updateTileExtraUpdateModel types rnd types.fortress "Fortress"
    tile extras
  s.updateResource types rnd tile extras

end ExtraScene

/-- An update of a tile; `rnd` is what the random number comes to. -/
structure TileUpdate where
  tile : Nat
  known : Bool
  extras : List Nat
  rnd : Fin 3

/-- One update: a tile that is not known is not looked at. -/
def ExtraScene.update (types : ExtraTypes) (s : ExtraScene)
    (u : TileUpdate) : ExtraScene :=
  if u.known then s.updateTileExtras types u.rnd u.tile u.extras else s

def extraRuns (types : ExtraTypes) : Lts ExtraScene TileUpdate where
  init s := s.tileExtraPositionsList = ∅ ∧ s.scene = [] ∧ s.tiles = ∅
  step s u := some (s.update types u)

end Freeciv3d.Web
