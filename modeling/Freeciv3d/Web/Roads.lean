/-
The road texture of `roads.js`: one pixel for each tile, whose colour tells
the shader which neighbours a road or a railroad goes on to, kept up to date
by `handle_tile_info`.

# What is left out

The alpha of the pixels, which nothing writes after `init_roads_image`. Of
a tile only its road and its railroad are kept. `needsUpdate = true` counts
the texture's version up.
-/
import Freeciv3d.Web.GotoOrders

namespace Freeciv3d.Web

open Lib

structure RoadColor where
  r : Nat
  g : Nat
  b : Nat
  deriving DecidableEq

/-- What `update_roads_tile` compares of a pixel. -/
def RoadColor.sum (c : RoadColor) : Nat := c.r + c.g + c.b

/-- `[0, 0, 0]`: no road. -/
def RoadColor.none : RoadColor := ⟨0, 0, 0⟩

structure RoadTile where
  road : Bool
  rail : Bool

def tileHas (kind : RoadTile → Bool) (tiles : List RoadTile)
    (tile : Option Nat) : Bool :=
  match tile with
  | some t => (tiles[t]?.map kind).getD false
  | .none => false

-- ==== the colours

/-- The first loop: the tiles to the sides. Three of them end it, and if
one of all is in direction 6, the colour is the special one (`none`). -/
def sideLoop (has : Int → Bool) (value : Int → Nat) :
    List Int → List Nat → Nat → Option (List Nat × Nat)
  | [], result, count => some (result, count)
  | dir :: rest, result, count =>
    if has dir then
      let result := result.set count (value dir)
      if 2 < count + 1 then
        if has 6 then .none else some (result, count + 1)
      else sideLoop has value rest result (count + 1)
    else sideLoop has value rest result count

def cornerLoop (has : Int → Bool) (value : Int → Nat) :
    List Int → List Nat → Nat → List Nat
  | [], result, _ => result
  | dir :: rest, result, count =>
    if has dir then
      let result := result.set count (value dir)
      if 2 < count + 1 then result
      else cornerLoop has value rest result (count + 1)
    else cornerLoop has value rest result count

/-- The colour of a road or railroad, by the neighbours that have one. A
fourth entry of `result` is not returned. -/
def connectedColor (single special : Nat) (value : Int → Nat)
    (has : Int → Bool) : RoadColor :=
  match sideLoop has value [1, 3, 4, 6] [single, 0, 0] 0 with
  | .none => ⟨special, 0, 0⟩
  | some (result, count) =>
    let result := cornerLoop has value [0, 2, 5, 7] result count
    ⟨result.getD 0 0, result.getD 1 0, result.getD 2 0⟩

/-- The bytes of a railroad that goes on in a direction. -/
def railValue (dir : Int) : Nat :=
  [19, 12, 13, 18, 14, 17, 16, 15].getD dir.toNat 0

/-- The bytes of a road that goes on in a direction. -/
def roadValue (dir : Int) : Nat :=
  [9, 2, 3, 8, 4, 7, 6, 5].getD dir.toNat 0

def roadImageColor (m : MapGrid) (tiles : List RoadTile)
    (mapX mapY : Int) : RoadColor :=
  match m.mapPosToTile mapX mapY with
  | .none => RoadColor.none
  | some ptile =>
    if tileHas RoadTile.rail tiles (some ptile) then
      connectedColor 10 43 railValue fun dir =>
        tileHas RoadTile.rail tiles (m.mapstep ptile dir)
    else if tileHas RoadTile.road tiles (some ptile) then
      connectedColor 1 42 roadValue fun dir =>
        tileHas RoadTile.road tiles (m.mapstep ptile dir)
    else RoadColor.none

-- ==== the texture

structure RoadMap where
  map : MapGrid
  tiles : List RoadTile
  roadsData : List RoadColor
  version : Nat

namespace RoadMap

variable (s : RoadMap)

/-- `map.xsize * map.ysize`. -/
def size : Nat := s.map.xsize * s.map.ysize

/-- `update_roads_tile` without its neighbours. -/
def updatePixel (tile : Nat) : RoadMap :=
  let x := s.map.tileX tile
  let y := s.map.tileY tile
  let index := y * s.map.xsize + x
  let oldValue := (s.roadsData.getD index RoadColor.none).sum
  let color := roadImageColor s.map s.tiles x y
  { s with
    roadsData := s.roadsData.set index color
    version := if color.sum ≠ oldValue then s.version + 1 else s.version }

/-- `neighbours`, from the tile. -/
def neighbourOffsets : List (Int × Int) :=
  [(-1, -1), (-1, 0), (-1, 1), (0, -1), (0, 1), (1, -1), (1, 0), (1, 1)]

/-- The tiles of `neighbours`: those whose coordinates are on the map. -/
def neighbours (tile : Nat) : List Nat :=
  neighbourOffsets.filterMap fun (dx, dy) =>
    let x := s.map.tileX tile + dx
    let y := s.map.tileY tile + dy
    if x < 0 ∨ s.map.xsize ≤ x ∨ y < 0 ∨ s.map.ysize ≤ y then .none
    else s.map.mapPosToTile x y

/-- `update_roads_tile(ptile, true)`. -/
def updateRoadsTile (tile : Nat) : RoadMap :=
  (s.neighbours tile).foldl updatePixel (s.updatePixel tile)

end RoadMap

/-- The part of a `PACKET_TILE_INFO` that is about roads. -/
structure RoadPacket where
  tile : Nat
  extras : RoadTile

def RoadMap.handleTileInfo (s : RoadMap) (packet : RoadPacket) : RoadMap :=
  { s with tiles := s.tiles.set packet.tile packet.extras }
    |>.updateRoadsTile packet.tile

def roadRuns : Lts RoadMap RoadPacket where
  init s := s.tiles = List.replicate s.size ⟨false, false⟩
    ∧ s.roadsData = List.replicate s.size RoadColor.none
  step s packet :=
    if packet.tile < s.size then some (s.handleTileInfo packet) else .none

end Freeciv3d.Web
