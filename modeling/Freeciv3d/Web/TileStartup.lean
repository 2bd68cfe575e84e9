/-
The tiles of an observing web client while its connection starts:
`handle_tile_info` with the buffer it fills before there is a map,
`handle_map_info` with `map_allocate` and `replay_pending_tile_packets`,
and the packets that change the client's state on the way.

# What is drawn

A handler draws between its assignments. What the drawing does is not
modelled, but it can raise, and then the rest of the handler is not run:
a label says where it did. What it reads beside the tiles (terrains,
extras, players, models) is the scene; other packets change it. The new
height of a tile is floating-point arithmetic over packet and scene, and
a parameter.
-/
import Mathlib.Data.Rat.Defs
import Freeciv3d.Lib.Dict
import Freeciv3d.Lib.Lts

namespace Freeciv3d.Web

open Lib

inductive TileValue where
  | null
  | number (n : Rat)
  | nan
  | text (s : String)
  | array (l : List Rat)
  | object
  /-- `new BitVector(raw)`; without an array there is nothing to read. -/
  | bitVector (raw : Option (List Rat))
  deriving DecidableEq

abbrev Tile := Dict String TileValue

structure TilePacket where
  tile : Nat
  fields : Dict String TileValue
  deriving DecidableEq

structure MapInfo where
  xsize : Nat
  ysize : Nat

inductive CivclientState where
  | initial
  | preparing
  | running
  | over
  deriving DecidableEq

/-- How the drawing in a call of `handle_tile_info` went. -/
inductive Drawing where
  | done
  | raisedBefore
  | raisedAfter
  deriving DecidableEq

def maxPendingTilePackets : Nat := 10000

/-- What the start of a connection reads and writes. -/
structure TileClient (σ : Type) where
  tiles : Dict Nat Tile
  tilesInitialized : Bool
  pendingTilePackets : List TilePacket
  /-- `map`; none while it is `{}`. -/
  map : Option MapInfo
  /-- `game_info['turn']`. -/
  gameTurn : Option Int
  civclientState : CivclientState
  scene : σ
  log : List TilePacket

inductive StartupAct (σ : Type) where
  | tileInfo (packet : TilePacket) (drawing : Drawing)
  /-- `images`: the images were made; `drawings`: of the packets that are
  replayed; `switched`: a change of state was carried out to its end. -/
  | mapInfo (packet : MapInfo) (images : Bool) (drawings : List Drawing)
      (switched : Bool)
  | gameInfo (turn : Int) (switched : Bool)
  | startPhase (switched : Bool)
  | rulesetControl (scene : σ)
  | other (scene : σ) (state : CivclientState)

namespace TilePacket

variable {σ : Type} (mapTileHeightAdjust : σ → Tile → Option TileValue)

/-- `new BitVector(raw)`. -/
def newBitVector : Option TileValue → TileValue
  | some (.array raw) => .bitVector (some raw)
  | _ => .bitVector none

def withExtras (p : TilePacket) : Tile :=
  p.fields.set "extras" (newBitVector (p.fields.get? "extras"))

/-- The packet as the handler merges it into the tile.
`map_tile_height_adjust` sets its height, if it knows the terrain. -/
def converted (p : TilePacket) (scene : σ) : Tile :=
  match mapTileHeightAdjust scene p.withExtras with
  | none => p.withExtras
  | some height => p.withExtras.set "height" height

end TilePacket

/-- `tile_init` of a tile of `map_allocate`. -/
def tileInit (m : MapInfo) (x y : Nat) : Tile :=
  Dict.ofList [("index", .number (x + y * m.xsize : Nat)),
    ("x", .number x), ("y", .number y), ("known", .null), ("seen", .object),
    ("specials", .array []), ("terrain", .text "T_UNKNOWN"),
    ("units", .array []), ("owner", .null), ("claimer", .null),
    ("worked", .null), ("spec_sprite", .null), ("goto_dir", .null),
    ("nuke", .number 0), ("height", .number 0)]

def mapAllocate (m : MapInfo) : Dict Nat Tile :=
  Dict.ofList <| (List.range m.xsize).flatMap fun x =>
    (List.range m.ysize).map fun y => (x + y * m.xsize, tileInit m x y)

namespace TileClient

variable {σ : Type} (mapTileHeightAdjust : σ → Tile → Option TileValue)
variable (c : TileClient σ)

/-- `handle_tile_info`, and whether it got to its end. -/
def handleTileInfo (p : TilePacket) (drawing : Drawing) :
    TileClient σ × Bool :=
  if c.tilesInitialized then
    if drawing = .raisedBefore then (c, false)
    else
      ({ c with
          tiles := c.tiles.set p.tile (((c.tiles.get? p.tile).getD ∅).update
            (p.converted mapTileHeightAdjust c.scene)) },
        drawing = .done)
  else if maxPendingTilePackets ≤ c.pendingTilePackets.length then
    ({ c with tilesInitialized := false, pendingTilePackets := [] }, true)
  else ({ c with pendingTilePackets := c.pendingTilePackets ++ [p] }, true)

/-- The loop of `replay_pending_tile_packets`, and whether it got to its
end. -/
def replay : TileClient σ → List TilePacket → List Drawing →
    TileClient σ × Bool
  | c, [], _ => (c, true)
  | c, p :: packets, drawings =>
    let (c, finished) :=
      c.handleTileInfo mapTileHeightAdjust p (drawings.headD .done)
    if finished then replay c packets drawings.tail else (c, false)

/-- `update_client_state`, of an observer. To enter the game draws, and
may raise; else the buffer is cleared. -/
def updateClientState (value : CivclientState) (switched : Bool) :
    TileClient σ :=
  let entered := { c with civclientState := value }
  if value = .running then
    if c.civclientState ≠ .running ∧ switched = false then entered
    else { entered with pendingTilePackets := [] }
  else entered

def handleMapInfo (m : MapInfo) (images : Bool) (drawings : List Drawing)
    (switched : Bool) : TileClient σ :=
  let allocated := { c with map := some m, tiles := mapAllocate m }
  if images then
    let cleared :=
      { allocated with tilesInitialized := true, pendingTilePackets := [] }
    let (replayed, finished) :=
      cleared.replay mapTileHeightAdjust c.pendingTilePackets drawings
    -- an observer of a game that has begun
    if finished ∧ replayed.gameTurn.any (1 ≤ ·)
        ∧ replayed.civclientState = .preparing then
      replayed.updateClientState .running switched
    else replayed
  else allocated

def handleGameInfo (turn : Int) (switched : Bool) : TileClient σ :=
  let c := { c with gameTurn := some turn }
  if 1 ≤ turn ∧ c.civclientState = .preparing
      ∧ c.map.any (fun m => 0 < m.xsize) then
    c.updateClientState .running switched
  else c

/-- `handle_ruleset_control`; an observer in the game skips it. -/
def handleRulesetControl (scene : σ) : TileClient σ :=
  if c.civclientState = .running then c
  else { c.updateClientState .preparing true with scene := scene }

def process : StartupAct σ → TileClient σ
  | .tileInfo p drawing =>
    { (c.handleTileInfo mapTileHeightAdjust p drawing).1 with
      log := c.log ++ [p] }
  | .mapInfo m images drawings switched =>
    c.handleMapInfo mapTileHeightAdjust m images drawings switched
  | .gameInfo turn switched => c.handleGameInfo turn switched
  | .startPhase switched => c.updateClientState .running switched
  | .rulesetControl scene => c.handleRulesetControl scene
  | .other scene state => { c with scene := scene, civclientState := state }

/-- What a server sends on one connection: one map, fewer tiles before
it than the buffer holds, and tiles of the map only. -/
def Sent : StartupAct σ → Prop
  | .tileInfo p _ =>
    match c.map with
    | none => c.log.length + 1 < maxPendingTilePackets
    | some m => p.tile < m.xsize * m.ysize
  | .mapInfo m _ _ _ =>
    c.map = none ∧ ∀ p ∈ c.log, p.tile < m.xsize * m.ysize
  | _ => True

instance : DecidablePred c.Sent := by
  intro act
  cases act with
  | tileInfo p _ =>
    unfold Sent
    cases c.map <;> infer_instance
  | mapInfo => exact inferInstanceAs (Decidable (_ ∧ _))
  | gameInfo => exact inferInstanceAs (Decidable True)
  | startPhase => exact inferInstanceAs (Decidable True)
  | rulesetControl => exact inferInstanceAs (Decidable True)
  | other => exact inferInstanceAs (Decidable True)

end TileClient

/-- The packets of one connection, in any order. At its start nothing is
buffered and there is no map; all else may be left from before. -/
def startupRuns {σ : Type} (mapTileHeightAdjust : σ → Tile → Option TileValue) :
    Lts (TileClient σ) (StartupAct σ) where
  init c := c.tilesInitialized = false ∧ c.pendingTilePackets = []
    ∧ c.map = none ∧ c.log = []
  step c act :=
    if c.Sent act then some (c.process mapTileHeightAdjust act) else none

end Freeciv3d.Web
