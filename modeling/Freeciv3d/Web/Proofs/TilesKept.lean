/-
No tile packet of a starting observer is lost, as long as nothing clears
the buffer and no drawing gets in the way of the tiles.

# The two phases

Before the map every packet processed is in the buffer
(`Kept.waiting`). With the map the buffer is written out, and from then
on each packet is written when it comes; so every tile shows, under each
key, the last packet for it that has the key (`Kept.ready`).

# What clears the buffer

`update_client_state(C_S_RUNNING)` frees the buffer, since a client that
runs has its tiles. A START_PHASE packet that overtakes the MAP_INFO
packet makes the client run without them. GAME_INFO waits for the map.
-/
import Mathlib.Data.List.Basic
import Freeciv3d.Web.TileStartup

namespace Freeciv3d.Web

open Lib

variable {σ : Type} {mapTileHeightAdjust : σ → Tile → Option TileValue}

-- ==== the statement

def lastCarrying (log : List TilePacket) (t : Nat) (field : String) :
    Option TilePacket :=
  log.reverse.find? fun p => p.tile == t && (p.fields.get? field).isSome

namespace TilePacket

variable (mapTileHeightAdjust)

/-- A field as a packet carries it: the extras as a bit vector, the
height in the scale of the client. -/
def Shows (p : TilePacket) (field : String) (shown : Option TileValue) :
    Prop :=
  if field = "height" then
    ∃ scene, shown = (p.converted mapTileHeightAdjust scene).get? "height"
  else if field = "extras" then
    shown = some (newBitVector (p.fields.get? "extras"))
  else shown = p.fields.get? field

/-- The handler adds no field to the packet: it has extras, and a height
if its terrain is known. -/
def Complete (p : TilePacket) (scene : σ) : Prop :=
  (p.fields.get? "extras").isSome = true
    ∧ ((p.fields.get? "height").isSome = true
      ∨ mapTileHeightAdjust scene p.withExtras = none)

instance (p : TilePacket) (scene : σ) :
    Decidable (p.Complete mapTileHeightAdjust scene) :=
  inferInstanceAs (Decidable (_ ∧ _))

end TilePacket

/-- Each replayed packet is written, and all but the last get to the end
of the handler. -/
def Replayed : List TilePacket → List Drawing → Prop
  | [], _ => True
  | [_], drawings => drawings.headD .done ≠ .raisedBefore
  | _ :: q :: packets, drawings =>
    drawings.headD .done = .done ∧ Replayed (q :: packets) drawings.tail

instance decidableReplayed : ∀ packets drawings,
    Decidable (Replayed packets drawings)
  | [], _ => isTrue trivial
  | [_], _ => inferInstanceAs (Decidable (_ ≠ _))
  | _ :: q :: packets, drawings =>
    have := decidableReplayed (q :: packets) drawings.tail
    inferInstanceAs (Decidable (_ ∧ _))

namespace TileClient

variable {c c' : TileClient σ}

/-- With the map, every tile has for every field what the last packet
for it that has the field carries. -/
def TilesKept (mapTileHeightAdjust : σ → Tile → Option TileValue)
    (c : TileClient σ) : Prop :=
  ∀ m, c.map = some m → ∀ t, t < m.xsize * m.ysize →
    ∃ tile, c.tiles.get? t = some tile
      ∧ ∀ field p, lastCarrying c.log t field = some p →
          p.Shows mapTileHeightAdjust field (tile.get? field)

/-- No START_PHASE clears a buffer that waits for the map, no drawing
raises before a tile is written or inside the replay, and no packet that
is written lacks its extras, or its height where the terrain is known. -/
def KeepsTiles (mapTileHeightAdjust : σ → Tile → Option TileValue)
    (c : TileClient σ) : StartupAct σ → Prop
  | .tileInfo p drawing =>
    c.tilesInitialized = true →
      drawing ≠ .raisedBefore ∧ p.Complete mapTileHeightAdjust c.scene
  | .mapInfo _ images drawings _ =>
    images = true ∧ Replayed c.pendingTilePackets drawings
      ∧ ∀ p ∈ c.pendingTilePackets,
          p.Complete mapTileHeightAdjust c.scene
  | .startPhase switched =>
    c.tilesInitialized = true ∨ c.pendingTilePackets = []
      ∨ c.civclientState ≠ .running ∧ switched = false
  | _ => True

instance (c : TileClient σ) :
    DecidablePred (c.KeepsTiles mapTileHeightAdjust)
  | .tileInfo _ _ => inferInstanceAs (Decidable (_ → _))
  | .mapInfo _ _ _ _ => inferInstanceAs (Decidable (_ ∧ _))
  | .startPhase _ => inferInstanceAs (Decidable (_ ∨ _))
  | .gameInfo _ _ | .rulesetControl _ | .other _ _ => instDecidableTrue

-- ==== one tile

/-- A tile shows the packets for it. -/
def ShowsLast (mapTileHeightAdjust : σ → Tile → Option TileValue)
    (log : List TilePacket) (t : Nat) (tile : Tile) : Prop :=
  ∀ field p, lastCarrying log t field = some p →
    p.Shows mapTileHeightAdjust field (tile.get? field)

theorem lastCarrying_append (log : List TilePacket) (p : TilePacket)
    (t : Nat) (field : String) :
    lastCarrying (log ++ [p]) t field
      = if (p.tile == t && (p.fields.get? field).isSome) = true then some p
        else lastCarrying log t field := by
  unfold lastCarrying
  rw [List.reverse_append, List.reverse_singleton, List.singleton_append,
    List.find?_cons]
  split <;> simp_all

theorem shows_converted (p : TilePacket) (field : String) (scene : σ) :
    p.Shows mapTileHeightAdjust field
      ((p.converted mapTileHeightAdjust scene).get? field) := by
  unfold TilePacket.Shows
  by_cases hheight : field = "height"
  · rw [if_pos hheight, hheight]
    exact ⟨scene, rfl⟩
  · rw [if_neg hheight]
    have hextras : (p.converted mapTileHeightAdjust scene).get? field
        = p.withExtras.get? field := by
      unfold TilePacket.converted
      cases mapTileHeightAdjust scene p.withExtras with
      | none => rfl
      | some height => exact Dict.get?_set_of_ne _ _ hheight
    rw [hextras]
    unfold TilePacket.withExtras
    by_cases hbits : field = "extras"
    · rw [if_pos hbits, hbits, Dict.get?_set, if_pos rfl]
    · rw [if_neg hbits, Dict.get?_set_of_ne _ _ hbits]

theorem isSome_converted {p : TilePacket} {field : String} (scene : σ)
    (hfield : (p.fields.get? field).isSome = true) :
    ((p.converted mapTileHeightAdjust scene).get? field).isSome = true := by
  have hextras : (p.withExtras.get? field).isSome = true := by
    unfold TilePacket.withExtras
    rw [Dict.get?_set]
    split
    · rfl
    · exact hfield
  unfold TilePacket.converted
  cases mapTileHeightAdjust scene p.withExtras with
  | none => exact hextras
  | some height =>
    show ((p.withExtras.set "height" height).get? field).isSome = true
    rw [Dict.get?_set]
    split
    · rfl
    · exact hextras

theorem get?_converted_eq_none {p : TilePacket} {field : String} {scene : σ}
    (hp : p.Complete mapTileHeightAdjust scene)
    (hfield : p.fields.get? field = none) :
    (p.converted mapTileHeightAdjust scene).get? field = none := by
  have hbits : field ≠ "extras" := by
    intro heq
    have hsome := hp.1
    rw [← heq, hfield] at hsome
    cases hsome
  have hextras : p.withExtras.get? field = none :=
    (Dict.get?_set_of_ne _ _ hbits).trans hfield
  unfold TilePacket.converted
  cases hadjust : mapTileHeightAdjust scene p.withExtras with
  | none => exact hextras
  | some height =>
    have hheight : field ≠ "height" := by
      intro heq
      rcases hp.2 with hsome | hnone
      · rw [← heq, hfield] at hsome
        cases hsome
      · rw [hadjust] at hnone
        cases hnone
    exact (Dict.get?_set_of_ne _ _ hheight).trans hextras

theorem ShowsLast.update {log : List TilePacket} {p : TilePacket}
    {tile : Tile} {scene : σ}
    (h : ShowsLast mapTileHeightAdjust log p.tile tile)
    (hp : p.Complete mapTileHeightAdjust scene) :
    ShowsLast mapTileHeightAdjust (log ++ [p]) p.tile
      (tile.update (p.converted mapTileHeightAdjust scene)) := by
  intro field q hq
  rw [lastCarrying_append] at hq
  rw [Dict.get?_update]
  cases hfield : p.fields.get? field with
  | none =>
    rw [get?_converted_eq_none hp hfield, Option.none_or]
    refine h field q ?_
    simpa [hfield] using hq
  | some v =>
    have hsome : (p.fields.get? field).isSome = true := by
      rw [hfield]
      rfl
    have hqp : p = q := by simpa [hfield] using hq
    have hmerged : ((p.converted mapTileHeightAdjust scene).get?
        field).isSome = true := isSome_converted scene hsome
    obtain ⟨w, hw⟩ := Option.isSome_iff_exists.mp hmerged
    have hshows : p.Shows mapTileHeightAdjust field
        ((p.converted mapTileHeightAdjust scene).get? field) :=
      shows_converted p field scene
    rw [hw] at hshows ⊢
    rw [← hqp]
    exact hshows

theorem ShowsLast.append_of_ne {log : List TilePacket} {p : TilePacket}
    {t : Nat} {tile : Tile} (h : ShowsLast mapTileHeightAdjust log t tile)
    (hne : p.tile ≠ t) :
    ShowsLast mapTileHeightAdjust (log ++ [p]) t tile := by
  intro field q hq
  rw [lastCarrying_append, if_neg (by simp [hne])] at hq
  exact h field q hq

-- ==== all tiles

/-- All the tiles of the map are there and show the packets. -/
def ShowAll (mapTileHeightAdjust : σ → Tile → Option TileValue) (size : Nat)
    (log : List TilePacket) (tiles : Dict Nat Tile) : Prop :=
  ∀ t, t < size → ∃ tile, tiles.get? t = some tile
    ∧ ShowsLast mapTileHeightAdjust log t tile

theorem ShowAll.write {size : Nat} {log : List TilePacket}
    {tiles : Dict Nat Tile} {p : TilePacket} {scene : σ}
    (h : ShowAll mapTileHeightAdjust size log tiles)
    (hp : p.Complete mapTileHeightAdjust scene) :
    ShowAll mapTileHeightAdjust size (log ++ [p])
      (tiles.set p.tile (((tiles.get? p.tile).getD ∅).update
        (p.converted mapTileHeightAdjust scene))) := by
  intro t ht
  obtain ⟨tile, hget, hshows⟩ := h t ht
  rw [Dict.get?_set]
  by_cases htp : t = p.tile
  · rw [if_pos htp]
    subst htp
    rw [hget]
    exact ⟨_, rfl, hshows.update hp⟩
  · rw [if_neg htp]
    exact ⟨tile, hget, hshows.append_of_ne (fun h => htp h.symm)⟩

theorem exists_mapAllocate (m : MapInfo) {t : Nat}
    (ht : t < m.xsize * m.ysize) :
    ∃ tile, (mapAllocate m).get? t = some tile := by
  have hpos : 0 < m.xsize := by
    rcases Nat.eq_zero_or_pos m.xsize with hzero | hpos
    · rw [hzero, Nat.zero_mul] at ht
      cases ht
    · exact hpos
  unfold mapAllocate
  rw [Dict.get?_ofList]
  refine Option.isSome_iff_exists.mp ?_
  rw [Option.isSome_map, List.find?_isSome]
  refine ⟨(t % m.xsize + t / m.xsize * m.xsize,
    tileInit m (t % m.xsize) (t / m.xsize)), ?_, ?_⟩
  · rw [List.mem_reverse, List.mem_flatMap]
    refine ⟨t % m.xsize, List.mem_range.mpr (Nat.mod_lt t hpos), ?_⟩
    refine List.mem_map.mpr ⟨t / m.xsize, List.mem_range.mpr ?_, rfl⟩
    exact Nat.div_lt_of_lt_mul ht
  · refine decide_eq_true ?_
    show t % m.xsize + t / m.xsize * m.xsize = t
    rw [Nat.mul_comm]
    exact Nat.mod_add_div t m.xsize

theorem showAll_mapAllocate (m : MapInfo) :
    ShowAll mapTileHeightAdjust (m.xsize * m.ysize) [] (mapAllocate m) := by
  intro t ht
  obtain ⟨tile, htile⟩ := exists_mapAllocate m ht
  exact ⟨tile, htile, fun field p hp => by cases hp⟩

-- ==== the replay

theorem handleTileInfo_of_ready (hready : c.tilesInitialized = true)
    {p : TilePacket} {drawing : Drawing} (hd : drawing ≠ .raisedBefore) :
    c.handleTileInfo mapTileHeightAdjust p drawing
      = ({ c with
          tiles := c.tiles.set p.tile (((c.tiles.get? p.tile).getD ∅).update
            (p.converted mapTileHeightAdjust c.scene)) },
        decide (drawing = .done)) := by
  unfold handleTileInfo
  rw [if_pos hready, if_neg hd]

/-- The parts of the client that writing tiles leaves. -/
structure SameButTiles (c c' : TileClient σ) : Prop where
  ready : c'.tilesInitialized = c.tilesInitialized
  pending : c'.pendingTilePackets = c.pendingTilePackets
  map : c'.map = c.map
  scene : c'.scene = c.scene
  log : c'.log = c.log

theorem replay_showAll {size : Nat} {done packets : List TilePacket}
    {drawings : List Drawing} (hready : c.tilesInitialized = true)
    (h : ShowAll mapTileHeightAdjust size done c.tiles)
    (hreplayed : Replayed packets drawings)
    (hcomplete : ∀ p ∈ packets, p.Complete mapTileHeightAdjust c.scene) :
    ShowAll mapTileHeightAdjust size (done ++ packets)
        (c.replay mapTileHeightAdjust packets drawings).1.tiles
      ∧ SameButTiles c (c.replay mapTileHeightAdjust packets drawings).1 := by
  induction packets generalizing c done drawings with
  | nil =>
    rw [List.append_nil]
    exact ⟨h, rfl, rfl, rfl, rfl, rfl⟩
  | cons p packets ih =>
    have hd : drawings.headD .done ≠ .raisedBefore := by
      cases packets with
      | nil => exact hreplayed
      | cons q rest =>
        rw [hreplayed.1]
        exact Drawing.noConfusion
    have hwrite := h.write (hcomplete p List.mem_cons_self)
    unfold replay
    rw [handleTileInfo_of_ready hready hd]
    dsimp only
    by_cases hdone : drawings.headD .done = .done
    · rw [if_pos (decide_eq_true hdone)]
      have hrest : Replayed packets drawings.tail := by
        cases packets with
        | nil => trivial
        | cons q rest => exact hreplayed.2
      obtain ⟨hall, hsame⟩ := ih (c := { c with
          tiles := c.tiles.set p.tile (((c.tiles.get? p.tile).getD ∅).update
            (p.converted mapTileHeightAdjust c.scene)) }) hready hwrite hrest
        fun q hq => hcomplete q (List.mem_cons_of_mem p hq)
      rw [List.append_assoc] at hall
      exact ⟨hall, hsame.ready, hsame.pending, hsame.map, hsame.scene,
        hsame.log⟩
    · -- only the last packet's drawing may raise
      have hlast : packets = [] := by
        cases packets with
        | nil => rfl
        | cons q rest => exact absurd hreplayed.1 hdone
      rw [if_neg (by rw [decide_eq_false hdone]; exact Bool.false_ne_true),
        hlast]
      exact ⟨hwrite, rfl, rfl, rfl, rfl, rfl⟩

-- ==== the steps

/-- What a connection's start keeps. -/
structure Kept (mapTileHeightAdjust : σ → Tile → Option TileValue)
    (c : TileClient σ) : Prop where
  waiting : c.map = none →
    c.tilesInitialized = false ∧ c.pendingTilePackets = c.log
      ∧ c.log.length < maxPendingTilePackets
  ready : ∀ m, c.map = some m → c.tilesInitialized = true
    ∧ ShowAll mapTileHeightAdjust (m.xsize * m.ysize) c.log c.tiles

theorem Kept.tilesKept (h : c.Kept mapTileHeightAdjust) :
    c.TilesKept mapTileHeightAdjust := fun m hm => (h.ready m hm).2

/-- A change of the client's state leaves the tiles, and what is
buffered unless it enters the game. -/
theorem Kept.switch (h : c.Kept mapTileHeightAdjust)
    (hready : c'.tilesInitialized = c.tilesInitialized)
    (htiles : c'.tiles = c.tiles) (hmap : c'.map = c.map)
    (hlog : c'.log = c.log)
    (hpending : c.map = none → c'.pendingTilePackets = c.pendingTilePackets) :
    c'.Kept mapTileHeightAdjust where
  waiting hnone := by
    rw [hmap] at hnone
    rw [hready, hlog, hpending hnone]
    exact h.waiting hnone
  ready m hm := by
    rw [hready, htiles, hlog]
    exact h.ready m (hmap ▸ hm)

theorem Kept.updateClientState (h : c.Kept mapTileHeightAdjust)
    (value : CivclientState) (switched : Bool)
    (hcleared : c.map = none → value = .running →
      c.pendingTilePackets = []
        ∨ c.civclientState ≠ .running ∧ switched = false) :
    (c.updateClientState value switched).Kept mapTileHeightAdjust := by
  unfold TileClient.updateClientState
  by_cases hrun : value = .running
  · rw [if_pos hrun]
    split
    · exact h.switch rfl rfl rfl rfl fun _ => rfl
    next hraised =>
      refine h.switch rfl rfl rfl rfl fun hnone => ?_
      rcases hcleared hnone hrun with hempty | hstill
      · exact hempty.symm
      · exact absurd hstill hraised
  · rw [if_neg hrun]
    exact h.switch rfl rfl rfl rfl fun _ => rfl

theorem process_tileInfo (p : TilePacket) (drawing : Drawing) :
    c.process mapTileHeightAdjust (.tileInfo p drawing)
      = { (c.handleTileInfo mapTileHeightAdjust p drawing).1 with
          log := c.log ++ [p] } := (rfl)

theorem Kept.tileInfo {p : TilePacket} {drawing : Drawing}
    (h : c.Kept mapTileHeightAdjust) (hsent : c.Sent (.tileInfo p drawing))
    (hkeeps : c.KeepsTiles mapTileHeightAdjust (.tileInfo p drawing)) :
    (c.process mapTileHeightAdjust (.tileInfo p drawing)).Kept
      mapTileHeightAdjust := by
  cases hmap : c.map with
  | none =>
    obtain ⟨hready, hpending, -⟩ := h.waiting hmap
    have hroom : c.log.length + 1 < maxPendingTilePackets := by
      unfold Sent at hsent
      rw [hmap] at hsent
      exact hsent
    have hcall : c.handleTileInfo mapTileHeightAdjust p drawing
        = ({ c with pendingTilePackets := c.pendingTilePackets ++ [p] },
          true) := by
      unfold handleTileInfo
      rw [if_neg (by rw [hready]; exact Bool.false_ne_true), if_neg]
      rw [hpending]
      omega
    rw [process_tileInfo, hcall]
    constructor
    · intro _
      refine ⟨hready, ?_, ?_⟩
      · show c.pendingTilePackets ++ [p] = c.log ++ [p]
        rw [hpending]
      · show (c.log ++ [p]).length < maxPendingTilePackets
        rw [List.length_append, List.length_singleton]
        exact hroom
    · intro m hm
      rw [show c.map = some m from hm] at hmap
      cases hmap
  | some m =>
    obtain ⟨hready, hall⟩ := h.ready m hmap
    obtain ⟨hd, hcomplete⟩ := hkeeps hready
    rw [process_tileInfo, handleTileInfo_of_ready hready hd]
    constructor
    · intro hnone
      rw [show c.map = none from hnone] at hmap
      cases hmap
    · intro m' hm'
      rw [show c.map = some m' from hm'] at hmap
      cases hmap
      exact ⟨hready, hall.write hcomplete⟩

theorem Kept.mapInfo {m : MapInfo} {images switched : Bool}
    {drawings : List Drawing} (h : c.Kept mapTileHeightAdjust)
    (hsent : c.Sent (.mapInfo m images drawings switched))
    (hkeeps : c.KeepsTiles mapTileHeightAdjust
      (.mapInfo m images drawings switched)) :
    (c.handleMapInfo mapTileHeightAdjust m images drawings switched).Kept
      mapTileHeightAdjust := by
  obtain ⟨himages, hreplayed, hcomplete⟩ := hkeeps
  obtain ⟨-, hpending, -⟩ := h.waiting hsent.1
  obtain ⟨hall, hsame⟩ := replay_showAll (c := { c with
      map := some m, tiles := mapAllocate m, tilesInitialized := true,
      pendingTilePackets := [] }) rfl (showAll_mapAllocate m) hreplayed
    hcomplete
  have hreplay : ((({ c with
      map := some m, tiles := mapAllocate m, tilesInitialized := true,
      pendingTilePackets := [] } : TileClient σ).replay mapTileHeightAdjust
        c.pendingTilePackets drawings).1).Kept mapTileHeightAdjust := by
    constructor
    · intro hnone
      rw [hsame.map] at hnone
      cases hnone
    · intro m' hm'
      rw [hsame.map] at hm'
      cases hm'
      rw [hsame.ready, hsame.log]
      rw [List.nil_append, hpending] at hall
      refine ⟨rfl, ?_⟩
      rw [hpending]
      exact hall
  unfold handleMapInfo
  rw [if_pos himages]
  dsimp only
  split
  · refine hreplay.updateClientState .running switched fun hnone => ?_
    rw [hsame.map] at hnone
    cases hnone
  · exact hreplay

theorem Kept.process {act : StartupAct σ} (h : c.Kept mapTileHeightAdjust)
    (hsent : c.Sent act) (hkeeps : c.KeepsTiles mapTileHeightAdjust act) :
    (c.process mapTileHeightAdjust act).Kept mapTileHeightAdjust := by
  cases act with
  | tileInfo p drawing => exact h.tileInfo hsent hkeeps
  | mapInfo m images drawings switched => exact h.mapInfo hsent hkeeps
  | gameInfo turn switched =>
    show (c.handleGameInfo turn switched).Kept mapTileHeightAdjust
    have hturn : ({ c with gameTurn := some turn } : TileClient σ).Kept
        mapTileHeightAdjust := h.switch rfl rfl rfl rfl fun _ => rfl
    unfold handleGameInfo
    dsimp only
    split
    next hmap =>
      refine hturn.updateClientState .running switched fun hnone => ?_
      have hsize := hmap.2.2
      rw [show c.map = none from hnone] at hsize
      cases hsize
    next => exact hturn
  | startPhase switched =>
    refine h.updateClientState .running switched fun hnone _ => ?_
    rcases hkeeps with hready | hkeeps
    · rw [(h.waiting hnone).1] at hready
      cases hready
    · exact hkeeps
  | rulesetControl scene =>
    show (c.handleRulesetControl scene).Kept mapTileHeightAdjust
    unfold handleRulesetControl
    split
    · exact h
    · have hprepared := h.updateClientState .preparing true
        fun _ hrun => CivclientState.noConfusion hrun
      exact hprepared.switch rfl rfl rfl rfl fun _ => rfl
  | other scene state => exact h.switch rfl rfl rfl rfl fun _ => rfl

-- ==== the runs

def fresh : TileClient Unit where
  tiles := ∅
  tilesInitialized := false
  pendingTilePackets := []
  map := none
  gameTurn := none
  civclientState := .initial
  scene := ()
  log := []

/-- `map_tile_height_adjust` while no terrain is known. -/
def noTerrains : Unit → Tile → Option TileValue := fun _ _ => none

def ownedTile (t : Nat) (owner : Rat) : TilePacket where
  tile := t
  fields := Dict.ofList [("tile", .number t), ("owner", .number owner),
    ("extras", .array [0, 4]), ("height", .number 20)]

/-- Two tiles come before the map, one of them again after it. -/
def mapInTime : List (StartupAct Unit) :=
  [.tileInfo (ownedTile 0 1) .done, .gameInfo 7 true,
    .rulesetControl (), .tileInfo (ownedTile 1 1) .done,
    .mapInfo ⟨2, 1⟩ true [] true, .tileInfo (ownedTile 0 2) .raisedAfter,
    .startPhase true]

def phaseFirst : List (StartupAct Unit) :=
  [.tileInfo (ownedTile 0 1) .done, .startPhase true,
    .mapInfo ⟨2, 1⟩ true [] true]

end TileClient

end Freeciv3d.Web
