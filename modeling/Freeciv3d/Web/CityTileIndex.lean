/-
The number of a tile in the data of its city: `get_city_dxy_to_index` and
the table it keeps.

# The code

The table holds the vectors up to the largest radius seen, in order, and
for each way the edges of the map clip them the number of every vector left
(`Numbered`). The distances and the clipping come from functions that
replace themselves at their first call; such a function is the map of that
call.

# When the number is right

The functions keep the flags of their first call and the clipped tables the
sizes of theirs; the map may have become another one since. And it is the
open dialog's city, not the one asked about, whose tile the edges clip.
-/
import Mathlib.Data.List.Sort
import Mathlib.Data.Prod.Lex
import Freeciv3d.Lib.Ranks
import Freeciv3d.Web.MapVectors

namespace Freeciv3d.Web

namespace CityTiles

open Lib

-- ==== the code

structure TileData where
  dx : Int
  dy : Int
  dSq : Int
  centerIndex : Int

structure CityTileMap where
  radiusSq : Nat
  radius : Nat
  baseSorted : List TileData
  maps : Int → Option (Int → Option Nat)

structure City where
  tile : Nat
  cityRadiusSq : Nat

structure Client where
  map : WrappedMap
  cityTileMap : Option CityTileMap
  /-- `map_vector_to_sq_distance`, by the map of its first call. -/
  sqDistance : Option WrappedMap
  /-- `map_vector_to_distance`. -/
  distance : Option WrappedMap
  /-- `get_city_tile_map_for_pos`. -/
  tileMapForPos : Option WrappedMap

/-- `map = {}`: no flag and no tile. -/
def Client.start : Client :=
  ⟨⟨⟨0, 0, false, false⟩, false, false⟩, none, none, none, none⟩

def dxyToCenterIndex (dx dy : Int) (r : Nat) : Int :=
  (dx + r) * (2 * r + 1) + dy + r

def mapVectorToDistance (m : WrappedMap) (dx dy : Int) : Int :=
  if m.hex then
    if m.iso then
      if (dx < 0 ∧ dy > 0) ∨ (dx > 0 ∧ dy < 0) then |dx| + |dy|
      else max |dx| |dy|
    else
      if (dx > 0 ∧ dy > 0) ∨ (dx < 0 ∧ dy < 0) then |dx| + |dy|
      else max |dx| |dy|
  else max |dx| |dy|

/-- What the two functions came to be at their first calls. -/
def mapVectorToSqDistance (sq dist : WrappedMap) (dx dy : Int) : Int :=
  if sq.hex then
    let d := mapVectorToDistance dist dx dy
    d * d
  else dx * dx + dy * dy

def compareTiles (a b : TileData) : Int :=
  if a.dSq - b.dSq ≠ 0 then a.dSq - b.dSq
  else if a.dx - b.dx ≠ 0 then a.dx - b.dx
  else a.dy - b.dy

/-- From `-r` to `r`. -/
def span (r : Nat) : List Int :=
  (List.range (2 * r + 1)).map fun i : Nat => (i : Int) - r

/-- The loops and the sort of `build_city_tile_map`. -/
def sortedVectors (sq dist : WrappedMap) (radiusSq : Nat) :
    List TileData :=
  let r := radiusSq.sqrt
  let vectors := (span r).flatMap fun dx => (span r).map fun dy =>
    (⟨dx, dy, mapVectorToSqDistance sq dist dx dy, dxyToCenterIndex dx dy r⟩
      : TileData)
  (vectors.filter fun v => v.dSq ≤ (radiusSq : Int)).insertionSort
    fun a b => compareTiles a b ≤ 0

def numberTiles (v : List TileData) : Int → Option Nat :=
  numberFrom TileData.centerIndex v 0 fun _ => none

def buildCityTileMap (s : Client) (radiusSq : Nat) : Client :=
  if s.cityTileMap.any fun t => radiusSq ≤ t.radiusSq then s
  else
    let sq := s.sqDistance.getD s.map
    let dist := s.distance.getD s.map
    let vectors := sortedVectors sq dist radiusSq
    { s with
      cityTileMap := some
        { radiusSq
          radius := radiusSq.sqrt
          baseSorted := vectors
          maps := fun k => if k = 0 then some (numberTiles vectors) else none }
      sqDistance := some sq
      distance := if sq.hex then some dist else s.distance }

structure Limits where
  dxMin : Int
  dxMax : Int
  dyMin : Int
  dyMax : Int

def Limits.within (l : Limits) (dx dy : Int) : Bool :=
  l.dxMin ≤ dx ∧ dx ≤ l.dxMax ∧ l.dyMin ≤ dy ∧ dy ≤ l.dyMax

def deltaTileHelper (pos r size : Int) : Int × Int × Int :=
  let dMin := -pos
  let dMax := (size - 1) - pos
  let i := if dMin > -r then r + dMin else if dMax < r then 2 * r - dMax else 0
  (dMin, dMax, i)

def buildCityTileMapWithLimits (v : List TileData) (l : Limits) :
    Int → Option Nat :=
  numberTiles (v.filter fun a => l.within a.dx a.dy)

/-- The entry of `maps` and the limits, by the flags of the first call. On
the torus the entry is that of the whole table. -/
def clipping (flags map : WrappedMap) (r x y : Int) : Int × Limits :=
  let dx := deltaTileHelper x r map.xsize
  let dy := deltaTileHelper y r map.ysize
  if flags.wrapX then
    if flags.wrapY then (0, ⟨-r, r, -r, r⟩)
    else (dy.2.2, ⟨-r, r, dy.1, dy.2.1⟩)
  else
    if flags.wrapY then (dx.2.2, ⟨dx.1, dx.2.1, -r, r⟩)
    else ((2 * r + 1) * dx.2.2 + dy.2.2, ⟨dx.1, dx.2.1, dy.1, dy.2.1⟩)

/-- `get_city_tile_map_for_pos`, as it came to be. -/
def getCityTileMapForPos (t : CityTileMap) (clip : Int × Limits) :
    CityTileMap × (Int → Option Nat) :=
  match t.maps clip.1 with
  | some m => (t, m)
  | none =>
    let m := buildCityTileMapWithLimits t.baseSorted clip.2
    ({ t with maps := Function.update t.maps clip.1 (some m) }, m)

/-- `city_tile`; `none` where reading its position throws. -/
def cityTile (m : WrappedMap) (pcity : Option City) : Option Nat :=
  match pcity with
  | none => none
  | some c => if c.tile < m.xsize * m.ysize then some c.tile else none

def getCityDxyToIndex (s : Client) (activeCity : Option City) (pcity : City)
    (dx dy : Int) : Client × Option Nat :=
  let s := buildCityTileMap s pcity.cityRadiusSq
  match s.cityTileMap, cityTile s.map activeCity with
  | some t, some ctile =>
    let flags := s.tileMapForPos.getD s.map
    let found := getCityTileMapForPos t
      (clipping flags s.map t.radius (s.map.tileX ctile) (s.map.tileY ctile))
    ({ s with cityTileMap := some found.1, tileMapForPos := some flags },
      found.2 (dxyToCenterIndex dx dy t.radius))
  | _, _ => (s, none)

-- ==== the statement

inductive Label where
  /-- `PACKET_MAP_INFO`. -/
  | mapInfo (packet : WrappedMap)
  | dxyToIndex (activeCity : Option City) (pcity : City) (dx dy : Int)

def system : Lts Client Label where
  init s := s = Client.start
  step s label :=
    match label with
    | .mapInfo packet => some { s with map := packet }
    | .dxyToIndex activeCity pcity dx dy =>
      some (getCityDxyToIndex s activeCity pcity dx dy).1

/-- The tile at the vector is on the map. -/
def OnMap (m : WrappedMap) (tile : Nat) (v : Int × Int) : Prop :=
  (m.xAxis.move (m.tileX tile) v.1).isSome
    ∧ (m.yAxis.move (m.tileY tile) v.2).isSome

def sqDistance (m : WrappedMap) (v : Int × Int) : Int :=
  mapVectorToSqDistance m m v.1 v.2

/-- Where a vector comes in the order: by the square distance, then `dx`,
then `dy`. -/
def place (m : WrappedMap) (v : Int × Int) : Int ×ₗ Int ×ₗ Int :=
  toLex (sqDistance m v, toLex v)

def workable (m : WrappedMap) (city : City) : Set (Int × Int) :=
  {v | sqDistance m v ≤ city.cityRadiusSq ∧ OnMap m city.tile v}

noncomputable def rank (m : WrappedMap) (city : City) (v : Int × Int) : Nat :=
  {w ∈ workable m city | place m w < place m v}.ncard

/-- The code numbers the vectors of the city by their rank. -/
def NumbersRight (s : Client) (activeCity : Option City) (pcity : City) :
    Prop :=
  ∀ v ∈ workable s.map pcity,
    (getCityDxyToIndex s activeCity pcity v.1 v.2).2
      = some (rank s.map pcity v)

/-- The maps measure alike and end at the same edges. -/
structure Alike (m m' : WrappedMap) : Prop where
  hex : m.hex = m'.hex
  iso : m.hex = true → m.iso = m'.iso
  wrapX : m.wrapX = m'.wrapX
  wrapY : m.wrapY = m'.wrapY
  xsize : m.wrapX = false → m.xsize = m'.xsize
  ysize : m.wrapY = false → m.ysize = m'.ysize

/-- One of the functions was called first on this map. -/
def Client.FirstCalledOn (s : Client) (m : WrappedMap) : Prop :=
  s.sqDistance = some m ∨ s.distance = some m ∨ s.tileMapForPos = some m

/-- The map is still like the one of the first calls. -/
def SameMap (s : Client) : Prop :=
  ∀ m, s.FirstCalledOn m → Alike m s.map

/-- The condition on a step: when the table is asked. -/
def StepCondition (s : Client) : Label → Prop
  | .mapInfo _ => True
  | .dxyToIndex .. => SameMap s

/-- A dialog is open, and the edges of the map cut the vectors the same at
its city as at the one asked about. -/
def SameEdges (m : WrappedMap) (activeCity : Option City) (pcity : City) :
    Prop :=
  ∃ tile, cityTile m activeCity = some tile
    ∧ ∀ v, sqDistance m v ≤ pcity.cityRadiusSq →
        (OnMap m tile v ↔ OnMap m pcity.tile v)

-- ==== the vectors

theorem digits_inj {w i j i' j' : Int} (hj : 0 ≤ j ∧ j < w)
    (hj' : 0 ≤ j' ∧ j' < w) (h : i * w + j = i' * w + j') :
    i = i' ∧ j = j' := by
  rcases lt_trichotomy i i' with hlt | rfl | hlt
  · have := mul_le_mul_of_nonneg_right (Int.add_one_le_of_lt hlt)
      (by omega : 0 ≤ w)
    rw [add_mul] at this
    omega
  · exact ⟨rfl, by omega⟩
  · have := mul_le_mul_of_nonneg_right (Int.add_one_le_of_lt hlt)
      (by omega : 0 ≤ w)
    rw [add_mul] at this
    omega

/-- Within the radius on both axes. -/
def InBox (r : Nat) (dx dy : Int) : Prop :=
  (-r ≤ dx ∧ dx ≤ r) ∧ -r ≤ dy ∧ dy ≤ r

theorem dxyToCenterIndex_inj {r : Nat} {dx dy dx' dy' : Int}
    (h : InBox r dx dy) (h' : InBox r dx' dy')
    (heq : dxyToCenterIndex dx dy r = dxyToCenterIndex dx' dy' r) :
    dx = dx' ∧ dy = dy' := by
  obtain ⟨-, hdy⟩ := h
  obtain ⟨-, hdy'⟩ := h'
  have heq : (dx + r) * (2 * r + 1) + (dy + r)
      = (dx' + r) * (2 * r + 1) + (dy' + r) := by
    simpa only [dxyToCenterIndex, add_assoc] using heq
  have := digits_inj (by omega) (by omega) heq
  omega

theorem mem_span {r : Nat} {d : Int} : d ∈ span r ↔ -r ≤ d ∧ d ≤ r := by
  simp only [span, List.mem_map, List.mem_range]
  constructor
  · rintro ⟨i, hi, rfl⟩
    omega
  · intro h
    exact ⟨(d + r).toNat, by omega, by omega⟩

def TileData.vector (a : TileData) : Int × Int := (a.dx, a.dy)

def TileData.order (a : TileData) : Int ×ₗ Int ×ₗ Int :=
  toLex (a.dSq, toLex a.vector)

theorem compareTiles_nonpos {a b : TileData} :
    compareTiles a b ≤ 0 ↔ a.order ≤ b.order := by
  simp only [TileData.order, TileData.vector, Prod.Lex.toLex_le_toLex,
    compareTiles]
  split_ifs <;> omega

variable {sq dist m : WrappedMap} {radiusSq : Nat}

theorem mem_sortedVectors {a : TileData} :
    a ∈ sortedVectors sq dist radiusSq ↔ InBox radiusSq.sqrt a.dx a.dy
      ∧ a.dSq = mapVectorToSqDistance sq dist a.dx a.dy
      ∧ a.centerIndex = dxyToCenterIndex a.dx a.dy radiusSq.sqrt
      ∧ a.dSq ≤ radiusSq := by
  simp only [sortedVectors, List.mem_insertionSort, List.mem_filter,
    List.mem_flatMap, List.mem_map, mem_span, decide_eq_true_eq, InBox]
  constructor
  · rintro ⟨⟨dx, hx, dy, hy, rfl⟩, hle⟩
    exact ⟨⟨hx, hy⟩, rfl, rfl, hle⟩
  · rintro ⟨⟨hx, hy⟩, hd, hi, hle⟩
    refine ⟨⟨a.dx, hx, a.dy, hy, ?_⟩, hle⟩
    rw [← hd, ← hi]

theorem nodup_vectors :
    ((sortedVectors sq dist radiusSq).map TileData.vector).Nodup := by
  have hspan : (span radiusSq.sqrt).Nodup :=
    List.nodup_range.map fun i j h => by simpa using h
  unfold sortedVectors
  rw [((List.perm_insertionSort _ _).map TileData.vector).nodup_iff]
  apply List.Nodup.sublist (List.filter_sublist.map _)
  have hprod : ∀ l : List Int, (l.flatMap fun dx => l.map fun dy =>
      (⟨dx, dy, mapVectorToSqDistance sq dist dx dy,
        dxyToCenterIndex dx dy radiusSq.sqrt⟩ : TileData)).map
          TileData.vector = l ×ˢ l := by
    intro l
    simp [List.map_flatMap, TileData.vector, SProd.sprod, List.product,
      Function.comp_def]
  rw [hprod]
  exact hspan.product hspan

theorem sorted_vectors :
    (sortedVectors sq dist radiusSq).Pairwise (·.order < ·.order) := by
  have htotal : Std.Total fun a b : TileData => compareTiles a b ≤ 0 :=
    ⟨fun a b => by simp only [compareTiles_nonpos]; exact le_total _ _⟩
  have htrans : IsTrans TileData fun a b => compareTiles a b ≤ 0 :=
    ⟨fun a b c => by simp only [compareTiles_nonpos]; exact le_trans⟩
  have hle : (sortedVectors sq dist radiusSq).Pairwise fun a b =>
    compareTiles a b ≤ 0 := List.pairwise_insertionSort _ _
  have hnodup : ((sortedVectors sq dist radiusSq).map
      TileData.vector).Nodup := nodup_vectors
  have hne := List.pairwise_map.mp hnodup
  refine (hle.and hne).imp fun h => ?_
  refine lt_of_le_of_ne (compareTiles_nonpos.mp h.1) fun heq => h.2 ?_
  exact (Prod.mk.inj heq).2

theorem numberTiles_eq {p : TileData → Bool} {a : TileData}
    (ha : a ∈ (sortedVectors sq dist radiusSq).filter p) :
    numberTiles ((sortedVectors sq dist radiusSq).filter p) a.centerIndex
      = some (((sortedVectors sq dist radiusSq).filter p).countP
          (·.order < a.order)) := by
  have hkeys : (((sortedVectors sq dist radiusSq).filter p).map
      TileData.centerIndex).Nodup := by
    refine List.Nodup.map_on (fun b hb c hc h => ?_)
      (nodup_vectors.of_map.sublist List.filter_sublist)
    obtain ⟨hb, hbd, hbi, -⟩ := mem_sortedVectors.mp (List.mem_of_mem_filter hb)
    obtain ⟨hc, hcd, hci, -⟩ := mem_sortedVectors.mp (List.mem_of_mem_filter hc)
    obtain ⟨hx, hy⟩ := dxyToCenterIndex_inj hb hc (hbi ▸ hci ▸ h)
    cases b
    cases c
    simp_all
  unfold numberTiles
  rw [numberFrom_eq (r := fun a b : TileData => a.order < b.order)
    (fun _ _ => lt_asymm) (sorted_vectors.sublist List.filter_sublist) hkeys
    ha, Nat.zero_add]

-- ==== the edges

/-- A position of the map, as far as it ends. -/
def OnAxes (m : WrappedMap) (x y : Int) : Prop :=
  (m.wrapX = false → 0 ≤ x ∧ x < m.xsize)
    ∧ (m.wrapY = false → 0 ≤ y ∧ y < m.ysize)

theorem deltaTileHelper_bound {pos r size : Int} (hr : 0 ≤ r)
    (hpos : 0 ≤ pos ∧ pos < size) :
    0 ≤ (deltaTileHelper pos r size).2.2
      ∧ (deltaTileHelper pos r size).2.2 < 2 * r + 1 := by
  simp only [deltaTileHelper]
  split_ifs <;> omega

theorem deltaTileHelper_inj {pos pos' r size d : Int}
    (hpos : 0 ≤ pos ∧ pos < size) (hpos' : 0 ≤ pos' ∧ pos' < size)
    (hd : -r ≤ d ∧ d ≤ r)
    (h : (deltaTileHelper pos r size).2.2
      = (deltaTileHelper pos' r size).2.2) :
    (0 ≤ pos + d ∧ pos + d < size) ↔ 0 ≤ pos' + d ∧ pos' + d < size := by
  simp only [deltaTileHelper] at h
  split_ifs at h <;> omega

theorem deltaTileHelper_zero {pos r size d : Int}
    (hpos : 0 ≤ pos ∧ pos < size) (hd : -r ≤ d ∧ d ≤ r)
    (h : (deltaTileHelper pos r size).2.2 = 0) :
    0 ≤ pos + d ∧ pos + d < size := by
  simp only [deltaTileHelper] at h
  split_ifs at h <;> omega

/-- The entry of `maps` by the third values. -/
def entry (m : WrappedMap) (r i j : Int) : Int :=
  if m.wrapX then if m.wrapY then 0 else j
  else if m.wrapY then i else (2 * r + 1) * i + j

theorem clipping_fst {r x y : Int} :
    (clipping m m r x y).1 = entry m r (deltaTileHelper x r m.xsize).2.2
      (deltaTileHelper y r m.ysize).2.2 := by
  unfold clipping entry
  split_ifs <;> rfl

theorem entry_inj {r i j i' j' : Int}
    (hj : m.wrapY = false → 0 ≤ j ∧ j < 2 * r + 1)
    (hj' : m.wrapY = false → 0 ≤ j' ∧ j' < 2 * r + 1)
    (h : entry m r i j = entry m r i' j') :
    (m.wrapX = false → i = i') ∧ (m.wrapY = false → j = j') := by
  unfold entry at h
  cases hX : m.wrapX <;> cases hY : m.wrapY <;> simp [hX, hY] at h ⊢
  · rw [mul_comm, mul_comm _ i'] at h
    exact digits_inj (hj hY) (hj' hY) h
  · exact h
  · exact h

theorem within_iff {r : Nat} {x y dx dy : Int} (hbox : InBox r dx dy) :
    (clipping m m r x y).2.within dx dy = true
      ↔ (m.wrapX = false → 0 ≤ x + dx ∧ x + dx < m.xsize)
        ∧ (m.wrapY = false → 0 ≤ y + dy ∧ y + dy < m.ysize) := by
  obtain ⟨hdx, hdy⟩ := hbox
  unfold clipping Limits.within
  cases m.wrapX <;> cases m.wrapY <;> simp [deltaTileHelper] <;> omega

theorem clipping_inj {r : Nat} {x y x' y' dx dy : Int}
    (h : OnAxes m x y) (h' : OnAxes m x' y') (hbox : InBox r dx dy)
    (hkey : (clipping m m r x y).1 = (clipping m m r x' y').1) :
    (clipping m m r x y).2.within dx dy
      = (clipping m m r x' y').2.within dx dy := by
  rw [clipping_fst, clipping_fst] at hkey
  obtain ⟨hX, hY⟩ := entry_inj
    (fun hw => deltaTileHelper_bound (by omega) (h.2 hw))
    (fun hw => deltaTileHelper_bound (by omega) (h'.2 hw)) hkey
  rw [Bool.eq_iff_iff, within_iff hbox, within_iff hbox]
  apply and_congr
  · exact forall_congr' fun hw =>
      deltaTileHelper_inj (h.1 hw) (h'.1 hw) hbox.1 (hX hw)
  · exact forall_congr' fun hw =>
      deltaTileHelper_inj (h.2 hw) (h'.2 hw) hbox.2 (hY hw)

theorem within_of_entry_zero {r : Nat} {x y dx dy : Int} (h : OnAxes m x y)
    (hbox : InBox r dx dy) (hkey : (clipping m m r x y).1 = 0) :
    (clipping m m r x y).2.within dx dy = true := by
  have hzero : entry m r 0 0 = 0 := by simp [entry]
  rw [clipping_fst, ← hzero] at hkey
  obtain ⟨hX, hY⟩ := entry_inj
    (fun hw => deltaTileHelper_bound (by omega) (h.2 hw))
    (fun _ => by omega) hkey
  rw [within_iff hbox]
  exact ⟨fun hw => deltaTileHelper_zero (h.1 hw) hbox.1 (hX hw),
    fun hw => deltaTileHelper_zero (h.2 hw) hbox.2 (hY hw)⟩

theorem onMap_iff {tile : Nat} {v : Int × Int} :
    OnMap m tile v
      ↔ (m.wrapX = false →
          0 ≤ m.tileX tile + v.1 ∧ m.tileX tile + v.1 < m.xsize)
        ∧ (m.wrapY = false →
          0 ≤ m.tileY tile + v.2 ∧ m.tileY tile + v.2 < m.ysize) := by
  unfold OnMap Axis.move WrappedMap.xAxis WrappedMap.yAxis
  cases m.wrapX <;> cases m.wrapY <;> simp

-- ==== the table

theorem Alike.symm {m m' : WrappedMap} (h : Alike m m') : Alike m' m where
  hex := h.hex.symm
  iso hhex := (h.iso (h.hex ▸ hhex)).symm
  wrapX := h.wrapX.symm
  wrapY := h.wrapY.symm
  xsize hw := (h.xsize (h.wrapX ▸ hw)).symm
  ysize hw := (h.ysize (h.wrapY ▸ hw)).symm

theorem Alike.refl (m : WrappedMap) : Alike m m :=
  ⟨rfl, fun _ => rfl, rfl, rfl, fun _ => rfl, fun _ => rfl⟩

theorem Alike.sortedVectors_eq {sq dist m : WrappedMap} (hsq : Alike sq m)
    (hdist : Alike dist m) :
    sortedVectors sq dist radiusSq = sortedVectors m m radiusSq := by
  have hmeasure : mapVectorToSqDistance sq dist
      = mapVectorToSqDistance m m := by
    funext dx dy
    unfold mapVectorToSqDistance mapVectorToDistance
    rw [hsq.hex, hdist.hex]
    cases hhex : m.hex with
    | true => rw [hdist.iso (hdist.hex ▸ hhex)]
    | false => rfl
  unfold sortedVectors
  rw [hmeasure]

theorem Alike.clipping_eq {flags m m' : WrappedMap} (hf : Alike flags m)
    (h : Alike m m') {r x y : Int} :
    clipping flags m r x y = clipping m' m' r x y := by
  unfold clipping
  rw [hf.wrapX, hf.wrapY, h.wrapX, h.wrapY]
  cases hX : m'.wrapX <;> cases hY : m'.wrapY <;>
    simp [h.xsize, h.ysize, h.wrapX, h.wrapY, hX, hY]

theorem Alike.onAxes {m m' : WrappedMap} (h : Alike m m') {x y : Int}
    (hxy : OnAxes m x y) : OnAxes m' x y := by
  constructor
  · intro hw
    rw [← h.wrapX] at hw
    exact h.xsize hw ▸ hxy.1 hw
  · intro hw
    rw [← h.wrapY] at hw
    exact h.ysize hw ▸ hxy.2 hw

/-- The table is the one of the map: every clipping it has kept is that of
each position with its entry. -/
structure Numbered (m : WrappedMap) (t : CityTileMap) : Prop where
  radius : t.radius = t.radiusSq.sqrt
  sorted : t.baseSorted = sortedVectors m m t.radiusSq
  clipped : ∀ x y found, OnAxes m x y →
    t.maps (clipping m m t.radius x y).1 = some found →
    found = buildCityTileMapWithLimits t.baseSorted
      (clipping m m t.radius x y).2

theorem Numbered.of_alike {m m' : WrappedMap} {t : CityTileMap}
    (h : Alike m m') (ht : Numbered m t) : Numbered m' t where
  radius := ht.radius
  sorted := ht.sorted.trans (h.sortedVectors_eq h)
  clipped x y found hxy := by
    rw [← (Alike.refl m).clipping_eq h]
    exact ht.clipped x y found (h.symm.onAxes hxy)

theorem filter_within_congr {l l' : Limits}
    (h : ∀ dx dy, InBox radiusSq.sqrt dx dy →
      l.within dx dy = l'.within dx dy) :
    buildCityTileMapWithLimits (sortedVectors sq dist radiusSq) l
      = buildCityTileMapWithLimits (sortedVectors sq dist radiusSq) l' := by
  unfold buildCityTileMapWithLimits
  congr 1
  apply List.filter_congr
  intro a ha
  exact h _ _ (mem_sortedVectors.mp ha).1

theorem numbered_new :
    Numbered m
      { radiusSq
        radius := radiusSq.sqrt
        baseSorted := sortedVectors m m radiusSq
        maps := fun k =>
          if k = 0 then some (numberTiles (sortedVectors m m radiusSq))
          else none } where
  radius := rfl
  sorted := rfl
  clipped x y found hxy h := by
    dsimp only at h
    split at h
    case isTrue hkey =>
      obtain rfl := Option.some.inj h
      unfold buildCityTileMapWithLimits
      congr 1
      refine (List.filter_eq_self.mpr fun a ha => ?_).symm
      exact within_of_entry_zero hxy (mem_sortedVectors.mp ha).1 hkey
    case isFalse => cases h

theorem getCityTileMapForPos_numbered {t : CityTileMap} (ht : Numbered m t)
    {x y : Int} (hxy : OnAxes m x y) :
    Numbered m (getCityTileMapForPos t (clipping m m t.radius x y)).1
      ∧ (getCityTileMapForPos t (clipping m m t.radius x y)).2
        = buildCityTileMapWithLimits t.baseSorted
          (clipping m m t.radius x y).2 := by
  unfold getCityTileMapForPos
  split
  case h_1 found hfound => exact ⟨ht, ht.clipped x y found hxy hfound⟩
  case h_2 =>
    refine ⟨⟨ht.radius, ht.sorted, fun x' y' found hxy' h => ?_⟩, rfl⟩
    dsimp only at h ⊢
    by_cases hkey : (clipping m m t.radius x' y').1
        = (clipping m m t.radius x y).1
    · rw [hkey, Function.update_self] at h
      obtain rfl := Option.some.inj h
      rw [ht.sorted, ht.radius] at *
      exact filter_within_congr fun dx dy hbox =>
        clipping_inj hxy hxy' hbox hkey.symm
    · rw [Function.update_of_ne hkey] at h
      exact ht.clipped x' y' found hxy' h

-- ==== the runs

/-- The table is that of a map some function was first called on. -/
def Inv (s : Client) : Prop :=
  ∀ t, s.cityTileMap = some t → ∃ m, s.FirstCalledOn m ∧ Numbered m t

theorem buildCityTileMap_spec {s : Client} (hinv : Inv s) (hs : SameMap s)
    (radiusSq : Nat) :
    (buildCityTileMap s radiusSq).map = s.map
      ∧ (buildCityTileMap s radiusSq).tileMapForPos = s.tileMapForPos
      ∧ (∃ m, (buildCityTileMap s radiusSq).FirstCalledOn m ∧ Alike m s.map)
      ∧ ∃ t, (buildCityTileMap s radiusSq).cityTileMap = some t
        ∧ Numbered s.map t ∧ radiusSq ≤ t.radiusSq := by
  unfold buildCityTileMap
  split
  case isTrue hwide =>
    cases ht : s.cityTileMap with
    | none => simp [ht] at hwide
    | some t =>
      obtain ⟨m, hm, hnum⟩ := hinv t ht
      exact ⟨rfl, rfl, ⟨m, hm, hs m hm⟩, t, rfl,
        hnum.of_alike (hs m hm), by simpa [ht] using hwide⟩
  case isFalse =>
    have hsq : Alike (s.sqDistance.getD s.map) s.map := by
      cases h : s.sqDistance with
      | none => exact Alike.refl _
      | some m => exact hs m (.inl h)
    have hdist : Alike (s.distance.getD s.map) s.map := by
      cases h : s.distance with
      | none => exact Alike.refl _
      | some m => exact hs m (.inr (.inl h))
    refine ⟨rfl, rfl, ⟨_, .inl rfl, hsq⟩, _, rfl, ?_, le_rfl⟩
    rw [hsq.sortedVectors_eq hdist]
    exact numbered_new

theorem cityTile_onAxes {city : Option City} {tile : Nat}
    (h : cityTile m city = some tile) :
    OnAxes m (m.tileX tile) (m.tileY tile) := by
  cases city with
  | none => cases h
  | some c =>
    unfold cityTile at h
    dsimp only at h
    split at h
    case isTrue hlt =>
      obtain rfl := Option.some.inj h
      have hpos : 0 < m.xsize := Nat.pos_of_ne_zero fun h0 => by
        simp [h0] at hlt
      have hx : m.tileX c.tile < m.xsize := Nat.mod_lt _ hpos
      have hy : m.tileY c.tile < m.ysize := Nat.div_lt_of_lt_mul hlt
      exact ⟨fun _ => by omega, fun _ => by omega⟩
    case isFalse => cases h

theorem getCityDxyToIndex_spec {s : Client} (hinv : Inv s) (hs : SameMap s)
    (activeCity : Option City) (pcity : City) (dx dy : Int) :
    Inv (getCityDxyToIndex s activeCity pcity dx dy).1
      ∧ ∀ tile, cityTile s.map activeCity = some tile →
        ∃ t, Numbered s.map t ∧ pcity.cityRadiusSq ≤ t.radiusSq
          ∧ (getCityDxyToIndex s activeCity pcity dx dy).2
            = buildCityTileMapWithLimits t.baseSorted
              (clipping s.map s.map t.radius (s.map.tileX tile)
                (s.map.tileY tile)).2 (dxyToCenterIndex dx dy t.radius) := by
  obtain ⟨hmap, hfor, ⟨m, hm, halike⟩, t, ht, hnum, hle⟩ :=
    buildCityTileMap_spec hinv hs pcity.cityRadiusSq
  unfold getCityDxyToIndex
  dsimp only
  rw [ht, hmap, hfor]
  cases htile : cityTile s.map activeCity with
  | none =>
    refine ⟨fun t' ht' => ?_, fun _ h => nomatch h⟩
    obtain rfl := Option.some.inj (ht.symm.trans ht')
    exact ⟨m, hm, hnum.of_alike halike.symm⟩
  | some tile =>
    have hflags : Alike (s.tileMapForPos.getD s.map) s.map := by
      cases h : s.tileMapForPos with
      | none => exact Alike.refl _
      | some m => exact hs m (.inr (.inr h))
    have hfound := getCityTileMapForPos_numbered hnum (cityTile_onAxes htile)
    dsimp only
    rw [hflags.clipping_eq (Alike.refl s.map)]
    constructor
    · intro t' ht'
      obtain rfl := Option.some.inj ht'
      refine ⟨m, ?_, hfound.1.of_alike halike.symm⟩
      rcases hm with hm | hm | hm
      · exact .inl hm
      · exact .inr (.inl hm)
      · refine .inr (.inr ?_)
        rw [hfor] at hm
        simp [hm]
    · intro tile' htile'
      obtain rfl := Option.some.inj htile'
      exact ⟨t, hnum, hle, by rw [hfound.2]⟩

theorem reach_inv {s : Client} (h : system.ReachVia StepCondition s) :
    Inv s := by
  refine h.invariant (I := Inv) ?_ ?_
  · rintro s rfl t ht
    cases ht
  · intro s label s' hinv hc hstep
    cases label with
    | mapInfo packet =>
      obtain rfl := Option.some.inj hstep
      exact hinv
    | dxyToIndex activeCity pcity dx dy =>
      obtain rfl := Option.some.inj hstep
      exact (getCityDxyToIndex_spec hinv hc activeCity pcity dx dy).1

theorem inBox_of_sqDistance {v : Int × Int} (h : sqDistance m v ≤ radiusSq) :
    InBox radiusSq.sqrt v.1 v.2 := by
  have hbound : ∀ d : Int, d * d ≤ radiusSq →
      -(radiusSq.sqrt : Int) ≤ d ∧ d ≤ radiusSq.sqrt := by
    intro d hd
    have : d.natAbs ≤ radiusSq.sqrt := by
      rw [Nat.le_sqrt]
      rw [← Int.natAbs_mul_self] at hd
      exact_mod_cast hd
    omega
  have hmax : ∀ d : Int, |v.1| ≤ d → |v.2| ≤ d → d * d ≤ radiusSq →
      InBox radiusSq.sqrt v.1 v.2 := by
    intro d h1 h2 hd
    have hdb := hbound d hd
    have h1 := abs_le.mp h1
    have h2 := abs_le.mp h2
    exact ⟨by omega, by omega⟩
  unfold sqDistance mapVectorToSqDistance at h
  split at h
  case isTrue =>
    refine hmax _ ?_ ?_ h <;>
      (unfold mapVectorToDistance; split_ifs <;> simp)
  case isFalse =>
    exact ⟨hbound _ (le_of_add_le_of_nonneg_left h (mul_self_nonneg _)),
      hbound _ (le_of_add_le_of_nonneg_right h (mul_self_nonneg _))⟩

/-- In every run in which the table is asked only on maps like that of the
first question, the numbers are right where the open dialog's city has the
same edges. -/
theorem city_tile_index_right {s : Client}
    (h : system.ReachVia StepCondition s) (activeCity : Option City)
    (pcity : City) (hmap : SameMap s)
    (hedges : SameEdges s.map activeCity pcity) :
    NumbersRight s activeCity pcity := by
  intro v ⟨hv, hon⟩
  obtain ⟨tile, htile, hsame⟩ := hedges
  obtain ⟨t, hnum, hle, heq⟩ := (getCityDxyToIndex_spec (reach_inv h) hmap
    activeCity pcity v.1 v.2).2 tile htile
  have hle : (pcity.cityRadiusSq : Int) ≤ t.radiusSq := by exact_mod_cast hle
  have hbox := inBox_of_sqDistance (hv.trans hle)
  -- the table's entry for the vector is one of those the limits leave
  have hmem : (⟨v.1, v.2, sqDistance s.map v,
      dxyToCenterIndex v.1 v.2 t.radius⟩ : TileData)
      ∈ t.baseSorted.filter fun a => (clipping s.map s.map t.radius
        (s.map.tileX tile) (s.map.tileY tile)).2.within a.dx a.dy := by
    rw [hnum.sorted, List.mem_filter, hnum.radius, within_iff hbox,
      ← onMap_iff]
    exact ⟨mem_sortedVectors.mpr ⟨hbox, rfl, rfl, hv.trans hle⟩,
      (hsame v hv).mpr hon⟩
  rw [heq]
  rw [hnum.sorted] at hmem ⊢
  refine (numberTiles_eq hmem).trans (congrArg some ?_)
  rw [countP_eq_ncard (f := TileData.vector)
    (nodup_vectors.sublist (List.filter_sublist.map _)), rank]
  congr 1
  ext w
  simp only [Set.mem_ofPred_eq, List.mem_filter, mem_sortedVectors,
    decide_eq_true_eq, hnum.radius]
  constructor
  · rintro ⟨a, ⟨⟨habox, had, -, hale⟩, hwithin⟩, hlt, rfl⟩
    have hlt : place s.map a.vector < place s.map v := by
      unfold TileData.order at hlt
      rwa [had] at hlt
    have hwv : sqDistance s.map a.vector ≤ pcity.cityRadiusSq := by
      rcases Prod.Lex.toLex_lt_toLex.mp hlt with hd | ⟨hd, -⟩
      · exact hd.le.trans hv
      · exact hd.le.trans hv
    refine ⟨⟨hwv, (hsame _ hwv).mp ?_⟩, hlt⟩
    exact onMap_iff.mpr ((within_iff habox).mp hwithin)
  · rintro ⟨⟨hwv, hwon⟩, hlt⟩
    have hwbox := inBox_of_sqDistance (hwv.trans hle)
    refine ⟨⟨w.1, w.2, sqDistance s.map w,
      dxyToCenterIndex w.1 w.2 t.radiusSq.sqrt⟩,
      ⟨⟨hwbox, rfl, rfl, hwv.trans hle⟩, ?_⟩, hlt, rfl⟩
    exact (within_iff hwbox).mpr (onMap_iff.mp ((hsame w hwv).mpr hwon))

def flatMap : WrappedMap := ⟨⟨40, 30, false, false⟩, false, false⟩

def roundMap : WrappedMap := ⟨⟨40, 30, false, false⟩, true, false⟩

/-- A city on the western edge, asked about in its own dialog. -/
def asked : Client :=
  (getCityDxyToIndex { Client.start with map := flatMap }
    (some ⟨40, 2⟩) ⟨40, 2⟩ 1 0).1

theorem western_city_numbered :
    NumbersRight asked (some ⟨40, 5⟩) ⟨40, 5⟩ := by
  have hmap : system.ReachVia StepCondition
      { Client.start with map := flatMap } :=
    .step (a := .mapInfo flatMap) (.init rfl) trivial rfl
  have hnew : SameMap { Client.start with map := flatMap } := by
    rintro m (h | h | h) <;> cases h
  apply city_tile_index_right
    (.step (a := .dxyToIndex (some ⟨40, 2⟩) ⟨40, 2⟩ 1 0) hmap hnew rfl)
  · rintro m (h | h | h)
    · obtain rfl := Option.some.inj h
      exact Alike.refl _
    · cases h
    · obtain rfl := Option.some.inj h
      exact Alike.refl _
  · exact ⟨40, rfl, fun _ _ => Iff.rfl⟩

/-- A game later the map goes round, and the tile to the west of the same
city has no number. -/
theorem next_game_not_numbered :
    ¬ ∀ s, system.Reach s → ∀ activeCity pcity,
      pcity.tile < s.map.xsize * s.map.ysize →
      NumbersRight s activeCity pcity := by
  intro h
  have hrun : system.Reach { asked with map := roundMap } :=
    .step (a := .mapInfo roundMap)
      (.step (a := .dxyToIndex (some ⟨40, 2⟩) ⟨40, 2⟩ 1 0)
        (.step (a := .mapInfo flatMap) (.init rfl) rfl) rfl) rfl
  have hnone : (getCityDxyToIndex { asked with map := roundMap }
      (some ⟨40, 2⟩) ⟨40, 2⟩ (-1) 0).2 = none := by decide +kernel
  have hright := h _ hrun (some ⟨40, 2⟩) ⟨40, 2⟩ (by decide) (-1, 0)
    ⟨by decide, by decide, by decide⟩
  rw [hnone] at hright
  cases hright

end CityTiles

end Freeciv3d.Web
