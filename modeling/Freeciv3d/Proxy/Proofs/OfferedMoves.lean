/-
Offered moves against the packets they become: when a 'move' action
that the extractor reports as valid is a move the converter can send.

# Three coordinate systems

The generator adds the direction's offset and wraps, x by default, y
only when the map says so. The normaliser copies the coordinates. The
converter computes the tile of the destination with its own width and
takes the *sign of the difference* to the unit's tile as direction, so
a wrapped destination on the far side of the map gives the opposite
direction. And a target outside an axis that does not wrap is on no
tile, so no check of the generator rejects it.

# What this closes

`offered_move_iff`: a valid move is executable exactly when the
neighbour in its direction is on the map without wrapping.
-/
import Freeciv3d.Proxy.PacketConverter

namespace Freeciv3d.Proxy

open Lib UnitActions PacketConverter

def Direction.code : Direction → Int
  | .nw => 0
  | .n => 1
  | .ne => 2
  | .w => 3
  | .e => 4
  | .sw => 5
  | .s => 6
  | .se => 7

/-- Units are stored under their own ids. -/
def StoredById (m : Mirror) : Prop :=
  ∀ id u, m.playerUnits.get? id = some u → u.id = id

/-- The unit stands on a tile of the map. -/
structure OnMap (m : Mirror) (u : UnitInfo) : Prop where
  x : 0 ≤ u.x ∧ u.x < (mapSize m).1
  y : 0 ≤ u.y ∧ u.y < (mapSize m).2
  tile : u.tile = u.x + u.y * (mapSize m).1

/-- The move is sent as offered: the target is on the map and is the
neighbour in the direction, up to the assumed wrapping, and the packet
orders one step in that direction to that tile. -/
structure Executable (found : Bool) (m : Mirror) (u : UnitInfo)
    (a : MoveAction) : Prop where
  inside : (0 ≤ a.target.1 ∧ a.target.1 < (mapSize m).1)
    ∧ 0 ≤ a.target.2 ∧ a.target.2 < (mapSize m).2
  adjacentX : a.target.1 = u.x + a.direction.offset.1
    ∨ wrapX m = true
      ∧ a.target.1 = (u.x + a.direction.offset.1) % (mapSize m).1
  adjacentY : a.target.2 = u.y + a.direction.offset.2
    ∨ wrapY m = true
      ∧ a.target.2 = (u.y + a.direction.offset.2) % (mapSize m).2
  packet : ∃ move p o, normalizeActionFormat a = some move
    ∧ convertActionToPacket found m move = .ok p
    ∧ p.lookup "pid" = some (.int packetUnitOrders)
    ∧ p.lookup "unit_id" = some (.int u.id)
    ∧ p.lookup "dest_tile"
      = some (.int (a.target.1 + a.target.2 * (mapSize m).1))
    ∧ p.lookup "orders" = some (.orders [o])
    ∧ o.dir = a.direction.code

def NeighbourOnMap (m : Mirror) (u : UnitInfo) (d : Direction) : Prop :=
  (0 ≤ u.x + d.offset.1 ∧ u.x + d.offset.1 < (mapSize m).1)
    ∧ 0 ≤ u.y + d.offset.2 ∧ u.y + d.offset.2 < (mapSize m).2

variable {m : Mirror} {u : UnitInfo} {d : Direction}

-- ==== one coordinate

theorem offset_bounds (d : Direction) :
    (-1 ≤ d.offset.1 ∧ d.offset.1 ≤ 1) ∧ -1 ≤ d.offset.2 ∧ d.offset.2 ≤ 1 := by
  cases d <;> decide

theorem clamp_bounds (n : Int) : -1 ≤ clamp n ∧ clamp n ≤ 1 := by
  unfold clamp
  omega

/-- On one axis: the wrapped coordinate is on the map and on the right
side of the unit exactly when nothing had to be wrapped. Stepping over
the low edge lands at or beyond the unit, stepping over the high edge
at or before it. -/
theorem step_axis_iff {x n step : Int} (hx : 0 ≤ x ∧ x < n)
    (hstep : -1 ≤ step ∧ step ≤ 1) (wrap : Bool) :
    ((0 ≤ (if wrap then (x + step) % n else x + step)
        ∧ (if wrap then (x + step) % n else x + step) < n)
      ∧ clamp ((if wrap then (x + step) % n else x + step) - x) = step)
      ↔ 0 ≤ x + step ∧ x + step < n := by
  unfold clamp
  by_cases hin : 0 ≤ x + step ∧ x + step < n
  · have hmod : (x + step) % n = x + step :=
      Int.emod_eq_of_lt hin.1 hin.2
    simp only [hmod, ite_self, hin, iff_true, true_and]
    omega
  · refine iff_of_false ?_ hin
    intro hp
    rcases hp with ⟨hbounds, hclamp⟩
    cases wrap with
    | false => exact hin hbounds
    | true =>
      simp only [if_true] at hclamp
      by_cases hlow : x + step < 0
      · have hmod : (x + step) % n = x + step + n := by
          rw [← Int.add_emod_right]
          exact Int.emod_eq_of_lt (by omega) (by omega)
        omega
      · have hmod : (x + step) % n = x + step - n := by
          rw [← Int.sub_emod_right]
          exact Int.emod_eq_of_lt (by omega) (by omega)
        omega

-- ==== the direction

/-- The converter's direction is the code of `d` exactly for the
offsets of `d`. -/
theorem dirMap_eq_code_iff {dx dy : Int} (hx : -1 ≤ dx ∧ dx ≤ 1)
    (hy : -1 ≤ dy ∧ dy ≤ 1) :
    dirMap dx dy = d.code ↔ dx = d.offset.1 ∧ dy = d.offset.2 := by
  have hx' : dx = -1 ∨ dx = 0 ∨ dx = 1 := by omega
  have hy' : dy = -1 ∨ dy = 0 ∨ dy = 1 := by omega
  rcases hx' with rfl | rfl | rfl <;> rcases hy' with rfl | rfl | rfl <;>
    cases d <;> decide

theorem moveDirection_onMap (hmap : OnMap m u) (dest : Int × Int) :
    moveDirection (mapSize m).1 u.tile dest
      = dirMap (clamp (dest.1 - u.x)) (clamp (dest.2 - u.y)) := by
  have hw : 0 < (mapSize m).1 := by
    have := hmap.x
    omega
  have hnonneg : 0 ≤ u.tile := by
    have hmul := Int.mul_nonneg hmap.y.1 (Int.le_of_lt hw)
    have hx := hmap.x.1
    rw [hmap.tile]
    omega
  have hmod : u.tile % (mapSize m).1 = u.x := by
    rw [hmap.tile, Int.add_mul_emod_self_right]
    exact Int.emod_eq_of_lt hmap.x.1 hmap.x.2
  have hdiv : u.tile / (mapSize m).1 = u.y := by
    rw [hmap.tile, Int.add_mul_ediv_right _ _ (Int.ne_of_gt hw),
      Int.ediv_eq_zero_of_lt hmap.x.1 hmap.x.2, Int.zero_add]
  unfold moveDirection
  rw [if_pos hnonneg, if_pos hnonneg, hmod, hdiv]

theorem mapWidth_eq (hw : 0 < (mapSize m).1) :
    mapWidth m = (mapSize m).1 := by
  unfold mapWidth mapSize at *
  cases hi : m.mapInfo with
  | none => rfl
  | some i =>
    simp only [hi] at hw ⊢
    exact if_pos (Int.ne_of_gt hw)

theorem sanitize_unitOrders (found : Bool) (unitId src dest dir : Int) :
    sanitizePacket (packetFieldMap found packetUnitOrders)
      (unitOrders unitId src dest dir)
      = unitOrders unitId src dest dir := by
  cases found with
  | true => rfl
  | false => rfl

-- ==== the offered move

theorem convert_moveAction (found : Bool) (hu : m.playerUnits.get? u.id
      = some u) (hmap : OnMap m u) (a : MoveAction) (ha : a.unitId = u.id)
    (hv : a.isValid = true) :
    ∃ move, normalizeActionFormat a = some move
      ∧ convertActionToPacket found m move
        = .ok (unitOrders u.id u.tile
            (a.target.1 + a.target.2 * (mapSize m).1)
            (dirMap (clamp (a.target.1 - u.x))
              (clamp (a.target.2 - u.y)))) := by
  have hw : 0 < (mapSize m).1 := by
    have := hmap.x
    omega
  have htile : getUnitTile m u.id = u.tile := by
    unfold getUnitTile
    rw [hu]
    rfl
  refine ⟨_, if_pos hv, ?_⟩
  unfold convertActionToPacket
  simp only [destination, ha, htile, mapWidth_eq hw,
    moveDirection_onMap hmap, sanitize_unitOrders]

/-- An offered move is the generator's move, in one of the eight
directions, of the stored unit it names. -/
theorem mem_getUnitActions (hids : StoredById m) {unitId pid : Int}
    {ty : String} {loc : Int × Int} {moves : List MoveAction}
    (h : (getUnitActions m unitId pid).2 = .actions ty loc moves)
    {a : MoveAction} (ha : a ∈ moves) :
    ∃ u d, m.playerUnits.get? u.id = some u ∧ a = moveAction m u pid d := by
  obtain ⟨cache, hm⟩ := m.getFullState_fst pid
  change answer (m.getFullState pid).1 (m.getFullState pid).2 unitId pid
    = _ at h
  rw [hm] at h
  unfold answer at h
  split at h
  next => cases h
  next u hu =>
    split at h
    next => cases h
    next =>
      cases h
      have hmem := Dict.mem_of_get?_ofList hu
      obtain ⟨⟨k, u'⟩, hfil, heq⟩ := List.mem_map.mp hmem
      obtain ⟨-, rfl⟩ := Prod.mk.inj heq
      have hget := Dict.mem_entries_iff.mp (List.mem_filter.mp hfil).1
      have hid := hids _ _ hget
      unfold moveActions at ha
      split at ha
      case isFalse => cases ha
      case isTrue =>
        obtain ⟨d, -, hd⟩ := List.mem_map.mp ha
        exact ⟨u', d, hid ▸ hget, hd.symm⟩

namespace Corner

/-- A unit of player 1 in the north-west corner of an 80x50 map, as
the packet handlers store both. -/
def unit : UnitInfo where
  id := 101
  owner := 1
  type := "warriors"
  typeId := some 4
  tile := 0
  homecity := 0
  movesLeft := 3
  hp := 10
  veteran := 0
  transported := false
  doneMoving := false
  activity := some "idle"
  x := 0
  y := 0

def mirror : Mirror :=
  { Mirror.init with
    mapInfo := some ⟨80, 50, none, none⟩
    playerUnits := (∅ : Dict Int UnitInfo).set 101 unit }

theorem storedById : StoredById mirror := by
  intro id u hu
  have hmem := Dict.mem_entries_iff.mpr hu
  have hentries : mirror.playerUnits.entries = [(101, unit)] := rfl
  rw [hentries, List.mem_singleton] at hmem
  obtain ⟨rfl, rfl⟩ := Prod.mk.inj hmem
  rfl

theorem onMap : OnMap mirror unit :=
  ⟨by decide, by decide, rfl⟩

end Corner

/-- For every map, every unit standing on a tile of it and every move
the extractor offers for it as valid: the move is executable exactly
when the neighbour in its direction is on the map without wrapping. -/
theorem offered_move_iff (found : Bool) (m : Mirror) (hids : StoredById m)
    (unitId pid : Int) (ty : String) (loc : Int × Int)
    (moves : List MoveAction)
    (h : (getUnitActions m unitId pid).2 = .actions ty loc moves)
    (a : MoveAction) (ha : a ∈ moves) (hv : a.isValid = true)
    (u : UnitInfo) (hu : m.playerUnits.get? a.unitId = some u)
    (hmap : OnMap m u) :
    Executable found m u a ↔ NeighbourOnMap m u a.direction := by
  obtain ⟨u', d, hu', rfl⟩ := mem_getUnitActions hids h ha
  have hsame : u' = u := by
    have hu : m.playerUnits.get? u'.id = some u := hu
    rw [hu'] at hu
    exact Option.some.inj hu
  subst hsame
  have hx := step_axis_iff hmap.x (offset_bounds d).1 (wrapX m)
  have hy := step_axis_iff hmap.y (offset_bounds d).2 (wrapY m)
  have hdir := dirMap_eq_code_iff (d := d)
    (clamp_bounds ((getTargetTile m u' d).1 - u'.x))
    (clamp_bounds ((getTargetTile m u' d).2 - u'.y))
  obtain ⟨move, hmove, hconv⟩ := convert_moveAction found hu' hmap
    (moveAction m u' pid d) rfl hv
  constructor
  · intro hex
    obtain ⟨move', p, o, hmove', hp, -, -, -, horders, hcode⟩ := hex.packet
    rw [hmove] at hmove'
    cases hmove'
    rw [hconv] at hp
    cases hp
    cases horders
    obtain ⟨hcx, hcy⟩ := hdir.mp hcode
    exact ⟨hx.mp ⟨hex.inside.1, hcx⟩, hy.mp ⟨hex.inside.2, hcy⟩⟩
  · intro hboth
    rcases hboth with ⟨hnx, hny⟩
    obtain ⟨hbx, hcx⟩ := hx.mpr hnx
    obtain ⟨hby, hcy⟩ := hy.mpr hny
    refine ⟨⟨hbx, hby⟩, ?_, ?_, ?_⟩
    · show (if wrapX m then _ else _) = _ ∨ _
      by_cases hw : wrapX m = true
      · exact .inr ⟨hw, if_pos hw⟩
      · exact .inl (if_neg hw)
    · show (if wrapY m then _ else _) = _ ∨ _
      by_cases hw : wrapY m = true
      · exact .inr ⟨hw, if_pos hw⟩
      · exact .inl (if_neg hw)
    · exact ⟨move, _, _, hmove, hconv, rfl, rfl, rfl, rfl,
        hdir.mpr ⟨hcx, hcy⟩⟩

/-- The theorem for the move south-east out of the corner. -/
theorem offered_move_iff_corner :
    Executable true Corner.mirror Corner.unit
        (moveAction Corner.mirror Corner.unit 1 .se)
      ↔ NeighbourOnMap Corner.mirror Corner.unit .se :=
  offered_move_iff true Corner.mirror Corner.storedById 101 1 "warriors"
    (0, 0) (moveActions Corner.mirror Corner.unit 1) (by decide)
    (moveAction Corner.mirror Corner.unit 1 .se) (by decide) (by decide)
    Corner.unit (by decide) Corner.onMap

/-- West from the corner: the offered target is (79, 0), the packet
orders a step east. -/
theorem offered_move_reversed :
    ¬∀ found m, StoredById m → ∀ unitId pid ty loc moves,
      (getUnitActions m unitId pid).2 = .actions ty loc moves →
      ∀ a ∈ moves, a.isValid = true →
      ∀ u, m.playerUnits.get? a.unitId = some u → OnMap m u →
        Executable found m u a := by
  intro hall
  have hex := hall true Corner.mirror Corner.storedById 101 1 "warriors"
    (0, 0) (moveActions Corner.mirror Corner.unit 1) (by decide)
    (moveAction Corner.mirror Corner.unit 1 .w) (by decide) (by decide)
    Corner.unit (by decide) Corner.onMap
  obtain ⟨move, p, o, hmove, hp, -, -, -, horders, hcode⟩ := hex.packet
  have hwest : normalizeActionFormat
      (moveAction Corner.mirror Corner.unit 1 .w)
      = some ⟨some 101, none, some 79, some 0, 5⟩ := by decide
  rw [hwest] at hmove
  cases hmove
  cases hp
  cases horders
  exact absurd hcode (by decide)

end Freeciv3d.Proxy
