/-
Vectors and steps on the map of the web client, against the topology:
`map_distance_vector`, `mapstep` and `get_direction_for_step`.

# The topology

One axis at a time. An axis goes round or it ends; a displacement leads
from one coordinate to another if it does so up to turns round the axis,
and the shortest ones are those of at most half a turn
(`shortest_iff_of_wraps`). `Topology.step` moves on each axis so.

# What the code does

`map_distance_vector` puts the wrapped displacement of the second axis
where the first belongs. `mapstep` takes the neighbouring index: this
goes round on the first axis and not on the second, whatever the map
does. The theorem says for which tiles and directions this comes out
right.
-/
import Mathlib.Algebra.Order.Ring.Abs
import Mathlib.Algebra.Order.Ring.Int
import Mathlib.Data.Int.ModEq
import Mathlib.Tactic.IntervalCases
import Freeciv3d.Web.GotoOrders

namespace Freeciv3d.Web

-- ==== the topology

structure Axis where
  wraps : Bool
  size : Nat

namespace Axis

variable (axis : Axis)

/-- The displacement leads from the one coordinate to the other. -/
def LeadsTo (a b d : Int) : Prop :=
  if axis.wraps then a + d ≡ b [ZMOD axis.size] else a + d = b

instance (a b d : Int) : Decidable (axis.LeadsTo a b d) :=
  inferInstanceAs (Decidable
    (if axis.wraps then a + d ≡ b [ZMOD axis.size] else a + d = b))

/-- And none that leads there is shorter. -/
def Shortest (a b d : Int) : Prop :=
  axis.LeadsTo a b d ∧ ∀ d', axis.LeadsTo a b d' → |d| ≤ |d'|

/-- Where a displacement leads on the axis, if anywhere. -/
def move (a d : Int) : Option Int :=
  if axis.wraps then some ((a + d) % axis.size)
  else if 0 ≤ a + d ∧ a + d < axis.size then some (a + d) else none

end Axis

structure WrappedMap extends MapGrid where
  wrapX : Bool
  wrapY : Bool

namespace WrappedMap

variable (m : WrappedMap)

abbrev Tile : Type := Fin (m.xsize * m.ysize)

def xAxis : Axis := ⟨m.wrapX, m.xsize⟩

def yAxis : Axis := ⟨m.wrapY, m.ysize⟩

def topologyStep (tile : Nat) (dir : Int) : Option Nat :=
  if m.isValidDir dir then
    match m.xAxis.move (m.tileX tile) (dirDx.getD dir.toNat 0),
        m.yAxis.move (m.tileY tile) (dirDy.getD dir.toNat 0) with
    | some x, some y => some (x + y * m.xsize).toNat
    | _, _ => none
  else none

-- ==== the code

def fcWrap (value range : Int) : Int :=
  if value < 0 then
    if value.tmod range ≠ 0 then value.tmod range + range else 0
  else if range ≤ value then value.tmod range
  else value

/-- `map_distance_vector`. The second wrapped displacement is assigned to
`dx`. -/
def mapDistanceVector (tile0 tile1 : Nat) : Int × Int :=
  let dx : Int := m.tileX tile1 - m.tileX tile0
  let dx :=
    if m.wrapX then
      let halfWorld : Int := m.xsize / 2
      fcWrap (dx + halfWorld) m.xsize - halfWorld
    else dx
  let dy : Int := m.tileY tile1 - m.tileY tile0
  let dx :=
    if m.wrapY then
      let halfWorld : Int := m.ysize / 2
      fcWrap (dy + halfWorld) m.ysize - halfWorld
    else dx
  (dx, dy)

/-- `get_direction_for_step`: the first direction that leads there. -/
def getDirectionForStep (startTile : Nat) (endTile : Option Nat) : Int :=
  (([0, 1, 2, 3, 4, 5, 6, 7] : List Int).find? fun dir =>
    m.mapstep startTile dir == endTile).getD (-1)

-- ==== the statement

/-- The vector leads from the one tile to the other, the shortest way on
each axis. -/
def VectorAgrees (tile0 tile1 : Nat) : Prop :=
  m.xAxis.Shortest (m.tileX tile0) (m.tileX tile1)
      (m.mapDistanceVector tile0 tile1).1
    ∧ m.yAxis.Shortest (m.tileY tile0) (m.tileY tile1)
      (m.mapDistanceVector tile0 tile1).2

/-- The step leads where the topology says. -/
def StepAgrees (tile : Nat) (dir : Int) : Prop :=
  m.mapstep tile dir = m.topologyStep tile dir

/-- The direction found for a step leads to the same tile. -/
def DirectionAgrees (tile : Nat) (dir : Int) : Prop :=
  ∀ next, m.mapstep tile dir = some next →
    m.mapstep tile (m.getDirectionForStep tile (some next)) = some next

/-- A displacement of at most half the axis, as `FC_WRAP` leaves it. -/
def halfWrapped (d : Int) (size : Nat) : Int :=
  if 2 * d = size then -d else d

/-- When `map_distance_vector` is right: the second axis does not wrap, or
the tiles are at most half of it apart and their displacement there is
also a shortest one on the first. -/
def VectorCondition (tile0 tile1 : Nat) : Prop :=
  let dx : Int := m.tileX tile1 - m.tileX tile0
  let dy : Int := m.tileY tile1 - m.tileY tile0
  m.wrapY = true →
    2 * |dy| ≤ m.ysize
      ∧ if m.wrapX then
          halfWrapped dy m.ysize ≡ dx [ZMOD m.xsize] ∧ 2 * |dy| ≤ m.xsize
        else halfWrapped dy m.ysize = dx

/-- The step leaves the map on the first axis. -/
def LeavesX (tile : Nat) (dir : Int) : Prop :=
  let x : Int := m.tileX tile + dirDx.getD dir.toNat 0
  x < 0 ∨ m.xsize ≤ x

instance (tile : Nat) (dir : Int) : Decidable (m.LeavesX tile dir) :=
  inferInstanceAs (Decidable (_ ∨ _))

/-- The step leaves the map on the second axis. -/
def LeavesY (tile : Nat) (dir : Int) : Prop :=
  let y : Int := m.tileY tile + dirDy.getD dir.toNat 0
  y < 0 ∨ m.ysize ≤ y

instance (tile : Nat) (dir : Int) : Decidable (m.LeavesY tile dir) :=
  inferInstanceAs (Decidable (_ ∨ _))

/-- When `mapstep` is right: a step over the edge of the first axis needs
that it wraps; one over the edge of the second, that it does not, or that
the step ends at the first. -/
def StepCondition (tile : Nat) (dir : Int) : Prop :=
  m.isValidDir dir = true →
    (m.LeavesY tile dir →
        m.wrapY = false ∨ (m.LeavesX tile dir ∧ m.wrapX = false))
      ∧ (¬ m.LeavesY tile dir → m.LeavesX tile dir → m.wrapX = true)

end WrappedMap

-- ==== an axis

namespace Axis

variable {axis : Axis}

theorem shortest_iff_of_ends (h : axis.wraps = false) (a b d : Int) :
    axis.Shortest a b d ↔ d = b - a := by
  have hleads : ∀ d, axis.LeadsTo a b d ↔ d = b - a := by
    intro d
    simp only [LeadsTo, h]
    constructor
    · intro hd
      simp at hd
      omega
    · intro hd
      simp
      omega
  constructor
  · intro hd
    exact (hleads d).mp hd.1
  · intro hd
    refine ⟨(hleads d).mpr hd, fun d' hd' => ?_⟩
    rw [(hleads d').mp hd', hd]

/-- A displacement of at most half a turn is no longer than any other that
leads there. -/
theorem abs_le_of_modEq {n v w : Int} (hv : 2 * |v| ≤ n)
    (h : w ≡ v [ZMOD n]) : |v| ≤ |w| := by
  obtain ⟨k, hk⟩ := h.symm.dvd
  by_cases hk0 : k = 0
  · subst hk0
    have : w = v := by omega
    rw [this]
  · have hn : 0 ≤ n := by
      have := abs_nonneg v
      omega
    have hturn : n ≤ |w - v| := by
      rw [hk, abs_mul, abs_of_nonneg hn]
      have hone : 1 ≤ |k| := Int.one_le_abs hk0
      exact le_mul_of_one_le_right hn hone
    rcases abs_cases w with hw | hw <;>
      rcases abs_cases v with hv' | hv' <;>
      rcases abs_cases (w - v) with hwv | hwv <;> omega

theorem leadsTo_iff_of_wraps (h : axis.wraps = true) (a b d : Int) :
    axis.LeadsTo a b d ↔ d ≡ b - a [ZMOD axis.size] := by
  rw [LeadsTo, if_pos h]
  constructor
  · intro hd
    have hsub := hd.sub_right a
    rwa [add_sub_cancel_left] at hsub
  · intro hd
    have hadd := hd.add_left a
    rwa [add_sub_cancel] at hadd

theorem shortest_iff_of_wraps (h : axis.wraps = true)
    (hsize : 0 < axis.size) (a b d : Int) :
    axis.Shortest a b d
      ↔ d ≡ b - a [ZMOD axis.size] ∧ 2 * |d| ≤ axis.size := by
  unfold Shortest
  rw [leadsTo_iff_of_wraps h]
  refine and_congr_right fun hd => ?_
  constructor
  · intro hmin
    -- half a turn at most: else the other way round is shorter
    by_contra hlong
    have hback : |d| ≤ |d - axis.size| := by
      refine hmin _ ((leadsTo_iff_of_wraps h a b _).mpr ?_)
      have hturn : d - axis.size ≡ d - 0 [ZMOD axis.size] :=
        (Int.ModEq.refl d).sub (Int.modEq_zero_iff_dvd.mpr dvd_rfl)
      rw [sub_zero] at hturn
      exact hturn.trans hd
    have hon : |d| ≤ |d + axis.size| := by
      refine hmin _ ((leadsTo_iff_of_wraps h a b _).mpr ?_)
      have hturn : d + axis.size ≡ d + 0 [ZMOD axis.size] :=
        (Int.ModEq.refl d).add (Int.modEq_zero_iff_dvd.mpr dvd_rfl)
      rw [add_zero] at hturn
      exact hturn.trans hd
    rcases abs_cases d with hcase | hcase <;>
      rcases abs_cases (d - axis.size) with hcase' | hcase' <;>
      rcases abs_cases (d + axis.size) with hcase'' | hcase'' <;> omega
  · intro hhalf d' hd'
    refine abs_le_of_modEq hhalf ?_
    exact ((leadsTo_iff_of_wraps h a b d').mp hd').trans hd.symm

end Axis

-- ==== the vector

namespace WrappedMap

theorem fcWrap_eq {range : Int} (h : 0 < range) (value : Int) :
    fcWrap value range = value % range := by
  have hmod := Int.emod_nonneg value h.ne'
  have hlt := Int.emod_lt_of_pos value h
  unfold fcWrap
  by_cases hneg : value < 0
  · rw [if_pos hneg, Int.tmod_eq_emod]
    by_cases hdvd : range ∣ value
    · simp [hdvd, Int.emod_eq_zero_of_dvd hdvd]
    · have hpos : value % range ≠ 0 := fun h0 =>
        hdvd (Int.dvd_of_emod_eq_zero h0)
      have hneither : ¬ (0 ≤ value ∨ range ∣ value) := by
        rw [not_or]
        exact ⟨by omega, hdvd⟩
      rw [if_neg hneither, Int.natAbs_of_nonneg h.le, if_pos (by omega)]
      omega
  · rw [if_neg hneg]
    by_cases hle : range ≤ value
    · rw [if_pos hle, Int.tmod_eq_emod_of_nonneg (by omega)]
    · rw [if_neg hle, Int.emod_eq_of_lt (by omega) (by omega)]

/-- A displacement taken round half the axis and back. -/
def taken (d : Int) (size : Nat) : Int :=
  (d + size / 2) % size - (size / 2 : Nat)

theorem taken_modEq (d : Int) (size : Nat) :
    taken d size ≡ d [ZMOD size] := by
  have h := (Int.mod_modEq (d + size / 2) size).sub_right (size / 2 : Nat)
  have hcancel : d + size / 2 - ((size / 2 : Nat) : Int) = d := by omega
  rwa [hcancel] at h

theorem taken_half {size : Nat} (h : 0 < size) (d : Int) :
    2 * |taken d size| ≤ size := by
  have hmod := Int.emod_nonneg (d + size / 2) (b := size) (by omega)
  have hlt := Int.emod_lt_of_pos (d + size / 2) (b := size) (by omega)
  unfold taken
  generalize (d + (size : Int) / 2) % size = r at *
  rcases abs_cases (r - ((size / 2 : Nat) : Int)) with hr | hr <;> omega

theorem taken_of_half {size : Nat} {d : Int} (hd : 2 * |d| ≤ size) : taken d size = halfWrapped d size := by
  have hle := le_abs_self d
  have hge := neg_abs_le d
  unfold taken halfWrapped
  by_cases heq : 2 * d = size
  · rw [if_pos heq]
    have hround : d + (size : Int) / 2 = size := by omega
    rw [hround, Int.emod_self]
    omega
  · rw [if_neg heq, Int.emod_eq_of_lt (by omega) (by omega)]
    omega

theorem abs_halfWrapped (d : Int) (size : Nat) :
    |halfWrapped d size| = |d| := by
  unfold halfWrapped
  split
  · exact abs_neg d
  · rfl

variable {m : WrappedMap}

/-- On the first axis: the displacement along it, unless the second wraps;
then that along the second. -/
theorem mapDistanceVector_fst (hx : 0 < m.xsize) (hy : 0 < m.ysize)
    (tile0 tile1 : Nat) :
    (m.mapDistanceVector tile0 tile1).1
      = if m.wrapY then taken (m.tileY tile1 - m.tileY tile0) m.ysize
        else if m.wrapX then taken (m.tileX tile1 - m.tileX tile0) m.xsize
        else m.tileX tile1 - m.tileX tile0 := by
  unfold mapDistanceVector taken
  simp only [fcWrap_eq (Int.natCast_pos.mpr hx),
    fcWrap_eq (Int.natCast_pos.mpr hy), Int.natCast_ediv, Nat.cast_ofNat]

theorem mapDistanceVector_snd (tile0 tile1 : Nat) :
    (m.mapDistanceVector tile0 tile1).2
      = m.tileY tile1 - m.tileY tile0 := rfl

theorem vectorAgrees_iff (hx : 0 < m.xsize) (hy : 0 < m.ysize)
    (tile0 tile1 : Nat) :
    m.VectorAgrees tile0 tile1 ↔ m.VectorCondition tile0 tile1 := by
  unfold VectorAgrees VectorCondition
  rw [mapDistanceVector_fst hx hy, mapDistanceVector_snd]
  generalize (m.tileX tile0 : Int) = x0
  generalize (m.tileX tile1 : Int) = x1
  generalize (m.tileY tile0 : Int) = y0
  generalize (m.tileY tile1 : Int) = y1
  cases hwy : m.wrapY with
  | false =>
    have hyAxis : m.yAxis.Shortest y0 y1 (y1 - y0) :=
      (Axis.shortest_iff_of_ends hwy y0 y1 _).mpr rfl
    have hxAxis : m.xAxis.Shortest x0 x1
        (if m.wrapX then taken (x1 - x0) m.xsize else x1 - x0) := by
      cases hwx : m.wrapX with
      | false => exact (Axis.shortest_iff_of_ends hwx x0 x1 _).mpr rfl
      | true =>
        exact (Axis.shortest_iff_of_wraps hwx hx x0 x1 _).mpr
          ⟨taken_modEq _ _, taken_half hx _⟩
    exact ⟨fun _ => nofun, fun _ => ⟨hxAxis, hyAxis⟩⟩
  | true =>
    have hyAxis : m.yAxis.Shortest y0 y1 (y1 - y0)
        ↔ 2 * |y1 - y0| ≤ m.ysize :=
      (Axis.shortest_iff_of_wraps hwy hy y0 y1 _).trans
        (and_iff_right (Int.ModEq.refl _))
    rw [hyAxis, and_comm]
    simp only [true_implies, if_true]
    refine and_congr_right fun hhalf => ?_
    rw [taken_of_half hhalf]
    cases hwx : m.wrapX with
    | false => exact Axis.shortest_iff_of_ends hwx x0 x1 _
    | true =>
      rw [if_pos rfl, Axis.shortest_iff_of_wraps hwx hx,
        abs_halfWrapped]
      rfl

-- ==== the step

theorem dirDx_near (i : Nat) :
    -1 ≤ dirDx.getD i 0 ∧ dirDx.getD i 0 ≤ 1 := by
  by_cases hi : i < 8
  · interval_cases i <;> decide
  · rw [List.getD_eq_getElem?_getD,
      List.getElem?_eq_none (Nat.le_of_not_lt hi)]
    decide

/-- The index of a place in a column of the map is that of a tile just
when its row is one of the map. -/
theorem index_bounds {xsize : Nat} {col : Int} (ysize : Nat) (y : Int)
    (h0 : 0 ≤ col) (h : col < xsize) :
    (0 ≤ col + y * xsize ∧ col + y * xsize < xsize * ysize)
      ↔ 0 ≤ y ∧ y < ysize := by
  constructor
  · rintro ⟨hlow, hhigh⟩
    constructor
    · by_contra hneg
      have : y * xsize ≤ -1 * xsize :=
        mul_le_mul_of_nonneg_right (by omega) (by omega)
      omega
    · by_contra hge
      have : (ysize : Int) * xsize ≤ y * xsize :=
        mul_le_mul_of_nonneg_right (by omega) (by omega)
      rw [mul_comm (ysize : Int)] at this
      omega
  · rintro ⟨hlow, hhigh⟩
    have hle : 0 ≤ y * xsize := mul_nonneg hlow (by omega)
    have hlt : y * xsize ≤ ((ysize : Int) - 1) * xsize :=
      mul_le_mul_of_nonneg_right (by omega) (by omega)
    rw [sub_mul, mul_comm (ysize : Int), one_mul] at hlt
    omega

theorem mapPosToTile_eq {x y : Int} (hlow : -(m.xsize : Int) ≤ x)
    (hhigh : x < 2 * m.xsize) :
    m.mapPosToTile x y
      = if 0 ≤ y ∧ y < m.ysize then
          some (x % m.xsize + y * m.xsize).toNat
        else none := by
  have hpos : (0 : Int) < m.xsize := by omega
  have hcol := index_bounds m.ysize y
    (Int.emod_nonneg x hpos.ne') (Int.emod_lt_of_pos x hpos)
  have hindex : (x + (if (m.xsize : Int) ≤ x then y - 1
      else if x < 0 then y + 1 else y) * m.xsize : Int)
        = x % m.xsize + y * m.xsize := by
    by_cases hge : (m.xsize : Int) ≤ x
    · have hmod : x % m.xsize = x - m.xsize := by
        rw [← Int.sub_emod_right, Int.emod_eq_of_lt (by omega) (by omega)]
      rw [if_pos hge, hmod, sub_mul]
      omega
    · rw [if_neg hge]
      by_cases hneg : x < 0
      · have hmod : x % m.xsize = x + m.xsize := by
          rw [← Int.add_emod_right, Int.emod_eq_of_lt (by omega) (by omega)]
        rw [if_pos hneg, hmod, add_mul]
        omega
      · rw [if_neg hneg, Int.emod_eq_of_lt (by omega) (by omega)]
  unfold MapGrid.mapPosToTile
  dsimp only
  rw [hindex]
  exact if_congr (by exact_mod_cast hcol) rfl rfl

theorem move_of_stays {axis : Axis} {a d : Int} (h0 : 0 ≤ a + d)
    (h : a + d < axis.size) : axis.move a d = some ((a + d) % axis.size) := by
  unfold Axis.move
  by_cases hwraps : axis.wraps = true
  · rw [if_pos hwraps]
  · rw [if_neg hwraps, if_pos ⟨h0, h⟩, Int.emod_eq_of_lt h0 h]

theorem move_of_leaves {axis : Axis} {a d : Int}
    (h : a + d < 0 ∨ axis.size ≤ a + d) :
    axis.move a d
      = if axis.wraps then some ((a + d) % axis.size) else none := by
  have hout : ¬ (0 ≤ a + d ∧ a + d < axis.size) := by omega
  unfold Axis.move
  rw [if_neg hout]

theorem move_eq (axis : Axis) (a d : Int) :
    axis.move a d
      = if (a + d < 0 ∨ axis.size ≤ a + d) ∧ axis.wraps = false then none
        else some ((a + d) % axis.size) := by
  by_cases hleaves : a + d < 0 ∨ axis.size ≤ a + d
  · rw [move_of_leaves hleaves]
    cases axis.wraps <;> simp [hleaves]
  · rw [move_of_stays (by omega) (by omega), if_neg]
    intro h
    exact hleaves h.1

section Step

variable {dir : Int}

theorem mapstep_eq (tile : m.Tile) (hdir : m.isValidDir dir = true) :
    m.mapstep tile dir
      = if m.LeavesY tile dir then none
        else some ((m.tileX tile + dirDx.getD dir.toNat 0) % m.xsize
          + (m.tileY tile + dirDy.getD dir.toNat 0) * m.xsize).toNat := by
  have hx : 0 < m.xsize := Nat.pos_of_mul_pos_right tile.pos
  have hcol : m.tileX tile < m.xsize := Nat.mod_lt _ hx
  have hnear := dirDx_near dir.toNat
  unfold MapGrid.mapstep
  rw [if_pos hdir, mapPosToTile_eq (by omega) (by omega),
    add_comm (dirDx.getD dir.toNat 0), add_comm (dirDy.getD dir.toNat 0)]
  by_cases hleaves : m.LeavesY tile dir
  · rw [if_pos hleaves, if_neg]
    unfold LeavesY at hleaves
    omega
  · rw [if_neg hleaves, if_pos]
    unfold LeavesY at hleaves
    omega

theorem topologyStep_eq (tile : Nat) (hdir : m.isValidDir dir = true) :
    m.topologyStep tile dir
      = if m.LeavesX tile dir ∧ m.wrapX = false
          ∨ m.LeavesY tile dir ∧ m.wrapY = false then none
        else some ((m.tileX tile + dirDx.getD dir.toNat 0) % m.xsize
          + (m.tileY tile + dirDy.getD dir.toNat 0) % m.ysize
            * m.xsize).toNat := by
  unfold topologyStep
  rw [if_pos hdir]
  have hxmove : m.xAxis.move (m.tileX tile) (dirDx.getD dir.toNat 0)
      = if m.LeavesX tile dir ∧ m.wrapX = false then none
        else some ((m.tileX tile + dirDx.getD dir.toNat 0) % m.xsize) :=
    move_eq ..
  have hymove : m.yAxis.move (m.tileY tile) (dirDy.getD dir.toNat 0)
      = if m.LeavesY tile dir ∧ m.wrapY = false then none
        else some ((m.tileY tile + dirDy.getD dir.toNat 0) % m.ysize) :=
    move_eq ..
  rw [hxmove, hymove]
  by_cases hx : m.LeavesX tile dir ∧ m.wrapX = false
  · have hends : m.LeavesX tile dir ∧ m.wrapX = false
        ∨ m.LeavesY tile dir ∧ m.wrapY = false := .inl hx
    rw [if_pos hends, if_pos hx]
  · rw [if_neg hx]
    by_cases hy : m.LeavesY tile dir ∧ m.wrapY = false
    · have hends : m.LeavesX tile dir ∧ m.wrapX = false
          ∨ m.LeavesY tile dir ∧ m.wrapY = false := .inr hy
      rw [if_pos hends, if_pos hy]
    · rw [if_neg hy, if_neg (not_or.mpr ⟨hx, hy⟩)]

end Step

theorem stepAgrees_iff (tile : m.Tile) (dir : Int) :
    m.StepAgrees tile dir ↔ m.StepCondition tile dir := by
  unfold StepAgrees StepCondition
  cases hdir : m.isValidDir dir with
  | false =>
    have hcode : m.mapstep tile dir = none := by
      simp [MapGrid.mapstep, hdir]
    have htopology : m.topologyStep tile dir = none := by
      simp [topologyStep, hdir]
    simp [hcode, htopology]
  | true =>
    rw [mapstep_eq tile hdir, topologyStep_eq tile hdir]
    by_cases hy : m.LeavesY tile dir
    · rw [if_pos hy]
      simp only [hy, true_and, not_true_eq_false, false_implies, and_true,
        true_implies, eq_comm (a := (none : Option Nat)),
        ite_eq_left_iff, reduceCtorEq, imp_false, not_not]
      exact or_comm
    · have hrow : (m.tileY tile + dirDy.getD dir.toNat 0 : Int) % m.ysize
          = m.tileY tile + dirDy.getD dir.toNat 0 := by
        unfold LeavesY at hy
        exact Int.emod_eq_of_lt (by omega) (by omega)
      rw [if_neg hy, hrow]
      simp only [hy, false_and, or_false, false_implies, true_and,
        not_false_eq_true, true_implies, eq_comm (a := some _),
        ite_eq_right_iff, reduceCtorEq, imp_false, not_and,
        Bool.not_eq_false]

theorem directionAgrees (tile : Nat) (dir : Int) :
    m.DirectionAgrees tile dir := by
  intro next hnext
  have hvalid : m.isValidDir dir = true := by
    by_contra hinvalid
    rw [MapGrid.mapstep, if_neg hinvalid] at hnext
    cases hnext
  have hmem : dir ∈ ([0, 1, 2, 3, 4, 5, 6, 7] : List Int) := by
    by_contra hnot
    simp only [List.mem_cons, List.not_mem_nil, or_false, not_or] at hnot
    simp [MapGrid.isValidDir, hnot] at hvalid
  unfold getDirectionForStep
  cases hfind : ([0, 1, 2, 3, 4, 5, 6, 7] : List Int).find? fun d =>
      m.mapstep tile d == some next with
  | some d =>
    have hd := List.find?_some hfind
    exact eq_of_beq hd
  | none =>
    have hnone := List.find?_eq_none.mp hfind dir hmem
    rw [hnext] at hnone
    exact absurd (beq_self_eq_true _) hnone

end WrappedMap

-- ==== the result

/-- The vector, the step and the direction found agree with the topology
just when the tiles and the direction meet both conditions. -/
theorem map_vectors_agree_iff (m : WrappedMap) (tile0 tile1 tile : m.Tile)
    (dir : Int) :
    (m.VectorAgrees tile0 tile1 ∧ m.StepAgrees tile dir
        ∧ m.DirectionAgrees tile dir)
      ↔ m.VectorCondition tile0 tile1 ∧ m.StepCondition tile dir := by
  have hx : 0 < m.xsize := Nat.pos_of_mul_pos_right tile.pos
  have hy : 0 < m.ysize := Nat.pos_of_mul_pos_left tile.pos
  rw [WrappedMap.vectorAgrees_iff hx hy, WrappedMap.stepAgrees_iff,
    and_iff_left (WrappedMap.directionAgrees tile dir)]

/-- A map of 10 by 10 tiles that wraps on both axes. -/
def torus : WrappedMap := ⟨⟨10, 10, false, false⟩, true, true⟩

/-- From (0, 0) to (3, 0) the vector is (0, 0), and a step north from
(0, 0) leads nowhere. -/
theorem map_vectors_fail :
    ¬ torus.VectorAgrees 0 3 ∧ ¬ torus.StepAgrees 0 1 := by
  constructor
  · intro h
    have hleads : torus.xAxis.LeadsTo 0 3 0 := h.1.1
    exact absurd hleads (by decide)
  · intro h
    have hstep : torus.mapstep 0 1 = torus.topologyStep 0 1 := h
    exact absurd hstep (by decide)

end Freeciv3d.Web
