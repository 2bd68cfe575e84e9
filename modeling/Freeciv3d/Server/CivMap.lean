/-
The map: its size, its topology, and steps from tile to tile.

# Coordinates

A tile is its index. An index is read as a native position, a native
position is turned into a map position, where a direction is a difference,
and back; a map wraps in native positions. On isometric maps the two kinds
of positions differ, and the rows are even in number: the code asserts it.
-/
import Mathlib.Data.Int.Basic

namespace Freeciv3d.Server

inductive Direction8 where
  | northwest
  | north
  | northeast
  | west
  | east
  | southwest
  | south
  | southeast
  deriving DecidableEq

namespace Direction8

def dx : Direction8 → Int
  | .northwest | .west | .southwest => -1
  | .north | .south => 0
  | .northeast | .east | .southeast => 1

def dy : Direction8 → Int
  | .northwest | .north | .northeast => -1
  | .west | .east => 0
  | .southwest | .south | .southeast => 1

def reverse : Direction8 → Direction8
  | .northwest => .southeast
  | .north => .south
  | .northeast => .southwest
  | .west => .east
  | .east => .west
  | .southwest => .northeast
  | .south => .north
  | .southeast => .northwest

def all : List Direction8 :=
  [.northwest, .north, .northeast, .west, .east, .southwest, .south,
    .southeast]

theorem mem_all (d : Direction8) : d ∈ all := by
  cases d with
  | _ => decide

@[simp] theorem dx_reverse (d : Direction8) : d.reverse.dx = -d.dx := by
  cases d with
  | _ => rfl

@[simp] theorem dy_reverse (d : Direction8) : d.reverse.dy = -d.dy := by
  cases d with
  | _ => rfl

end Direction8

/-- A `struct civ_map`, as far as steps on it go. -/
structure CivMap where
  xsize : Nat
  ysize : Nat
  iso : Bool
  hex : Bool
  wrapX : Bool
  wrapY : Bool
  xsize_pos : 0 < xsize
  ysize_pos : 0 < ysize
  even : iso || hex → ysize % 2 = 0

-- a map of one row of three tiles

theorem three_pos : 0 < 3 := Nat.succ_pos 2

theorem row_even : (false || false : Bool) → 1 % 2 = 0 := nofun

namespace CivMap

variable (m : CivMap)

def isIsometric : Bool := m.iso || m.hex

def mapIndexSize : Nat := m.xsize * m.ysize

def fcWrap (value range : Int) : Int :=
  if value < 0 then
    if value.tmod range ≠ 0 then value.tmod range + range else 0
  else if value ≥ range then value.tmod range
  else value

def nativeToMapPos (x y : Int) : Int × Int :=
  if m.isIsometric then
    let mapX := (y + y % 2) / 2 + x
    (mapX, y - mapX + m.xsize)
  else (x, y)

def mapToNativePos (x y : Int) : Int × Int :=
  if m.isIsometric then
    let natY := x + y - m.xsize
    ((2 * x - natY - natY % 2) / 2, natY)
  else (x, y)

/-- One coordinate of `base_native_pos_to_tile`. -/
def wrapCoordinate (wraps : Bool) (value range : Int) : Option Int :=
  if wraps then some (fcWrap value range)
  else if value < 0 ∨ value ≥ range then none
  else some value

def baseNativePosToTile (x y : Int) : Option Nat := do
  let natX ← wrapCoordinate m.wrapX x m.xsize
  let natY ← wrapCoordinate m.wrapY y m.ysize
  return (natX + natY * m.xsize).toNat

def mapPosToTile (x y : Int) : Option Nat :=
  let nat := m.mapToNativePos x y
  m.baseNativePosToTile nat.1 nat.2

def isValidDir : Direction8 → Bool
  | .southeast | .northwest => !(m.hex && !m.iso)
  | .northeast | .southwest => !(m.hex && m.iso)
  | .north | .east | .south | .west => true

def mapstep (t : Nat) (d : Direction8) : Option Nat :=
  if m.isValidDir d then
    let pos := m.nativeToMapPos (t % m.xsize) (t / m.xsize)
    m.mapPosToTile (pos.1 + d.dx) (pos.2 + d.dy)
  else none

def adjcDir (t : Nat) : List (Nat × Direction8) :=
  Direction8.all.filterMap fun d => (m.mapstep t d).map (·, d)

theorem mem_adjcDir {t t' : Nat} {d : Direction8} :
    (t', d) ∈ m.adjcDir t ↔ m.mapstep t d = some t' := by
  unfold adjcDir
  rw [List.mem_filterMap]
  constructor
  · rintro ⟨d', -, h⟩
    obtain ⟨x, hx, heq⟩ := Option.map_eq_some_iff.mp h
    cases heq
    exact hx
  · intro h
    exact ⟨d, d.mem_all, by rw [h]; rfl⟩

-- ==== the reverse of a step

theorem isValidDir_reverse (d : Direction8) :
    m.isValidDir d.reverse = m.isValidDir d := by
  cases d with
  | _ => rfl

theorem fcWrap_eq {value range : Int} (hpos : 0 < range) :
    fcWrap value range = value % range := by
  unfold fcWrap
  by_cases hneg : value < 0
  · rw [if_pos hneg, Int.tmod_eq_emod]
    by_cases hdvd : range ∣ value
    · rw [if_pos (Or.inr hdvd), Int.emod_eq_zero_of_dvd hdvd]
      rfl
    · have hnot : ¬ (0 ≤ value ∨ range ∣ value) :=
        fun h => h.elim (fun hle => by omega) hdvd
      have hlt := Int.emod_lt_of_pos value hpos
      rw [if_neg hnot, Int.natAbs_of_nonneg (Int.le_of_lt hpos),
        if_pos (by omega)]
      omega
  · rw [if_neg hneg]
    by_cases hge : value ≥ range
    · rw [if_pos hge, Int.tmod_eq_emod_of_nonneg (by omega)]
    · rw [if_neg hge, Int.emod_eq_of_lt (by omega) (by omega)]

/-- A coordinate on the map is the given one, but for whole turns where
the map wraps. -/
theorem wrapCoordinate_eq_some {wraps : Bool} {value range c : Int}
    (hpos : 0 < range) (h : wrapCoordinate wraps value range = some c) :
    0 ≤ c ∧ c < range
      ∧ ∃ k, value = c + range * k ∧ (wraps = false → k = 0) := by
  unfold wrapCoordinate at h
  cases wraps with
  | true =>
    rw [if_pos rfl, fcWrap_eq hpos] at h
    cases h
    refine ⟨Int.emod_nonneg _ (by omega), Int.emod_lt_of_pos _ hpos,
      value / range, ?_, nofun⟩
    exact (Int.emod_add_mul_ediv value range).symm
  | false =>
    rw [if_neg Bool.false_ne_true] at h
    by_cases hout : value < 0 ∨ value ≥ range
    · rw [if_pos hout] at h
      cases h
    · rw [if_neg hout] at h
      cases h
      exact ⟨by omega, by omega, 0, by omega, fun _ => rfl⟩

theorem wrapCoordinate_of_eq {wraps : Bool} {value range c k : Int}
    (hpos : 0 < range) (hc : 0 ≤ c ∧ c < range)
    (hvalue : value = c + range * k) (hk : wraps = false → k = 0) :
    wrapCoordinate wraps value range = some c := by
  unfold wrapCoordinate
  cases wraps with
  | true =>
    rw [if_pos rfl, fcWrap_eq hpos, hvalue, Int.add_mul_emod_self_left,
      Int.emod_eq_of_lt hc.1 hc.2]
  | false =>
    rw [hk rfl, Int.mul_zero, Int.add_zero] at hvalue
    rw [if_neg Bool.false_ne_true, if_neg (by omega), hvalue]

def halfRow (y : Int) : Int := (y + y % 2) / 2

/-- How far a step goes in native positions; on isometric maps this
depends on the row. -/
def nativeShift (y : Int) (d : Direction8) : Int × Int :=
  if m.isIsometric then
    (d.dx + halfRow y - halfRow (y + (d.dx + d.dy)), d.dx + d.dy)
  else (d.dx, d.dy)

theorem mapToNativePos_step (x y : Int) (d : Direction8) :
    m.mapToNativePos ((m.nativeToMapPos x y).1 + d.dx)
        ((m.nativeToMapPos x y).2 + d.dy)
      = (x + (m.nativeShift y d).1, y + (m.nativeShift y d).2) := by
  unfold mapToNativePos nativeToMapPos nativeShift halfRow
  cases m.isIsometric with
  | true =>
    simp only [if_true, Prod.mk.injEq]
    constructor <;> omega
  | false => rfl

theorem nativeShift_reverse (y l : Int) (d : Direction8)
    (heven : m.isIsometric = true → (m.ysize : Int) % 2 = 0) :
    m.nativeShift (y + (m.nativeShift y d).2 - m.ysize * l) d.reverse
      = (-(m.nativeShift y d).1, -(m.nativeShift y d).2) := by
  unfold nativeShift
  cases hiso : m.isIsometric with
  | true =>
    obtain ⟨h, hh⟩ : ∃ h : Int, (m.ysize : Int) = 2 * h :=
      ⟨m.ysize / 2, by have := heven hiso; omega⟩
    have hturn : (m.ysize : Int) * l = 2 * (h * l) := by
      rw [hh, Int.mul_assoc]
    simp only [if_true, Direction8.dx_reverse, Direction8.dy_reverse,
      hturn, halfRow, Prod.mk.injEq]
    constructor <;> omega
  | false =>
    simp only [Bool.false_eq_true, if_false, Direction8.dx_reverse,
      Direction8.dy_reverse]

theorem native_of_tile {t : Nat} {x y : Int} (hx : 0 ≤ x ∧ x < m.xsize)
    (hy : 0 ≤ y ∧ y < m.ysize) (ht : t = (x + y * m.xsize).toNat) :
    (t % m.xsize : Int) = x ∧ (t / m.xsize : Int) = y
      ∧ t < m.mapIndexSize := by
  have hpos : (0 : Int) < m.xsize := by
    have := m.xsize_pos
    omega
  have hnonneg : 0 ≤ x + y * m.xsize :=
    Int.add_nonneg hx.1 (Int.mul_nonneg hy.1 (Int.le_of_lt hpos))
  have hcast : (t : Int) = x + y * m.xsize := by
    rw [ht, Int.toNat_of_nonneg hnonneg]
  refine ⟨?_, ?_, ?_⟩
  · rw [hcast, Int.add_mul_emod_self_right, Int.emod_eq_of_lt hx.1 hx.2]
  · rw [hcast, Int.add_mul_ediv_right _ _ (Int.ne_of_gt hpos),
      Int.ediv_eq_zero_of_lt hx.1 hx.2, Int.zero_add]
  · unfold mapIndexSize
    have hrow : (y + 1) * m.xsize ≤ m.ysize * m.xsize :=
      Int.mul_le_mul_of_nonneg_right (by omega) (Int.le_of_lt hpos)
    have hlt : (t : Int) < m.xsize * m.ysize := by
      rw [Int.mul_comm (m.xsize : Int)]
      rw [Int.add_mul, Int.one_mul] at hrow
      omega
    exact_mod_cast hlt

theorem tile_of_native {t : Nat} (ht : t < m.mapIndexSize) :
    (0 ≤ (t % m.xsize : Int) ∧ (t % m.xsize : Int) < m.xsize)
      ∧ (0 ≤ (t / m.xsize : Int) ∧ (t / m.xsize : Int) < m.ysize)
      ∧ ((t % m.xsize : Int) + (t / m.xsize : Int) * m.xsize).toNat = t := by
  have hpos : (0 : Int) < m.xsize := by
    have := m.xsize_pos
    omega
  refine ⟨⟨Int.emod_nonneg _ (Int.ne_of_gt hpos),
    Int.emod_lt_of_pos _ hpos⟩, ⟨Int.ediv_nonneg (by omega) (by omega),
    ?_⟩, ?_⟩
  · refine Int.ediv_lt_of_lt_mul hpos ?_
    rw [Int.mul_comm]
    exact_mod_cast ht
  · rw [Int.mul_comm, Int.emod_add_mul_ediv, Int.toNat_natCast]

/-- Where a step leads: the native position moved by the step, but for
whole turns where the map wraps. -/
theorem mapstep_eq_some {t t' : Nat} {d : Direction8}
    (h : m.mapstep t d = some t') :
    m.isValidDir d ∧ ∃ x' y' k l : Int, (0 ≤ x' ∧ x' < m.xsize)
      ∧ (0 ≤ y' ∧ y' < m.ysize) ∧ t' = (x' + y' * m.xsize).toNat
      ∧ (t % m.xsize : Int) + (m.nativeShift (t / m.xsize) d).1
        = x' + m.xsize * k
      ∧ (t / m.xsize : Int) + (m.nativeShift (t / m.xsize) d).2
        = y' + m.ysize * l
      ∧ (m.wrapX = false → k = 0) ∧ (m.wrapY = false → l = 0) := by
  have hxpos : (0 : Int) < m.xsize := by
    have := m.xsize_pos
    omega
  have hypos : (0 : Int) < m.ysize := by
    have := m.ysize_pos
    omega
  unfold mapstep at h
  by_cases hvalid : m.isValidDir d = true
  · rw [if_pos hvalid] at h
    dsimp only at h
    unfold mapPosToTile at h
    rw [m.mapToNativePos_step] at h
    unfold baseNativePosToTile at h
    obtain ⟨x', hx', h⟩ := Option.bind_eq_some_iff.mp h
    obtain ⟨y', hy', h⟩ := Option.bind_eq_some_iff.mp h
    obtain ⟨hx0, hx1, k, hk, hkw⟩ := wrapCoordinate_eq_some hxpos hx'
    obtain ⟨hy0, hy1, l, hl, hlw⟩ := wrapCoordinate_eq_some hypos hy'
    exact ⟨hvalid, x', y', k, l, ⟨hx0, hx1⟩, ⟨hy0, hy1⟩,
      (Option.some.inj h).symm, hk, hl, hkw, hlw⟩
  · rw [if_neg hvalid] at h
    cases h

theorem mapstep_lt {t t' : Nat} {d : Direction8}
    (h : m.mapstep t d = some t') : t' < m.mapIndexSize := by
  obtain ⟨-, x', y', -, -, hx, hy, ht, -⟩ := m.mapstep_eq_some h
  exact (m.native_of_tile hx hy ht).2.2

theorem mapstep_reverse {t t' : Nat} {d : Direction8}
    (ht : t < m.mapIndexSize) (h : m.mapstep t d = some t') :
    m.mapstep t' d.reverse = some t := by
  obtain ⟨hvalid, x', y', k, l, hx', hy', ht', hk, hl, hkw, hlw⟩ :=
    m.mapstep_eq_some h
  obtain ⟨hmod, hdiv, -⟩ := m.native_of_tile hx' hy' ht'
  obtain ⟨hx, hy, hback⟩ := m.tile_of_native ht
  have heven : m.isIsometric = true → (m.ysize : Int) % 2 = 0 := by
    intro hiso
    have := m.even hiso
    omega
  have hrow : y' = (t / m.xsize : Int)
      + (m.nativeShift (t / m.xsize) d).2 - m.ysize * l := by
    rw [hl]
    omega
  have hshift := m.nativeShift_reverse (t / m.xsize) l d heven
  rw [← hrow] at hshift
  unfold mapstep
  rw [if_pos (m.isValidDir_reverse d ▸ hvalid), hmod, hdiv]
  dsimp only
  unfold mapPosToTile
  rw [m.mapToNativePos_step, hshift]
  unfold baseNativePosToTile
  dsimp only
  rw [wrapCoordinate_of_eq (k := -k) (c := (t % m.xsize : Int)) (by omega)
    hx (by rw [Int.mul_neg]; omega) (fun hw => by rw [hkw hw]; rfl),
    wrapCoordinate_of_eq (k := -l) (c := (t / m.xsize : Int)) (by omega)
    hy (by rw [Int.mul_neg]; omega) (fun hw => by rw [hlw hw]; rfl)]
  show some _ = some t
  rw [hback]

end CivMap

end Freeciv3d.Server
