/-
When the road texture is the map's: as long as no packet changes what a
tile across the edge looks at, and none turns a road into a railroad, or
back, of the same sum.

# Where a change is seen

The colour of a tile reads the eight tiles `mapstep` leads to, round the
map to the east and west. `update_roads_tile` comes to the eight tiles by
their coordinates, and so to all that read the changed one but those across
the edge (`mem_neighbours`).

# What the sum tells

The colour of a road is made of the first three directions it goes on in.
One direction more puts its byte in, for nothing or for another byte
(`sum_ne_of_toggle`). Between a road and a railroad the sum tells nothing.
-/
import Mathlib.Algebra.Order.Ring.Int
import Freeciv3d.Web.Roads

namespace Freeciv3d.Web

open Lib

-- ==== the colours

/-- The directions, in the order the loops come to them. -/
def roadDirs : List Int := [1, 3, 4, 6, 0, 2, 5, 7]

/-- `result` after some bytes have been written. -/
def padded (single : Nat) : List Nat → List Nat
  | [] => [single, 0, 0]
  | [a] => [a, 0, 0]
  | [a, b] => [a, b, 0]
  | a :: b :: c :: _ => [a, b, c]

theorem padded_set {single v : Nat} {vals : List Nat}
    (h : vals.length ≤ 2) :
    (padded single vals).set vals.length v
      = padded single (vals ++ [v]) := by
  match vals, h with
  | [], _ => rfl
  | [a], _ => rfl
  | [a, b], _ => rfl

theorem padded_take (single : Nat) (vals : List Nat) :
    padded single (vals.take 3) = padded single vals := by
  match vals with
  | [] => rfl
  | [a] => rfl
  | [a, b] => rfl
  | a :: b :: c :: rest => rfl

section

variable (has : Int → Bool) (value : Int → Nat) (single : Nat)

theorem sideLoop_eq (dirs : List Int) (vals : List Nat)
    (h : vals.length ≤ 2) :
    sideLoop has value dirs (padded single vals) vals.length
      = if 3 ≤ vals.length + (dirs.filter has).length then
          if has 6 then none
          else some (padded single
            (vals ++ (dirs.filter has).map value), 3)
        else some (padded single (vals ++ (dirs.filter has).map value),
          vals.length + (dirs.filter has).length) := by
  induction dirs generalizing vals with
  | nil =>
    have hlt : ¬ 3 ≤ vals.length := by omega
    simp [sideLoop, hlt]
  | cons dir rest ih =>
    by_cases hdir : has dir = true
    · simp only [sideLoop, hdir, if_true, padded_set h,
        List.filter_cons_of_pos hdir, List.map_cons, List.length_cons]
      by_cases hfull : 2 < vals.length + 1
      · have htwo : vals.length = 2 := by omega
        have hthree : 3 ≤ vals.length + ((rest.filter has).length + 1) := by
          omega
        rw [if_pos hfull, if_pos hthree]
        by_cases hsix : has 6 = true
        · rw [if_pos hsix, if_pos hsix]
        · rw [if_neg hsix, if_neg hsix]
          match vals, htwo with
          | [a, b], _ => rfl
      · have hlen : (vals ++ [value dir]).length = vals.length + 1 := by
          simp
        rw [if_neg hfull, ← hlen, ih _ (by omega), hlen,
          List.append_assoc, List.singleton_append,
          show vals.length + 1 + (rest.filter has).length
            = vals.length + ((rest.filter has).length + 1) from by omega]
    · simp only [sideLoop, if_neg hdir, List.filter_cons_of_neg hdir]
      exact ih vals h

theorem cornerLoop_eq (dirs : List Int) (vals : List Nat)
    (h : vals.length ≤ 3) :
    cornerLoop has value dirs (padded single vals) vals.length
      = padded single (vals ++ (dirs.filter has).map value) := by
  induction dirs generalizing vals with
  | nil => simp [cornerLoop]
  | cons dir rest ih =>
    by_cases hdir : has dir = true
    · simp only [cornerLoop, hdir, if_true,
        List.filter_cons_of_pos hdir, List.map_cons]
      by_cases hfull : 2 < vals.length + 1
      · rw [if_pos hfull]
        match vals, h, hfull with
        | [a, b], _, _ => rfl
        | [a, b, c], _, _ => rfl
      · have hlen : (vals ++ [value dir]).length = vals.length + 1 := by
          simp
        rw [if_neg hfull, padded_set (by omega), ← hlen,
          ih _ (by omega), List.append_assoc, List.singleton_append]
    · simp only [cornerLoop, if_neg hdir, List.filter_cons_of_neg hdir]
      exact ih vals h

def colorOf (vals : List Nat) : RoadColor :=
  let result := padded single vals
  ⟨result.getD 0 0, result.getD 1 0, result.getD 2 0⟩

/-- The colour is the special one, or made of the first three
directions. -/
theorem connectedColor_eq (special : Nat) :
    connectedColor single special value has
      = if 3 ≤ ([1, 3, 4, 6].filter has).length ∧ has 6 = true then
          ⟨special, 0, 0⟩
        else colorOf single (((roadDirs.filter has).take 3).map value) := by
  have hdirs : roadDirs.filter has
      = [1, 3, 4, 6].filter has ++ [0, 2, 5, 7].filter has := by
    rw [← List.filter_append]
    rfl
  have hside : sideLoop has value [1, 3, 4, 6] [single, 0, 0] 0 = _ :=
    sideLoop_eq has value single [1, 3, 4, 6] [] (by decide)
  simp only [List.length_nil, Nat.zero_add, List.nil_append] at hside
  unfold connectedColor
  rw [hside, List.map_take, hdirs, List.map_append, colorOf, padded_take]
  by_cases hthree : 3 ≤ ([1, 3, 4, 6].filter has).length
  · rw [if_pos hthree]
    by_cases hsix : has 6 = true
    · rw [if_pos hsix, if_pos ⟨hthree, hsix⟩]
    · rw [if_neg hsix, if_neg fun hboth => hsix hboth.2]
      have hlen : ((([1, 3, 4, 6].filter has).map value).take 3).length
          = 3 := by
        rw [List.length_take, List.length_map]
        omega
      have hloop := cornerLoop_eq has value single [0, 2, 5, 7]
        ((([1, 3, 4, 6].filter has).map value).take 3) (by omega)
      rw [hlen, padded_take] at hloop
      simp only [hloop]
      rw [← padded_take single (_ ++ _), List.take_append_of_le_length
          (Nat.le_of_eq hlen.symm), List.take_take, Nat.min_self,
        ← padded_take single (List.map value _ ++ _),
        List.take_append_of_le_length (by simpa using hthree)]
  · rw [if_neg hthree, if_neg fun hboth => hthree hboth.1]
    have hloop := cornerLoop_eq has value single [0, 2, 5, 7]
      (([1, 3, 4, 6].filter has).map value) (by
        rw [List.length_map]
        omega)
    rw [List.length_map] at hloop
    simp only [hloop]

variable {has value single}

theorem length_bytes (value : Int → Nat) (l : List Int) :
    ((l.take 3).map value).length ≤ 3 := by
  rw [List.length_map]
  exact List.length_take_le 3 l

theorem sum_colorOf {vals : List Nat} (h : vals.length ≤ 3) :
    (colorOf single vals).sum
      = if vals = [] then single else vals.sum := by
  match vals, h with
  | [], _ => simp [colorOf, padded, RoadColor.sum]
  | [a], _ => simp [colorOf, padded, RoadColor.sum]
  | [a, b], _ => simp [colorOf, padded, RoadColor.sum]
  | [a, b, c], _ =>
    simp [colorOf, padded, RoadColor.sum]
    omega

theorem connectedColor_congr {has' : Int → Bool} {special : Nat}
    (h : ∀ dir ∈ roadDirs, has dir = has' dir) :
    connectedColor single special value has
      = connectedColor single special value has' := by
  have hfilter : roadDirs.filter has = roadDirs.filter has' :=
    List.filter_congr h
  have hside : [1, 3, 4, 6].filter has = [1, 3, 4, 6].filter has' :=
    List.filter_congr fun dir hdir =>
      h dir (List.mem_of_mem_take (i := 4) hdir)
  rw [connectedColor_eq, connectedColor_eq, hfilter, hside,
    h 6 (by decide)]

theorem sum_connectedColor_pos {special : Nat} (hsingle : 0 < single)
    (hspecial : 0 < special) (hvalue : ∀ dir ∈ roadDirs, 0 < value dir) :
    0 < (connectedColor single special value has).sum := by
  rw [connectedColor_eq]
  split
  · exact hspecial
  · rw [sum_colorOf (length_bytes _ _)]
    split
    · exact hsingle
    · rename_i hne
      cases hlist : (roadDirs.filter has).take 3 with
      | nil => simp [hlist] at hne
      | cons dir rest =>
        have hdir : dir ∈ roadDirs := by
          apply List.mem_of_mem_filter (p := has)
          apply List.mem_of_mem_take (i := 3)
          rw [hlist]
          exact List.mem_cons_self
        have := hvalue dir hdir
        simp only [List.map_cons, List.sum_cons]
        omega

end

theorem nodup_roadDirs : roadDirs.Nodup := by decide

theorem roadValue_bounds : ∀ dir ∈ roadDirs,
    2 ≤ roadValue dir ∧ roadValue dir ≤ 9 := by
  decide

theorem roadValue_inj : ∀ dir ∈ roadDirs, ∀ dir' ∈ roadDirs,
    roadValue dir = roadValue dir' → dir = dir' := by
  decide

theorem sum_lt_special {l : List Int} (hl : ∀ dir ∈ l, dir ∈ roadDirs) :
    (colorOf 1 ((l.take 3).map roadValue)).sum < 42 := by
  rw [sum_colorOf (length_bytes _ _)]
  split
  · decide
  · have hle : ∀ dir ∈ l, roadValue dir ≤ 9 := fun dir hdir =>
      (roadValue_bounds dir (hl dir hdir)).2
    match l, hle with
    | [], _ => decide
    | [a], hle =>
      have ha := hle a (by simp)
      simp only [List.take_succ_cons, List.take_nil, List.map_cons,
        List.map_nil, List.sum_cons, List.sum_nil]
      omega
    | [a, b], hle =>
      have ha := hle a (by simp)
      have hb := hle b (by simp)
      simp only [List.take_succ_cons, List.take_nil, List.map_cons,
        List.map_nil, List.sum_cons, List.sum_nil]
      omega
    | a :: b :: c :: rest, hle =>
      have ha := hle a (by simp)
      have hb := hle b (by simp)
      have hc := hle c (by simp)
      simp only [List.take_succ_cons, List.take_zero, List.map_cons,
        List.map_nil, List.sum_cons, List.sum_nil]
      omega

/-- One direction more among the first three changes their sum: its byte
comes for nothing or for another one. -/
theorem sum_take_insert {P Q : List Int} {d : Int} (hP : P.length ≤ 2)
    (hd : d ∈ roadDirs) (hQ : ∀ dir ∈ Q, dir ∈ roadDirs ∧ dir ≠ d) :
    (colorOf 1 (((P ++ Q).take 3).map roadValue)).sum
      ≠ (colorOf 1 (((P ++ d :: Q).take 3).map roadValue)).sum := by
  have hbounds := roadValue_bounds d hd
  obtain ⟨j, hj⟩ : ∃ j, 3 - P.length = j + 1 :=
    ⟨2 - P.length, by omega⟩
  rw [sum_colorOf (length_bytes _ _), sum_colorOf (length_bytes _ _)]
  have hpre : P.take 3 = P := List.take_of_length_le (by omega)
  simp only [List.take_append, hpre, hj, List.take_succ_cons,
    List.map_append, List.map_cons]
  rw [List.take_add_one, List.map_append]
  have hne : ¬ (P.map roadValue
      ++ roadValue d :: (Q.take j).map roadValue = []) := by
    simp
  rw [if_neg hne]
  have hlast : ((Q[j]?.toList).map roadValue).sum ≠ roadValue d := by
    cases hq : Q[j]? with
    | none =>
      simp only [Option.toList_none, List.map_nil, List.sum_nil]
      omega
    | some dir =>
      obtain ⟨hdir, hdird⟩ := hQ dir (List.mem_of_getElem? hq)
      simp only [Option.toList_some, List.map_cons, List.map_nil,
        List.sum_cons, List.sum_nil, Nat.add_zero]
      exact fun heq => hdird (roadValue_inj dir hdir d hd heq)
  split
  · rename_i hnil
    have hP' : P = [] := by
      simpa using (List.append_eq_nil_iff.mp hnil).1
    subst hP'
    simp only [List.map_nil, List.nil_append, List.sum_cons]
    omega
  · simp only [List.sum_append, List.sum_cons]
    omega

/-- A road that goes on in one direction more, or less, has another colour
only with another sum. -/
theorem sum_ne_of_toggle {has has' : Int → Bool} {d : Int}
    (hd : d ∈ roadDirs) (hfalse : has d = false) (htrue : has' d = true)
    (hsame : ∀ dir ∈ roadDirs, dir ≠ d → has dir = has' dir)
    (hne : connectedColor 1 42 roadValue has
      ≠ connectedColor 1 42 roadValue has') :
    (connectedColor 1 42 roadValue has).sum
      ≠ (connectedColor 1 42 roadValue has').sum := by
  obtain ⟨A, B, hAB⟩ := List.append_of_mem hd
  have hnodup := nodup_roadDirs
  rw [hAB] at hnodup
  have hnot : d ∉ A ∧ d ∉ B := by
    have hmiddle := List.nodup_middle.mp hnodup
    have hd' := (List.nodup_cons.mp hmiddle).1
    rw [List.mem_append, not_or] at hd'
    exact hd'
  have hA : ∀ dir ∈ A, dir ∈ roadDirs := fun dir h => by simp [hAB, h]
  have hB : ∀ dir ∈ B, dir ∈ roadDirs := fun dir h => by simp [hAB, h]
  have hP : A.filter has = A.filter has' :=
    List.filter_congr fun dir h =>
      hsame dir (hA dir h) fun heq => hnot.1 (heq ▸ h)
  have hQ : B.filter has = B.filter has' :=
    List.filter_congr fun dir h =>
      hsame dir (hB dir h) fun heq => hnot.2 (heq ▸ h)
  have hdirs : roadDirs.filter has = A.filter has' ++ B.filter has' := by
    rw [hAB, List.filter_append, List.filter_cons_of_neg (by simp [hfalse]),
      hP, hQ]
  have hdirs' : roadDirs.filter has'
      = A.filter has' ++ d :: B.filter has' := by
    rw [hAB, List.filter_append, List.filter_cons_of_pos htrue]
  have hmono : ∀ dir ∈ roadDirs, has dir = true → has' dir = true := by
    intro dir hdir h
    by_cases hdd : dir = d
    · rw [hdd, hfalse] at h
      cases h
    · rw [← hsame dir hdir hdd]
      exact h
  rw [connectedColor_eq, connectedColor_eq] at hne ⊢
  by_cases hspecial : 3 ≤ ([1, 3, 4, 6].filter has).length ∧ has 6 = true
  · have hspecial' :
        3 ≤ ([1, 3, 4, 6].filter has').length ∧ has' 6 = true := by
      refine ⟨?_, hmono 6 (by decide) hspecial.2⟩
      have hle : [1, 3, 4, 6].countP has ≤ [1, 3, 4, 6].countP has' :=
        List.countP_mono_left fun dir h =>
          hmono dir (List.mem_of_mem_take (i := 4) h)
      rw [List.countP_eq_length_filter, List.countP_eq_length_filter]
        at hle
      exact Nat.le_trans hspecial.1 hle
    rw [if_pos hspecial, if_pos hspecial'] at hne
    exact absurd rfl hne
  · by_cases hspecial' :
        3 ≤ ([1, 3, 4, 6].filter has').length ∧ has' 6 = true
    · rw [if_neg hspecial, if_pos hspecial']
      have hlt := sum_lt_special (l := roadDirs.filter has)
        fun dir h => List.mem_of_mem_filter h
      exact Nat.ne_of_lt hlt
    · rw [if_neg hspecial, if_neg hspecial', hdirs, hdirs'] at hne ⊢
      by_cases hlen : (A.filter has').length ≤ 2
      · refine sum_take_insert hlen hd fun dir h => ?_
        have hdirB := List.mem_of_mem_filter h
        exact ⟨hB dir hdirB, fun heq => hnot.2 (heq ▸ hdirB)⟩
      · refine absurd ?_ hne
        rw [List.take_append_of_le_length (by omega),
          List.take_append_of_le_length (by omega)]

-- ==== the steps

theorem coords_of_index {w t : Nat} {x y : Int} (hx : 0 ≤ x)
    (hw : x < w) (h : x + y * w = t) :
    ((t % w : Nat) : Int) = x ∧ ((t / w : Nat) : Int) = y := by
  have hne : (w : Int) ≠ 0 := by omega
  rw [Int.natCast_emod, Int.natCast_ediv, ← h]
  constructor
  · rw [Int.add_mul_emod_self_right]
    exact Int.emod_eq_of_lt hx hw
  · rw [Int.add_mul_ediv_right x y hne, Int.ediv_eq_zero_of_lt hx hw,
      Int.zero_add]

namespace MapGrid

variable (m : MapGrid)

theorem tileX_lt {t : Nat} (h : t < m.xsize * m.ysize) :
    m.tileX t < m.xsize :=
  Nat.mod_lt t (Nat.pos_of_mul_pos_right (Nat.zero_lt_of_lt h))

theorem tileY_lt {t : Nat} (h : t < m.xsize * m.ysize) :
    m.tileY t < m.ysize :=
  Nat.div_lt_of_lt_mul h

theorem mapPosToTile_inside {x : Int} (y : Int) (hx : 0 ≤ x)
    (hw : x < m.xsize) :
    m.mapPosToTile x y
      = if 0 ≤ x + y * m.xsize ∧ x + y * m.xsize < m.xsize * m.ysize then
          some (x + y * m.xsize).toNat
        else none := by
  unfold mapPosToTile
  rw [if_neg (show ¬ (m.xsize : Int) ≤ x by omega),
    if_neg (show ¬ x < 0 by omega)]

theorem mapPosToTile_self {t : Nat} (h : t < m.xsize * m.ysize) :
    m.mapPosToTile (m.tileX t) (m.tileY t) = some t := by
  have hx := m.tileX_lt h
  have hindex : (m.tileX t : Int) + m.tileY t * m.xsize = t := by
    have := Nat.mod_add_div' t m.xsize
    unfold tileX tileY
    exact_mod_cast this
  rw [m.mapPosToTile_inside _ (by omega) (by omega), hindex,
    if_pos ⟨by omega, by exact_mod_cast h⟩, Int.toNat_natCast]

/-- A step that does not go round the map. -/
def inside (tile : Nat) (dir : Int) : Prop :=
  0 ≤ dirDx.getD dir.toNat 0 + m.tileX tile
    ∧ dirDx.getD dir.toNat 0 + m.tileX tile < m.xsize

instance (tile : Nat) (dir : Int) : Decidable (m.inside tile dir) :=
  inferInstanceAs (Decidable (_ ∧ _))

theorem coords_of_inside {tile t : Nat} {dir : Int}
    (hin : m.inside tile dir) (h : m.mapstep tile dir = some t) :
    (m.tileX t : Int) = dirDx.getD dir.toNat 0 + m.tileX tile
      ∧ (m.tileY t : Int) = dirDy.getD dir.toNat 0 + m.tileY tile := by
  obtain ⟨hlow, hhigh⟩ := hin
  unfold mapstep at h
  split at h
  · rw [m.mapPosToTile_inside _ hlow hhigh] at h
    split at h
    · rename_i hindex
      refine coords_of_index hlow hhigh ?_
      rw [← Option.some.inj h, Int.toNat_of_nonneg hindex.1]
    · cases h
  · cases h

end MapGrid

/-- `mapstep` leads round the map from one tile to the other. -/
def Across (m : MapGrid) (t tile : Nat) : Prop :=
  ∃ dir ∈ roadDirs, m.mapstep tile dir = some t ∧ ¬ m.inside tile dir

instance (m : MapGrid) (t tile : Nat) : Decidable (Across m t tile) :=
  inferInstanceAs (Decidable (∃ _ ∈ _, _))

theorem offset_mem : ∀ dir ∈ roadDirs,
    (-dirDx.getD dir.toNat 0, -dirDy.getD dir.toNat 0)
      ∈ RoadMap.neighbourOffsets := by
  decide

theorem dir_unique : ∀ dir ∈ roadDirs, ∀ dir' ∈ roadDirs,
    dirDx.getD dir.toNat 0 = dirDx.getD dir'.toNat 0 →
    dirDy.getD dir.toNat 0 = dirDy.getD dir'.toNat 0 → dir = dir' := by
  decide

namespace RoadMap

variable {s : RoadMap}

/-- `update_roads_tile` comes to every tile that has the changed one
beside it. -/
theorem mem_neighbours {tile t : Nat} {dir : Int} (hdir : dir ∈ roadDirs)
    (htile : tile < s.size) (hin : s.map.inside tile dir)
    (h : s.map.mapstep tile dir = some t) : tile ∈ s.neighbours t := by
  obtain ⟨hx, hy⟩ := s.map.coords_of_inside hin h
  have hxlt := s.map.tileX_lt htile
  have hylt := s.map.tileY_lt htile
  refine List.mem_filterMap.mpr ⟨_, offset_mem dir hdir, ?_⟩
  have hx' : (s.map.tileX t : Int) + -dirDx.getD dir.toNat 0
      = s.map.tileX tile := by omega
  have hy' : (s.map.tileY t : Int) + -dirDy.getD dir.toNat 0
      = s.map.tileY tile := by omega
  simp only [hx', hy']
  rw [if_neg (by omega)]
  exact s.map.mapPosToTile_self htile

/-- One tile is in at most one direction of another, if not across the
edge. -/
theorem dir_eq {tile t : Nat} {dir dir' : Int} (hdir : dir ∈ roadDirs)
    (hdir' : dir' ∈ roadDirs) (hacross : ¬ Across s.map t tile)
    (h : s.map.mapstep tile dir = some t)
    (h' : s.map.mapstep tile dir' = some t) : dir = dir' := by
  have hin : s.map.inside tile dir :=
    Decidable.of_not_not fun hout => hacross ⟨dir, hdir, h, hout⟩
  have hin' : s.map.inside tile dir' :=
    Decidable.of_not_not fun hout => hacross ⟨dir', hdir', h', hout⟩
  have hto := s.map.coords_of_inside hin h
  have hto' := s.map.coords_of_inside hin' h'
  exact dir_unique dir hdir dir' hdir' (by omega) (by omega)

-- ==== the texture

/-- `road_image_color` of a tile. -/
def color (s : RoadMap) (tile : Nat) : RoadColor :=
  roadImageColor s.map s.tiles (s.map.tileX tile) (s.map.tileY tile)

theorem updatePixel_eq (tile : Nat) :
    s.updatePixel tile
      = { s with
          roadsData := s.roadsData.set tile (s.color tile)
          version :=
            if (s.color tile).sum
                ≠ (s.roadsData.getD tile RoadColor.none).sum
            then s.version + 1 else s.version } := by
  have hindex : s.map.tileY tile * s.map.xsize + s.map.tileX tile = tile :=
    Nat.div_add_mod' tile s.map.xsize
  unfold updatePixel
  simp only [hindex]
  rfl

/-- What some calls of `update_roads_tile` write: the colour of each of
their tiles, and a version of its own if a sum is another. -/
structure Updated (s : RoadMap) (l : List Nat) (s' : RoadMap) : Prop where
  map : s'.map = s.map
  tiles : s'.tiles = s.tiles
  length : s'.roadsData.length = s.roadsData.length
  written : ∀ tile ∈ l, tile < s.roadsData.length →
    s'.roadsData[tile]? = some (s.color tile)
  kept : ∀ tile, tile ∉ l → s'.roadsData[tile]? = s.roadsData[tile]?
  version : s.version ≤ s'.version
  counted : ∀ tile ∈ l,
    (s.color tile).sum ≠ (s.roadsData.getD tile RoadColor.none).sum →
      s.version < s'.version

theorem foldl_updatePixel (s : RoadMap) (l : List Nat) :
    Updated s l (l.foldl updatePixel s) := by
  induction l generalizing s with
  | nil =>
    exact
      { map := rfl
        tiles := rfl
        length := rfl
        written := by simp
        kept := fun _ _ => rfl
        version := Nat.le_refl _
        counted := by simp }
  | cons a rest ih =>
    have hrest := ih (s.updatePixel a)
    rw [List.foldl_cons]
    have hcolor : (s.updatePixel a).color = s.color := rfl
    have hfirst := updatePixel_eq (s := s) a
    have hdata : (s.updatePixel a).roadsData
        = s.roadsData.set a (s.color a) := by rw [hfirst]
    have hversion : s.version ≤ (s.updatePixel a).version := by
      rw [hfirst]
      simp only
      split <;> omega
    have hlength : (s.updatePixel a).roadsData.length
        = s.roadsData.length := by
      rw [hdata, List.length_set]
    refine
      { map := hrest.map
        tiles := hrest.tiles
        length := by rw [hrest.length, hlength]
        written := ?_
        kept := ?_
        version := Nat.le_trans hversion hrest.version
        counted := ?_ }
    · intro tile htile hlt
      by_cases hin : tile ∈ rest
      · rw [hrest.written tile hin (by rw [hlength]; exact hlt), hcolor]
      · have hself : tile = a :=
          (List.mem_cons.mp htile).resolve_right hin
        rw [hrest.kept tile hin, hdata, hself,
          List.getElem?_set_self (by rw [← hself]; exact hlt)]
    · intro tile htile
      rw [List.mem_cons, not_or] at htile
      rw [hrest.kept tile htile.2, hdata,
        List.getElem?_set_ne (Ne.symm htile.1)]
    · intro tile htile hsum
      by_cases hself : tile = a
      · have hbumped : (s.updatePixel a).version = s.version + 1 := by
          rw [hfirst]
          exact if_pos (hself ▸ hsum)
        have := hrest.version
        omega
      · have hin : tile ∈ rest :=
          (List.mem_cons.mp htile).resolve_left hself
        have hkept : (s.updatePixel a).roadsData.getD tile RoadColor.none
            = s.roadsData.getD tile RoadColor.none := by
          rw [List.getD_eq_getElem?_getD, List.getD_eq_getElem?_getD, hdata,
            List.getElem?_set_ne (Ne.symm hself)]
        have hlt := hrest.counted tile hin (by rw [hkept, hcolor]; exact hsum)
        omega

-- ==== the packets

def has (kind : RoadTile → Bool) (s : RoadMap) (tile : Nat) : Bool :=
  tileHas kind s.tiles (some tile)

def goesOn (kind : RoadTile → Bool) (s : RoadMap) (tile : Nat)
    (dir : Int) : Bool :=
  tileHas kind s.tiles (s.map.mapstep tile dir)

theorem color_eq {tile : Nat} (h : tile < s.size) :
    s.color tile
      = if s.has RoadTile.rail tile then
          connectedColor 10 43 railValue (s.goesOn RoadTile.rail tile)
        else if s.has RoadTile.road tile then
          connectedColor 1 42 roadValue (s.goesOn RoadTile.road tile)
        else RoadColor.none := by
  unfold color roadImageColor
  rw [s.map.mapPosToTile_self h]
  rfl

def put (s : RoadMap) (packet : RoadPacket) : RoadMap :=
  { s with tiles := s.tiles.set packet.tile packet.extras }

section

variable {packet : RoadPacket} {kind : RoadTile → Bool}

theorem has_put_self (h : packet.tile < s.tiles.length) :
    (s.put packet).has kind packet.tile = kind packet.extras := by
  simp [has, put, tileHas, h]

theorem has_put_of_ne {tile : Nat} (h : tile ≠ packet.tile) :
    (s.put packet).has kind tile = s.has kind tile := by
  simp [has, put, tileHas, List.getElem?_set_ne (Ne.symm h)]

theorem goesOn_put_of_eq {tile : Nat} {dir : Int}
    (hlt : packet.tile < s.tiles.length)
    (h : s.map.mapstep tile dir = some packet.tile) :
    (s.put packet).goesOn kind tile dir = kind packet.extras := by
  unfold goesOn
  rw [show (s.put packet).map.mapstep tile dir = some packet.tile from h]
  exact has_put_self hlt

theorem goesOn_of_eq {tile : Nat} {dir : Int}
    (h : s.map.mapstep tile dir = some packet.tile) :
    s.goesOn kind tile dir = s.has kind packet.tile := by
  unfold goesOn
  rw [h]
  rfl

theorem goesOn_put_of_ne {tile : Nat} {dir : Int}
    (h : s.map.mapstep tile dir ≠ some packet.tile) :
    (s.put packet).goesOn kind tile dir = s.goesOn kind tile dir := by
  unfold goesOn
  rw [show (s.put packet).map.mapstep tile dir = s.map.mapstep tile dir
    from rfl]
  cases hstep : s.map.mapstep tile dir with
  | none => rfl
  | some next =>
    have hne : next ≠ packet.tile := fun heq => h (by rw [hstep, heq])
    exact has_put_of_ne hne

/-- A tile goes on as before if the changed one is none of those it looks
at, or has what it had. -/
theorem goesOn_put {tile : Nat} (hlt : packet.tile < s.tiles.length)
    (h : ∀ dir ∈ roadDirs, s.map.mapstep tile dir = some packet.tile →
      s.has kind packet.tile = kind packet.extras) :
    ∀ dir ∈ roadDirs,
      (s.put packet).goesOn kind tile dir = s.goesOn kind tile dir := by
  intro dir hdir
  by_cases hstep : s.map.mapstep tile dir = some packet.tile
  · rw [goesOn_put_of_eq hlt hstep, goesOn_of_eq hstep, h dir hdir hstep]
  · exact goesOn_put_of_ne hstep

end

/-- Whether a tile looks, for its colour, at a road or a railroad that the
packet changes. -/
def Looks (s : RoadMap) (packet : RoadPacket) (tile : Nat) : Prop :=
  if s.has RoadTile.rail tile then
    s.has RoadTile.rail packet.tile ≠ packet.extras.rail
  else if s.has RoadTile.road tile then
    s.has RoadTile.road packet.tile ≠ packet.extras.road
  else False

instance (s : RoadMap) (packet : RoadPacket) (tile : Nat) :
    Decidable (s.Looks packet tile) :=
  inferInstanceAs (Decidable (ite _ _ _))

/-- A packet that no tile across the edge looks at, and that makes no
road a railroad, or a railroad a road, of the same sum. -/
structure Fits (s : RoadMap) (packet : RoadPacket) : Prop where
  across : ∀ tile < s.size, tile ≠ packet.tile →
    Across s.map packet.tile tile → ¬ s.Looks packet tile
  exchanged : s.has RoadTile.rail packet.tile ≠ packet.extras.rail →
    (s.color packet.tile).sum ≠ ((s.put packet).color packet.tile).sum

/-- Every pixel has the colour of its tile. -/
def Painted (s : RoadMap) : Prop :=
  ∀ tile < s.size, s.roadsData[tile]? = some (s.color tile)

/-- After a packet every pixel has the colour of its tile, and if any
changed, `needsUpdate` was set. -/
def Mirrored (s : RoadMap) (packet : RoadPacket) : Prop :=
  (s.handleTileInfo packet).Painted
    ∧ ((s.handleTileInfo packet).roadsData ≠ s.roadsData →
      s.version < (s.handleTileInfo packet).version)

/-- There is a tile and a pixel for each position, and the pixels are
right. -/
structure Whole (s : RoadMap) : Prop where
  tiles : s.tiles.length = s.size
  pixels : s.roadsData.length = s.size
  painted : s.Painted

section

variable {packet : RoadPacket}

theorem color_put_of_ne {tile : Nat} (hlt : packet.tile < s.tiles.length)
    (htile : tile < s.size) (hne : tile ≠ packet.tile)
    (h : ∀ dir ∈ roadDirs, s.map.mapstep tile dir = some packet.tile →
      ¬ s.Looks packet tile) :
    (s.put packet).color tile = s.color tile := by
  rw [color_eq htile, color_eq (s := s.put packet) htile,
    has_put_of_ne hne, has_put_of_ne hne]
  by_cases hrail : s.has RoadTile.rail tile = true
  · rw [if_pos hrail, if_pos hrail]
    apply connectedColor_congr
    refine goesOn_put hlt fun dir hdir hstep => ?_
    have hlooks := h dir hdir hstep
    rw [Looks, if_pos hrail] at hlooks
    exact Decidable.of_not_not hlooks
  · rw [if_neg hrail, if_neg hrail]
    by_cases hroad : s.has RoadTile.road tile = true
    · rw [if_pos hroad, if_pos hroad]
      apply connectedColor_congr
      refine goesOn_put hlt fun dir hdir hstep => ?_
      have hlooks := h dir hdir hstep
      rw [Looks, if_neg hrail, if_pos hroad] at hlooks
      exact Decidable.of_not_not hlooks
    · rw [if_neg hroad, if_neg hroad]

theorem sum_road_pos (has : Int → Bool) :
    0 < (connectedColor 1 42 roadValue has).sum :=
  sum_connectedColor_pos (by decide) (by decide) fun dir h =>
    Nat.lt_of_lt_of_le (by decide) (roadValue_bounds dir h).1

/-- The colour of the changed tile itself is another only with another
sum. -/
theorem sum_self (hlt : packet.tile < s.tiles.length)
    (htile : packet.tile < s.size) (hfits : s.Fits packet)
    (hne : (s.put packet).color packet.tile ≠ s.color packet.tile) :
    ((s.put packet).color packet.tile).sum
      ≠ (s.color packet.tile).sum := by
  by_cases hrail : s.has RoadTile.rail packet.tile = packet.extras.rail
  · rw [color_eq htile, color_eq (s := s.put packet) htile,
      has_put_self hlt, has_put_self hlt, ← hrail] at hne ⊢
    by_cases hold : s.has RoadTile.rail packet.tile = true
    · rw [if_pos hold, if_pos hold] at hne
      exact absurd (connectedColor_congr
        (goesOn_put hlt fun _ _ _ => hrail)) hne
    · rw [if_neg hold, if_neg hold] at hne ⊢
      by_cases hroad : s.has RoadTile.road packet.tile = packet.extras.road
      · rw [← hroad] at hne
        by_cases hold' : s.has RoadTile.road packet.tile = true
        · rw [if_pos hold', if_pos hold'] at hne
          exact absurd (connectedColor_congr
            (goesOn_put hlt fun _ _ _ => hroad)) hne
        · rw [if_neg hold', if_neg hold'] at hne
          exact absurd rfl hne
      · -- from no road to one, or back
        have hnone : RoadColor.none.sum = 0 := rfl
        cases hnew : packet.extras.road with
        | true =>
          rw [hnew, Bool.not_eq_true] at hroad
          rw [if_pos rfl, hroad, if_neg (by decide), hnone]
          exact Nat.ne_of_gt (sum_road_pos _)
        | false =>
          rw [hnew, Bool.not_eq_false] at hroad
          rw [if_neg (by decide), hroad, if_pos rfl, hnone]
          exact Nat.ne_of_lt (sum_road_pos _)
  · exact Ne.symm (hfits.exchanged hrail)

/-- The colour of a road beside a changed one is another only with another
sum. -/
theorem sum_beside {tile : Nat} (hlt : packet.tile < s.tiles.length)
    (htile : tile < s.size) (hself : tile ≠ packet.tile)
    (hrail : s.has RoadTile.rail packet.tile = packet.extras.rail)
    (hlooks : s.Looks packet tile) {dir : Int} (hdir : dir ∈ roadDirs)
    (hstep : s.map.mapstep tile dir = some packet.tile)
    (hacross : ¬ Across s.map packet.tile tile)
    (hne : (s.put packet).color tile ≠ s.color tile) :
    ((s.put packet).color tile).sum ≠ (s.color tile).sum := by
  have hnorail : s.has RoadTile.rail tile ≠ true := by
    intro hon
    rw [Looks, if_pos hon] at hlooks
    exact hlooks hrail
  rw [Looks, if_neg hnorail] at hlooks
  by_cases hon : s.has RoadTile.road tile = true
  · rw [if_pos hon] at hlooks
    rw [color_eq htile, color_eq (s := s.put packet) htile,
      has_put_of_ne hself, has_put_of_ne hself, if_neg hnorail,
      if_neg hnorail, if_pos hon, if_pos hon] at hne ⊢
    have hsame : ∀ dir' ∈ roadDirs, dir' ≠ dir →
        s.goesOn RoadTile.road tile dir'
          = (s.put packet).goesOn RoadTile.road tile dir' := by
      intro dir' hdir' hother
      refine (goesOn_put_of_ne fun hstep' => hother ?_).symm
      exact dir_eq hdir' hdir hacross hstep' hstep
    have hbefore : s.goesOn RoadTile.road tile dir
        = s.has RoadTile.road packet.tile := goesOn_of_eq hstep
    have hafter : (s.put packet).goesOn RoadTile.road tile dir
        = packet.extras.road := goesOn_put_of_eq hlt hstep
    cases hnew : packet.extras.road with
    | true =>
      rw [hnew] at hlooks
      exact (sum_ne_of_toggle hdir
        (hbefore.trans (eq_false_of_ne_true hlooks))
        (hafter.trans hnew) hsame hne.symm).symm
    | false =>
      rw [hnew] at hlooks
      exact sum_ne_of_toggle hdir (hafter.trans hnew)
        (hbefore.trans (eq_true_of_ne_false hlooks))
        (fun dir' hdir' hother => (hsame dir' hdir' hother).symm) hne
  · rw [if_neg hon] at hlooks
    exact hlooks.elim

-- ==== the runs

/-- What a packet does: the tile is put, and its pixel and those of its
neighbours are written. -/
theorem handleTileInfo_updated (s : RoadMap) (packet : RoadPacket) :
    Updated (s.put packet)
      (packet.tile :: (s.put packet).neighbours packet.tile)
      (s.handleTileInfo packet) :=
  foldl_updatePixel _ _

theorem changed_cases {tile : Nat} (hlt : packet.tile < s.tiles.length)
    (htile : tile < s.size) (hfits : s.Fits packet)
    (hne : (s.put packet).color tile ≠ s.color tile) :
    tile = packet.tile ∨
      tile ≠ packet.tile ∧ s.Looks packet tile
        ∧ ¬ Across s.map packet.tile tile
        ∧ (∃ dir ∈ roadDirs, s.map.mapstep tile dir = some packet.tile)
        ∧ tile ∈ s.neighbours packet.tile := by
  by_cases hself : tile = packet.tile
  · exact .inl hself
  · refine .inr ⟨hself, ?_⟩
    by_cases hat : ∃ dir ∈ roadDirs,
        s.map.mapstep tile dir = some packet.tile ∧ s.Looks packet tile
    · obtain ⟨dir, hdir, hstep, hlooks⟩ := hat
      have hacross : ¬ Across s.map packet.tile tile := fun h =>
        hfits.across tile htile hself h hlooks
      have hin : s.map.inside tile dir :=
        Decidable.of_not_not fun hout => hacross ⟨dir, hdir, hstep, hout⟩
      exact ⟨hlooks, hacross, ⟨dir, hdir, hstep⟩,
        mem_neighbours hdir htile hin hstep⟩
    · refine absurd (color_put_of_ne hlt htile hself ?_) hne
      exact fun dir hdir hstep hlooks => hat ⟨dir, hdir, hstep, hlooks⟩

theorem painted_step (hs : s.Whole) (ht : packet.tile < s.size)
    (hfits : s.Fits packet) : (s.handleTileInfo packet).Painted := by
  have hlt : packet.tile < s.tiles.length := hs.tiles.symm ▸ ht
  have hup := handleTileInfo_updated s packet
  intro tile htile
  have hsize : tile < s.size := by
    unfold size at htile ⊢
    rw [hup.map] at htile
    exact htile
  have hcolor : (s.handleTileInfo packet).color tile
      = (s.put packet).color tile := by
    unfold color
    rw [hup.map, hup.tiles]
  rw [hcolor]
  by_cases hin : tile ∈ packet.tile :: (s.put packet).neighbours packet.tile
  · exact hup.written tile hin (hs.pixels.symm ▸ hsize)
  · rw [hup.kept tile hin]
    refine (hs.painted tile hsize).trans (congrArg some (Eq.symm ?_))
    refine Decidable.of_not_not fun hne => hin ?_
    rcases changed_cases hlt hsize hfits hne with hself | hbeside
    · exact List.mem_cons.mpr (.inl hself)
    · exact List.mem_cons_of_mem _ hbeside.2.2.2.2

theorem counted_step (hs : s.Whole) (ht : packet.tile < s.size)
    (hfits : s.Fits packet)
    (hchanged : (s.handleTileInfo packet).roadsData ≠ s.roadsData) :
    s.version < (s.handleTileInfo packet).version := by
  have hlt : packet.tile < s.tiles.length := hs.tiles.symm ▸ ht
  have hup := handleTileInfo_updated s packet
  have hsum : ∀ tile < s.size,
      tile ∈ packet.tile :: (s.put packet).neighbours packet.tile →
      ((s.put packet).color tile).sum ≠ (s.color tile).sum →
      s.version < (s.handleTileInfo packet).version := by
    intro tile htile hin hne
    refine hup.counted tile hin ?_
    rw [List.getD_eq_getElem?_getD,
      show (s.put packet).roadsData[tile]? = some (s.color tile) from
        hs.painted tile htile]
    exact hne
  obtain ⟨tile, htile, hne⟩ : ∃ tile < s.size,
      (s.put packet).color tile ≠ s.color tile := by
    by_contra hnone
    refine hchanged (List.ext_getElem? fun tile => ?_)
    by_cases htile : tile < s.size
    · have hafter := painted_step hs ht hfits tile (by
        unfold size at htile ⊢
        rw [hup.map]
        exact htile)
      rw [hafter, hs.painted tile htile]
      have hcolor : (s.handleTileInfo packet).color tile
          = (s.put packet).color tile := by
        unfold color
        rw [hup.map, hup.tiles]
      rw [hcolor]
      exact congrArg some
        (Decidable.of_not_not fun hne => hnone ⟨tile, htile, hne⟩)
    · have hout : s.roadsData.length ≤ tile := by
        rw [hs.pixels]
        omega
      rw [List.getElem?_eq_none hout, List.getElem?_eq_none (by
        rw [hup.length]
        exact hout)]
  rcases changed_cases hlt htile hfits hne with
    rfl | ⟨hself, hlooks, hacross, ⟨dir, hdir, hstep⟩, hin⟩
  · exact hsum _ htile List.mem_cons_self (sum_self hlt htile hfits hne)
  · by_cases hrail : s.has RoadTile.rail packet.tile = packet.extras.rail
    · exact hsum tile htile (List.mem_cons_of_mem _ hin)
        (sum_beside hlt htile hself hrail hlooks hdir hstep hacross hne)
    · exact hsum _ ht List.mem_cons_self
        (Ne.symm (hfits.exchanged hrail))

theorem whole_step (hs : s.Whole) (ht : packet.tile < s.size)
    (hfits : s.Fits packet) : (s.handleTileInfo packet).Whole := by
  have hup := handleTileInfo_updated s packet
  have hsize : (s.handleTileInfo packet).size = s.size := by
    unfold size
    rw [hup.map]
    rfl
  exact
    { tiles := by
        rw [hup.tiles, hsize, ← hs.tiles]
        exact List.length_set
      pixels := by rw [hup.length, hsize]; exact hs.pixels
      painted := painted_step hs ht hfits }

end

theorem whole_init (h : roadRuns.init s) : s.Whole := by
  obtain ⟨htiles, hdata⟩ := h
  refine
    { tiles := by rw [htiles, List.length_replicate]
      pixels := by rw [hdata, List.length_replicate]
      painted := fun tile htile => ?_ }
  have hnone : ∀ kind : RoadTile → Bool, kind ⟨false, false⟩ = false →
      s.has kind tile = false := by
    intro kind hkind
    simp [has, tileHas, htiles, htile, hkind]
  rw [color_eq htile, hnone RoadTile.rail rfl, hnone RoadTile.road rfl,
    if_neg (by decide), if_neg (by decide), hdata]
  simp [htile]

instance : DecidablePred Painted := fun _ =>
  inferInstanceAs (Decidable (∀ _ < _, _))

/-- Along a run from an empty map, of any size, whose packets all fit, the
texture is the map's after each packet, and no change goes unseen. -/
theorem roads_mirrored (s : RoadMap) (hinit : roadRuns.init s)
    (packets : List RoadPacket) (hfits : roadRuns.Along Fits s packets) :
    roadRuns.Along Mirrored s packets := by
  refine Lts.along_of_along (J := Whole) (fun s packet _ hs hf hstep => ?_)
    (whole_init hinit) hfits
  by_cases ht : packet.tile < s.size
  · simp only [roadRuns, if_pos ht, Option.some.injEq] at hstep
    subst hstep
    exact ⟨⟨painted_step hs ht hf, counted_step hs ht hf⟩,
      whole_step hs ht hf⟩
  · simp only [roadRuns, if_neg ht] at hstep
    cases hstep

def bareMap (xsize ysize : Nat) : RoadMap :=
  { map := { xsize := xsize, ysize := ysize, hex := false, iso := false }
    tiles := List.replicate (xsize * ysize) ⟨false, false⟩
    roadsData := List.replicate (xsize * ysize) RoadColor.none
    version := 0 }

theorem roads_mirrored_crossing :
    roadRuns.Along Mirrored (bareMap 4 3)
      [⟨5, ⟨true, false⟩⟩, ⟨6, ⟨true, false⟩⟩, ⟨6, ⟨true, true⟩⟩,
        ⟨5, ⟨false, false⟩⟩] := by
  refine roads_mirrored (bareMap 4 3) ⟨rfl, rfl⟩ _ ?_
  refine ⟨⟨by decide, by decide⟩, ⟨by decide, by decide⟩,
    ⟨by decide, by decide⟩, ⟨by decide, by decide⟩, trivial⟩

/-- A road at the east edge is not drawn on to the new one at the west
edge; and a road to the north and to the west that becomes a lone railroad
is not uploaded. -/
theorem roads_not_mirrored :
    (¬ ∀ s, roadRuns.init s → ∀ packets,
      roadRuns.Along (fun s packet => (s.handleTileInfo packet).Painted) s
        packets)
    ∧ ¬ ∀ s, roadRuns.init s → ∀ packets,
      roadRuns.Along (fun s packet =>
        (s.handleTileInfo packet).roadsData ≠ s.roadsData →
          s.version < (s.handleTileInfo packet).version) s packets := by
  constructor
  · intro hall
    have hrun := hall (bareMap 4 2) ⟨rfl, rfl⟩
      [⟨3, ⟨true, false⟩⟩, ⟨0, ⟨true, false⟩⟩]
    have hlast := hrun.2.1
    revert hlast
    decide
  · intro hall
    have hrun := hall (bareMap 4 3) ⟨rfl, rfl⟩
      [⟨1, ⟨true, false⟩⟩, ⟨4, ⟨true, false⟩⟩, ⟨5, ⟨true, false⟩⟩,
        ⟨5, ⟨true, true⟩⟩]
    have hlast := hrun.2.2.2.1
    revert hlast
    decide

end RoadMap

end Freeciv3d.Web
