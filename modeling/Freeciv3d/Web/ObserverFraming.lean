/-
What the camera of an observer looks at: the centroid and the extent of
weighted positions on a map that may wrap, in exact arithmetic.

# Where the date line is

`offset` counts from one end of an arc with all positions in it, so a
rotation does not change it. Of an arc shorter than half the axis the
unwrapping makes these offsets up to a shift (`unwrapCoordinate_eq`), and a
shift moves the centroid and nothing else. At half an axis there are two
centroids, and which is taken depends on the first position.

# Outliers

A position counts ⌈weight⌉ times among the distances. The cut is at the
largest gap behind the first 60 % of them.
-/
import Mathlib.Algebra.Order.BigOperators.Group.List
import Mathlib.Algebra.Order.Floor.Ring
import Mathlib.Data.List.Sort
import Mathlib.Data.Rat.Floor
import Mathlib.Tactic.FieldSimp
import Mathlib.Tactic.Linarith
import Freeciv3d.Web.MapVectors

namespace Freeciv3d.Web

namespace Framing

-- ==== the code

def unwrapCoordinate (axis : Axis) (val ref : Int) : Int :=
  if !axis.wraps || axis.size ≤ 0 then val
  else
    let delta := val - ref
    let half : Int := axis.size / 2
    if half < delta then val - axis.size
    else if delta < -half then val + axis.size
    else val

/-- `((c % size) + size) % size`. -/
def rewrap (axis : Axis) (c : Int) : Int :=
  if axis.wraps && 0 < axis.size then
    (c.tmod axis.size + axis.size).tmod axis.size
  else c

structure Position where
  x : Int
  y : Int
  weight : Rat

/-- `weight || 1`. -/
def Position.counted (p : Position) : Rat :=
  if p.weight = 0 then 1 else p.weight

structure Frame where
  centroidX : Int
  centroidY : Int
  spread : Int
  effectiveRadius : Rat
  radiusX : Rat
  radiusY : Rat
  totalWeight : Rat
  deriving DecidableEq

/-- The largest gap so far and where it is, after the `i`th was looked at. -/
def widerGap (distances : List Rat) (best : Rat × Nat) (i : Nat) : Rat × Nat :=
  let gap := distances.getD (i + 1) 0 - distances.getD i 0
  if best.1 < gap then (gap, i) else best

def findOutlierCutoffRadius (distances : List Rat) : Rat :=
  let last := distances.length - 1
  if distances.length = 0 then 0
  else if distances.length ≤ 2 then distances.getD last 0
  else
    let minCoreIndex := distances.length * 6 / 10
    let (bestGap, cutoffIndex) := (List.range' minCoreIndex
      (last - minCoreIndex)).foldl (widerGap distances) (0, last)
    let coreRadius := distances.getD cutoffIndex 0
    if 0 < coreRadius ∧ coreRadius * (8 / 10) < bestGap
        ∧ coreRadius * 4 < distances.getD last 0 then
      coreRadius
    else distances.getD last 0

section unwrapped

variable (l : List Position)

def totalWeight : Rat := (l.map Position.counted).sum

def centroidRaw (f : Position → Int) : Rat :=
  (l.map fun p => f p * p.counted).sum / totalWeight l

def least (f : Position → Int) : Int := (l.map f).min?.getD 0

def largest (f : Position → Int) : Int := (l.map f).max?.getD 0

def radius (f : Position → Int) : Rat :=
  max |largest l f - centroidRaw l f| |least l f - centroidRaw l f|

def distance (p : Position) : Rat :=
  max |p.x - centroidRaw l Position.x| |p.y - centroidRaw l Position.y|

/-- How often a position is pushed: `for (j = 0; j < w; j++)`. -/
def Position.copies (p : Position) : Nat := ⌈p.counted⌉.toNat

def distances : List Rat :=
  (l.flatMap fun p => List.replicate p.copies (distance l p)).mergeSort

/-- The frame of unwrapped positions, the centroid not yet wrapped again. -/
def frame : Frame where
  centroidX := ⌊centroidRaw l Position.x⌋
  centroidY := ⌊centroidRaw l Position.y⌋
  spread := max (largest l Position.x - least l Position.x)
    (largest l Position.y - least l Position.y)
  effectiveRadius := findOutlierCutoffRadius (distances l)
  radiusX := radius l Position.x
  radiusY := radius l Position.y
  totalWeight := totalWeight l

end unwrapped

variable (xAxis yAxis : Axis)

def unwrap (ref p : Position) : Position :=
  { p with x := unwrapCoordinate xAxis p.x ref.x,
           y := unwrapCoordinate yAxis p.y ref.y }

def computeWrappedSpreadAndCentroid : List Position → Option Frame
  | [] => none
  | ref :: rest =>
    let f := frame ((ref :: rest).map (unwrap xAxis yAxis ref))
    some { f with centroidX := rewrap xAxis f.centroidX,
                  centroidY := rewrap yAxis f.centroidY }

-- ==== the statement

def rotate (axis : Axis) (a c : Int) : Int :=
  if axis.wraps then (c + a) % axis.size else c

def Position.rotated (a b : Int) (p : Position) : Position :=
  { p with x := rotate xAxis a p.x, y := rotate yAxis b p.y }

def Frame.rotated (a b : Int) (f : Frame) : Frame :=
  { f with centroidX := rotate xAxis a f.centroidX,
           centroidY := rotate yAxis b f.centroidY }

/-- Coordinates of a wrapping axis in an arc from `s` on that is shorter
than half of it. -/
def Arc (axis : Axis) (s : Int) (cs : List Int) : Prop :=
  axis.wraps = true → (∀ c ∈ cs, 0 ≤ c ∧ c < axis.size)
    ∧ ∃ len : Nat, 2 * len < axis.size
      ∧ ∀ c ∈ cs, (c - s) % axis.size ≤ len

/-- The extent is less than half the map, on an axis that wraps. -/
def BelowHalf (axis : Axis) (cs : List Int) : Prop := ∃ s, Arc axis s cs

def unwrapped (l : List Position) : List Position :=
  l.map (unwrap xAxis yAxis (l.headD ⟨0, 0, 0⟩))

/-- The radius holds 60 % of the copies, and leaves a position out only
across a gap of more than 0.8 of it. -/
structure KeepsCore (l : List Position) (r : Rat) : Prop where
  core : 6 * (l.map Position.copies).sum
    ≤ 10 * (l.map fun p => if distance l p ≤ r then p.copies else 0).sum
  gap : ∀ p ∈ l, r < distance l p → r * (8 / 10) < distance l p - r

-- ==== an axis

def offset (axis : Axis) (s c : Int) : Int :=
  if axis.wraps then (c - s) % axis.size else c

theorem unwrapCoordinate_eq {axis : Axis} {s val ref : Int} {len : Nat}
    (hlen : 2 * len < axis.size) (hval : 0 ≤ val ∧ val < axis.size)
    (href : 0 ≤ ref ∧ ref < axis.size) (hwraps : axis.wraps = true)
    (hv : (val - s) % axis.size ≤ len) (hr : (ref - s) % axis.size ≤ len) :
    unwrapCoordinate axis val ref
      = offset axis s val + (ref - offset axis s ref) := by
  have hpos : (0 : Int) < axis.size := by omega
  have hv0 := Int.emod_nonneg (val - s) hpos.ne'
  have hr0 := Int.emod_nonneg (ref - s) hpos.ne'
  have hvd := Int.mul_ediv_add_emod (val - s) axis.size
  have hrd := Int.mul_ediv_add_emod (ref - s) axis.size
  simp only [unwrapCoordinate, offset, hwraps, if_true, Bool.not_true,
    Bool.false_or, decide_eq_true_eq, Nat.le_zero]
  rw [if_neg (by omega)]
  generalize (val - s) % axis.size = e at *
  generalize (ref - s) % axis.size = f at *
  generalize (val - s) / axis.size = q at *
  generalize (ref - s) / axis.size = k at *
  generalize hn : (axis.size : Int) = n at *
  -- the two differ by less than one turn more than their offsets
  have hturn : n * q - n * k = n * (q - k) := by rw [Int.mul_sub]
  have hlow : -2 < q - k := by
    by_contra hneg
    have : n * (q - k) ≤ n * (-2) :=
      Int.mul_le_mul_of_nonneg_left (by omega) hpos.le
    omega
  have hhigh : q - k < 2 := by
    by_contra hneg
    have : n * 2 ≤ n * (q - k) :=
      Int.mul_le_mul_of_nonneg_left (by omega) hpos.le
    omega
  have hcases : q - k = -1 ∨ q - k = 0 ∨ q - k = 1 := by omega
  rcases hcases with h | h | h <;> rw [h] at hturn <;> split_ifs <;> omega

theorem rewrap_eq (axis : Axis) (c : Int) :
    rewrap axis c
      = if axis.wraps && 0 < axis.size then c % axis.size else c := by
  unfold rewrap
  split
  next h =>
    have hpos : (0 : Int) < axis.size := by
      simp only [Bool.and_eq_true, decide_eq_true_eq] at h
      omega
    have hmod := Int.emod_nonneg c hpos.ne'
    have hlt := Int.emod_lt_of_pos c hpos
    have hlow : 0 ≤ c.tmod axis.size + axis.size := by
      rw [Int.tmod_eq_emod]
      split <;> omega
    rw [Int.tmod_eq_emod_of_nonneg hlow, Int.add_emod_right,
      Int.tmod_eq_emod]
    split
    · simp
    · rw [Int.natCast_natAbs, abs_of_pos hpos, Int.sub_emod_right,
        Int.emod_emod_of_dvd _ (dvd_refl _)]
  next => rfl

-- ==== the order

theorem min?_perm {xs ys : List Int} (h : xs.Perm ys) : xs.min? = ys.min? :=
  Option.ext fun a => by simp only [List.min?_eq_some_iff, h.mem_iff]

theorem max?_perm {xs ys : List Int} (h : xs.Perm ys) : xs.max? = ys.max? :=
  Option.ext fun a => by simp only [List.max?_eq_some_iff, h.mem_iff]

theorem pairwise_distances (l : List Position) :
    (distances l).Pairwise (· ≤ ·) := by
  have hsorted := List.pairwise_mergeSort' (· ≤ ·)
    (l.flatMap fun p => List.replicate p.copies (distance l p))
  exact hsorted

section perm

variable {l l' : List Position} (h : l.Perm l')

include h

theorem totalWeight_perm : totalWeight l = totalWeight l' :=
  (h.map _).sum_eq

theorem centroidRaw_perm (f : Position → Int) :
    centroidRaw l f = centroidRaw l' f := by
  unfold centroidRaw
  rw [(h.map _).sum_eq, totalWeight_perm h]

theorem distance_perm : distance l = distance l' := by
  funext p
  unfold distance
  rw [centroidRaw_perm h, centroidRaw_perm h]

theorem distances_perm : distances l = distances l' := by
  refine List.Perm.eq_of_pairwise' (pairwise_distances l)
    (pairwise_distances l') ?_
  unfold distances
  rw [distance_perm h]
  exact ((List.mergeSort_perm _ _).trans (h.flatMap_right _)).trans
    (List.mergeSort_perm _ _).symm

theorem frame_perm : frame l = frame l' := by
  have hleast : ∀ f, least l f = least l' f := fun f => by
    rw [least, min?_perm (h.map f), least]
  have hlargest : ∀ f, largest l f = largest l' f := fun f => by
    rw [largest, max?_perm (h.map f), largest]
  unfold frame radius
  simp only [hleast, hlargest, centroidRaw_perm h, distances_perm h,
    totalWeight_perm h]

end perm

-- ==== the shift

section shift

variable {l : List Position} {g : Position → Position} {dx dy : Int}

/-- A change that moves each position by the same vector. -/
structure Shifts (g : Position → Position) (dx dy : Int) : Prop where
  x : ∀ p, (g p).x = p.x + dx
  y : ∀ p, (g p).y = p.y + dy
  counted : ∀ p, (g p).counted = p.counted

theorem min?_add {xs : List Int} {a : Int} (h : xs.min? = some a) (d : Int) :
    (xs.map (· + d)).min? = some (a + d) := by
  obtain ⟨hmem, hle⟩ := List.min?_eq_some_iff.mp h
  exact List.min?_eq_some_iff.mpr ⟨List.mem_map_of_mem hmem,
    List.forall_mem_map.mpr fun c hc => Int.add_le_add_right (hle c hc) d⟩

theorem max?_add {xs : List Int} {a : Int} (h : xs.max? = some a) (d : Int) :
    (xs.map (· + d)).max? = some (a + d) := by
  obtain ⟨hmem, hle⟩ := List.max?_eq_some_iff.mp h
  exact List.max?_eq_some_iff.mpr ⟨List.mem_map_of_mem hmem,
    List.forall_mem_map.mpr fun c hc => Int.add_le_add_right (hle c hc) d⟩

variable {f : Position → Int} {d : Int}

theorem extremes_map (hne : l ≠ []) (hf : ∀ p, f (g p) = f p + d) :
    least (l.map g) f = least l f + d
      ∧ largest (l.map g) f = largest l f + d := by
  have hmap : (l.map g).map f = (l.map f).map (· + d) := by
    rw [List.map_map, List.map_map]
    exact List.map_congr_left fun p _ => hf p
  have hmin : (l.map f).min? ≠ none := by
    simpa [List.min?_eq_none_iff] using hne
  have hmax : (l.map f).max? ≠ none := by
    simpa [List.max?_eq_none_iff] using hne
  obtain ⟨a, ha⟩ := Option.ne_none_iff_exists'.mp hmin
  obtain ⟨b, hb⟩ := Option.ne_none_iff_exists'.mp hmax
  unfold least largest
  rw [hmap, min?_add ha, max?_add hb, ha, hb]
  exact ⟨rfl, rfl⟩

theorem totalWeight_map (hc : ∀ p, (g p).counted = p.counted) :
    totalWeight (l.map g) = totalWeight l := by
  unfold totalWeight
  rw [List.map_map]
  exact congrArg List.sum (List.map_congr_left fun p _ => hc p)

theorem centroidRaw_map (ht : totalWeight l ≠ 0)
    (hc : ∀ p, (g p).counted = p.counted) (hf : ∀ p, f (g p) = f p + d) :
    centroidRaw (l.map g) f = centroidRaw l f + d := by
  have hsum : ((l.map g).map fun p => f p * p.counted).sum
      = (l.map fun p => f p * p.counted).sum + d * totalWeight l := by
    unfold totalWeight
    clear ht
    induction l with
    | nil => simp
    | cons p l ih =>
      simp only [List.map_cons, List.sum_cons, hf, hc] at ih ⊢
      rw [ih]
      push_cast
      ring
  unfold centroidRaw
  rw [hsum, totalWeight_map hc, add_div, mul_div_cancel_right₀ _ ht]

theorem distance_map (ht : totalWeight l ≠ 0) (h : Shifts g dx dy)
    (p : Position) : distance (l.map g) (g p) = distance l p := by
  unfold distance
  rw [centroidRaw_map ht h.counted h.x, centroidRaw_map ht h.counted h.y,
    h.x, h.y]
  push_cast
  rw [add_sub_add_right_eq_sub, add_sub_add_right_eq_sub]

theorem frame_map (hne : l ≠ []) (ht : totalWeight l ≠ 0)
    (h : Shifts g dx dy) :
    frame (l.map g)
      = { frame l with centroidX := (frame l).centroidX + dx,
                       centroidY := (frame l).centroidY + dy } := by
  obtain ⟨hlx, hgx⟩ := extremes_map hne h.x
  obtain ⟨hly, hgy⟩ := extremes_map hne h.y
  have hx := centroidRaw_map ht h.counted h.x
  have hy := centroidRaw_map ht h.counted h.y
  have hdistances : distances (l.map g) = distances l := by
    unfold distances
    rw [List.flatMap_map]
    have hcopies : ∀ p, (g p).copies = p.copies := fun p => by
      rw [Position.copies, h.counted, Position.copies]
    simp only [hcopies, distance_map ht h]
  unfold frame radius
  rw [hlx, hgx, hly, hgy, hx, hy, hdistances, totalWeight_map h.counted]
  push_cast
  simp only [add_sub_add_right_eq_sub, Int.floor_add_intCast]

end shift

-- ==== outliers

section outliers

variable {d : List Rat}

theorem foldl_widerGap (idx : List Nat) (start : Rat × Nat) :
    idx.foldl (widerGap d) start = start
      ∨ ∃ i ∈ idx, idx.foldl (widerGap d) start
        = (d.getD (i + 1) 0 - d.getD i 0, i) := by
  induction idx generalizing start with
  | nil => exact .inl rfl
  | cons i idx ih =>
    rw [List.foldl_cons]
    rcases ih (widerGap d start i) with h | ⟨k, hk, h⟩
    · rw [h]
      unfold widerGap
      dsimp only
      split
      · exact .inr ⟨i, List.mem_cons_self, rfl⟩
      · exact .inl rfl
    · exact .inr ⟨k, List.mem_cons_of_mem _ hk, h⟩

theorem cutoff_cases (d : List Rat) :
    findOutlierCutoffRadius d = d.getD (d.length - 1) 0
      ∨ ∃ i, d.length * 6 / 10 ≤ i ∧ i + 1 < d.length
        ∧ findOutlierCutoffRadius d = d.getD i 0
        ∧ d.getD i 0 * (8 / 10) < d.getD (i + 1) 0 - d.getD i 0 := by
  unfold findOutlierCutoffRadius
  dsimp only
  split
  next hzero => simp [List.length_eq_zero_iff.mp hzero]
  split
  next => exact .inl rfl
  next hlong =>
    split
    next hcut =>
      rcases foldl_widerGap (d := d) (List.range' (d.length * 6 / 10)
        (d.length - 1 - d.length * 6 / 10)) (0, d.length - 1)
        with h | ⟨i, hi, h⟩
      · rw [h]
        exact .inl rfl
      · rw [h] at hcut ⊢
        obtain ⟨hlow, hhigh⟩ := List.mem_range'_1.mp hi
        exact .inr ⟨i, hlow, by omega, rfl, hcut.2.1⟩
    next => exact .inl rfl

theorem getD_of_lt {i : Nat} (hi : i < d.length) : d.getD i 0 = d[i] := by
  simp [hi]

variable (hd : d.Pairwise (· ≤ ·))

include hd

theorem getD_le {i j : Nat} (hij : i ≤ j) (hj : j < d.length) :
    d.getD i 0 ≤ d.getD j 0 := by
  rw [getD_of_lt hj, getD_of_lt (by omega)]
  rcases Nat.eq_or_lt_of_le hij with rfl | hlt
  · exact le_refl _
  · exact List.pairwise_iff_getElem.mp hd i j _ _ hlt

theorem lt_countP {i : Nat} (hi : i < d.length) :
    i < d.countP (· ≤ d.getD i 0) := by
  have hall : (d.take (i + 1)).countP (· ≤ d.getD i 0) = i + 1 := by
    rw [List.countP_eq_length.mpr, List.length_take]
    · omega
    · intro x hx
      obtain ⟨k, hk, rfl⟩ := List.mem_take_iff_getElem.mp hx
      have hle := getD_le hd (i := k) (j := i) (by omega) hi
      rw [getD_of_lt (by omega)] at hle
      simpa using hle
  have hle := (List.take_sublist (i + 1) d).countP_le
    (p := fun x => decide (x ≤ d.getD i 0))
  omega

theorem core_of_cutoff :
    6 * d.length ≤ 10 * d.countP (· ≤ findOutlierCutoffRadius d) := by
  rcases cutoff_cases d with h | ⟨i, hlow, hlt, h, -⟩ <;> rw [h]
  · cases hlength : d.length with
    | zero => omega
    | succ n =>
      have := lt_countP hd (i := d.length - 1) (by omega)
      rw [hlength] at this
      omega
  · have := lt_countP hd (i := i) (by omega)
    omega

theorem gap_of_cutoff {x : Rat} (hx : x ∈ d)
    (hlt : findOutlierCutoffRadius d < x) :
    findOutlierCutoffRadius d * (8 / 10)
      < x - findOutlierCutoffRadius d := by
  obtain ⟨k, hk, rfl⟩ := List.mem_iff_getElem.mp hx
  rw [← getD_of_lt hk] at hlt ⊢
  rcases cutoff_cases d with h | ⟨i, hlow, hi, h, hgap⟩ <;> rw [h] at hlt ⊢
  · exact absurd hlt (not_lt.mpr (getD_le hd (by omega) (by omega)))
  · have hbehind : i < k := by
      by_contra hle
      exact absurd hlt (not_lt.mpr (getD_le hd (by omega) (by omega)))
    have := getD_le hd (i := i + 1) (by omega) hk
    linarith

end outliers

theorem keepsCore {l : List Position} (hw : ∀ p ∈ l, 0 < p.counted) :
    KeepsCore l (findOutlierCutoffRadius (distances l)) := by
  have hsorted := pairwise_distances l
  have hcount : ∀ q : Rat → Bool, (distances l).countP q
      = (l.map fun p => if q (distance l p) then p.copies else 0).sum := by
    intro q
    unfold distances
    rw [(List.mergeSort_perm _ _).countP_eq, List.countP_flatMap]
    congr 1
    refine List.map_congr_left fun p _ => ?_
    rw [Function.comp_apply, List.countP_replicate]
  have hlength : (distances l).length = (l.map Position.copies).sum := by
    rw [← List.countP_true, hcount]
    simp
  constructor
  · have hcore := core_of_cutoff hsorted
    rw [hlength, hcount] at hcore
    simpa using hcore
  · intro p hp hlt
    have hcopies : p.copies ≠ 0 := by
      have := Int.ceil_pos.mpr (hw p hp)
      unfold Position.copies
      omega
    refine gap_of_cutoff hsorted ?_ hlt
    unfold distances
    rw [List.mem_mergeSort]
    exact List.mem_flatMap.mpr
      ⟨p, hp, List.mem_replicate.mpr ⟨hcopies, rfl⟩⟩

-- ==== the frame

section rotation

variable {xAxis yAxis : Axis} {l : List Position}

theorem Arc.unwrapCoordinate {axis : Axis} {s : Int} {cs : List Int}
    (h : Arc axis s cs) {val ref : Int} (hval : val ∈ cs) (href : ref ∈ cs) :
    Framing.unwrapCoordinate axis val ref
      = offset axis s val + (ref - offset axis s ref) := by
  cases hwraps : axis.wraps with
  | true =>
    obtain ⟨hmap, len, hlen, harc⟩ := h hwraps
    exact unwrapCoordinate_eq hlen (hmap val hval) (hmap ref href) hwraps
      (harc val hval) (harc ref href)
  | false => simp [Framing.unwrapCoordinate, offset, hwraps]

theorem Arc.rewrap {axis : Axis} {s : Int} {cs : List Int}
    (h : Arc axis s cs) (c ref : Int) :
    Framing.rewrap axis (c + (ref - offset axis s ref)) = rotate axis s c := by
  rw [rewrap_eq]
  cases hwraps : axis.wraps with
  | true =>
    obtain ⟨-, len, hlen, -⟩ := h hwraps
    have hpos : 0 < axis.size := by omega
    simp only [offset, rotate, hwraps, hpos, if_true, decide_true,
      Bool.and_self]
    have := Int.mul_ediv_add_emod (ref - s) axis.size
    have hsum : c + (ref - (ref - s) % axis.size)
        = c + s + axis.size * ((ref - s) / axis.size) := by omega
    rw [hsum, Int.add_mul_emod_self_left]
  | false => simp [offset, rotate, hwraps]

theorem offset_rotate (axis : Axis) (s a c : Int) :
    offset axis (s + a) (rotate axis a c) = offset axis s c := by
  unfold offset rotate
  split
  · rw [← Int.emod_sub_emod, Int.emod_emod_of_dvd _ (dvd_refl _),
      Int.emod_sub_emod]
    congr 1
    omega
  · rfl

theorem Arc.rotated {axis : Axis} {s : Int} {cs : List Int}
    (h : Arc axis s cs) (a : Int) :
    Arc axis (s + a) (cs.map (rotate axis a)) := by
  intro hwraps
  obtain ⟨hmap, len, hlen, harc⟩ := h hwraps
  have hpos : (0 : Int) < axis.size := by omega
  refine ⟨?_, len, hlen, ?_⟩ <;> intro _ hmem <;>
    obtain ⟨c, hc, rfl⟩ := List.mem_map.mp hmem
  · simp only [rotate, hwraps, if_true]
    exact ⟨Int.emod_nonneg _ hpos.ne', Int.emod_lt_of_pos _ hpos⟩
  · have hoffset := offset_rotate axis s a c
    simp only [offset, hwraps, if_true] at hoffset
    rw [hoffset]
    exact harc c hc

theorem Arc.perm {axis : Axis} {s : Int} {cs cs' : List Int}
    (h : Arc axis s cs) (hperm : cs.Perm cs') : Arc axis s cs' := by
  intro hwraps
  obtain ⟨hmap, len, hlen, harc⟩ := h hwraps
  exact ⟨fun c hc => hmap c (hperm.mem_iff.mpr hc), len, hlen,
    fun c hc => harc c (hperm.mem_iff.mpr hc)⟩

theorem rotate_rotate (axis : Axis) (s a c : Int) :
    rotate axis (s + a) c = rotate axis a (rotate axis s c) := by
  unfold rotate
  split
  · rw [Int.emod_add_emod, Int.add_assoc]
  · rfl

def offsets (xAxis yAxis : Axis) (sx sy : Int) (p : Position) : Position :=
  { p with x := offset xAxis sx p.x, y := offset yAxis sy p.y }

theorem totalWeight_ne_zero (hne : l ≠ []) (hw : ∀ p ∈ l, 0 < p.weight)
    {g : Position → Position} (hg : ∀ p, (g p).weight = p.weight) :
    totalWeight (l.map g) ≠ 0 := by
  have hpos : 0 < totalWeight (l.map g) := by
    refine List.sum_pos _ ?_ (by simpa using hne)
    intro w hmem
    obtain ⟨q, hq, rfl⟩ := List.mem_map.mp hmem
    obtain ⟨p, hp, rfl⟩ := List.mem_map.mp hq
    have hweight := hw p hp
    rw [Position.counted, hg, if_neg hweight.ne']
    exact hweight
  exact hpos.ne'

theorem compute_eq {sx sy : Int} (hne : l ≠ [])
    (hw : ∀ p ∈ l, 0 < p.weight)
    (hx : Arc xAxis sx (l.map Position.x))
    (hy : Arc yAxis sy (l.map Position.y)) :
    computeWrappedSpreadAndCentroid xAxis yAxis l
      = some ((frame (l.map (offsets xAxis yAxis sx sy))).rotated xAxis yAxis
        sx sy) := by
  cases l with
  | nil => exact absurd rfl hne
  | cons ref rest =>
    have hmap : (ref :: rest).map (unwrap xAxis yAxis ref)
        = ((ref :: rest).map (offsets xAxis yAxis sx sy)).map fun p =>
          { p with x := p.x + (ref.x - offset xAxis sx ref.x),
                   y := p.y + (ref.y - offset yAxis sy ref.y) } := by
      rw [List.map_map]
      refine List.map_congr_left fun p hp => ?_
      have hpx := hx.unwrapCoordinate (List.mem_map_of_mem hp)
        (List.mem_map_of_mem List.mem_cons_self)
      have hpy := hy.unwrapCoordinate (List.mem_map_of_mem hp)
        (List.mem_map_of_mem List.mem_cons_self)
      simp only [unwrap, hpx, hpy, Function.comp_apply, offsets]
    have hshift := frame_map
      (by simp : (ref :: rest).map (offsets xAxis yAxis sx sy) ≠ [])
      (totalWeight_ne_zero (by simp) hw fun _ => rfl)
      (g := fun p => { p with x := p.x + (ref.x - offset xAxis sx ref.x),
                              y := p.y + (ref.y - offset yAxis sy ref.y) })
      ⟨fun _ => rfl, fun _ => rfl, fun _ => rfl⟩
    unfold computeWrappedSpreadAndCentroid
    dsimp only
    rw [hmap, hshift]
    simp only [hx.rewrap, hy.rewrap]
    rfl

end rotation

/-- Of positions whose extent is less than half of each axis that wraps: a
rotation of the map rotates the centroid and changes nothing else, the order
does not matter, and the radius keeps the core. -/
theorem framing_invariant (l : List Position)
    (hw : ∀ p ∈ l, 0 < p.weight)
    (hx : BelowHalf xAxis (l.map Position.x))
    (hy : BelowHalf yAxis (l.map Position.y)) :
    (∀ a b, computeWrappedSpreadAndCentroid xAxis yAxis
        (l.map (Position.rotated xAxis yAxis a b))
      = (computeWrappedSpreadAndCentroid xAxis yAxis l).map
        (Frame.rotated xAxis yAxis a b))
    ∧ (∀ l', l.Perm l' → computeWrappedSpreadAndCentroid xAxis yAxis l'
      = computeWrappedSpreadAndCentroid xAxis yAxis l)
    ∧ ∀ f, computeWrappedSpreadAndCentroid xAxis yAxis l = some f →
      KeepsCore (unwrapped xAxis yAxis l) f.effectiveRadius := by
  obtain ⟨sx, hx⟩ := hx
  obtain ⟨sy, hy⟩ := hy
  by_cases hne : l = []
  · subst hne
    refine ⟨fun _ _ => rfl, fun l' hperm => ?_, fun f hf => by cases hf⟩
    rw [hperm.nil_eq]
  have hl := compute_eq hne hw hx hy
  refine ⟨fun a b => ?_, fun l' hperm => ?_, fun f hf => ?_⟩
  · have hrx : Arc xAxis (sx + a)
        ((l.map (Position.rotated xAxis yAxis a b)).map Position.x) := by
      have hrotated := hx.rotated a
      rw [List.map_map] at hrotated ⊢
      exact hrotated
    have hry : Arc yAxis (sy + b)
        ((l.map (Position.rotated xAxis yAxis a b)).map Position.y) := by
      have hrotated := hy.rotated b
      rw [List.map_map] at hrotated ⊢
      exact hrotated
    have hrw : ∀ p ∈ l.map (Position.rotated xAxis yAxis a b),
        0 < p.weight := List.forall_mem_map.mpr hw
    rw [hl, compute_eq (by simpa using hne) hrw hrx hry, List.map_map]
    have hoffsets : offsets xAxis yAxis (sx + a) (sy + b)
        ∘ Position.rotated xAxis yAxis a b = offsets xAxis yAxis sx sy := by
      funext p
      simp only [Function.comp_apply, offsets, Position.rotated,
        offset_rotate]
    rw [hoffsets]
    simp only [Option.map_some, Frame.rotated, rotate_rotate]
  · rw [hl, compute_eq (fun h => hne (h ▸ hperm).eq_nil)
      (fun p hp => hw p (hperm.mem_iff.mpr hp)) (hx.perm (hperm.map _))
      (hy.perm (hperm.map _)), frame_perm (hperm.map _)]
  · cases l with
    | nil => exact absurd rfl hne
    | cons ref rest =>
      cases hf
      refine keepsCore fun p hp => ?_
      obtain ⟨q, hq, rfl⟩ := List.mem_map.mp hp
      have hweight := hw q hq
      rw [Position.counted, unwrap, if_neg hweight.ne']
      exact hweight

def antipodes : List Position := [⟨0, 0, 1⟩, ⟨5, 0, 1⟩]

def neighbours : List Position := [⟨9, 3, 3⟩, ⟨1, 4, 1⟩]

theorem neighbours_invariant :
    (∀ a b, computeWrappedSpreadAndCentroid ⟨true, 10⟩ ⟨false, 10⟩
        (neighbours.map (Position.rotated ⟨true, 10⟩ ⟨false, 10⟩ a b))
      = (computeWrappedSpreadAndCentroid ⟨true, 10⟩ ⟨false, 10⟩
        neighbours).map (Frame.rotated ⟨true, 10⟩ ⟨false, 10⟩ a b))
    ∧ (∀ l', neighbours.Perm l' →
      computeWrappedSpreadAndCentroid ⟨true, 10⟩ ⟨false, 10⟩ l'
        = computeWrappedSpreadAndCentroid ⟨true, 10⟩ ⟨false, 10⟩ neighbours)
    ∧ ∀ f, computeWrappedSpreadAndCentroid ⟨true, 10⟩ ⟨false, 10⟩ neighbours
        = some f →
      KeepsCore (unwrapped ⟨true, 10⟩ ⟨false, 10⟩ neighbours)
        f.effectiveRadius :=
  framing_invariant ⟨true, 10⟩ ⟨false, 10⟩ neighbours (by decide +kernel)
    ⟨9, fun _ => ⟨by decide, 2, by decide, by decide⟩⟩
    ⟨0, fun h => by cases h⟩

/-- Rotated by half a map the centroid stays where it was. -/
theorem antipodes_not_rotated :
    (∀ c ∈ antipodes.map Position.x, 0 ≤ c ∧ c < 10 ∧ 2 * (c % 10) ≤ 10)
    ∧ computeWrappedSpreadAndCentroid ⟨true, 10⟩ ⟨true, 10⟩
        (antipodes.map (Position.rotated ⟨true, 10⟩ ⟨true, 10⟩ 5 0))
      ≠ (computeWrappedSpreadAndCentroid ⟨true, 10⟩ ⟨true, 10⟩
        antipodes).map (Frame.rotated ⟨true, 10⟩ ⟨true, 10⟩ 5 0) := by
  decide +kernel

end Framing

end Freeciv3d.Web
