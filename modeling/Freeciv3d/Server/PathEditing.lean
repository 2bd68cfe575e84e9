/-
Paths cut and joined: `pf_path_advance`, `pf_path_backtrack` and
`pf_path_concat`.

# The two searches

Both look at a position before they look at their bound. The one from the
end stops at index 0, which is a position; the one from the start stops
behind the last index, having looked there. So a tile that is not on the
path is asked of memory behind the positions.
-/
import Freeciv3d.Server.PathFinding

namespace Freeciv3d.Server

namespace PathEditing

-- ==== the code

abbrev PfPath : Type := List PfPosition

/-- The loop of `pf_path_advance` from index `i`: where it stops, if it does
not return `FALSE`; `none` outside is a read behind the positions. -/
def advanceLoop (path : PfPath) (ptile : Nat) (i : Nat) :
    Option (Option Nat) :=
  if h : i < path.length then
    if (path.get ⟨i, h⟩).tile = ptile then some (some i)
    else if path.length ≤ i then some none
    else advanceLoop path ptile (i + 1)
  else none
termination_by path.length - i

def pfPathAdvance (path : PfPath) (ptile : Nat) : Option (Bool × PfPath) :=
  match advanceLoop path ptile 0 with
  | none => none
  | some none => some (false, path)
  | some (some i) =>
    if i < path.length then some (true, path.drop i)
    else some (false, path)

/-- The loop of `pf_path_backtrack` from index `i` down. -/
def backtrackLoop (path : PfPath) (ptile : Nat) (i : Nat) :
    Option (Option Nat) :=
  match path[i]? with
  | none => none
  | some position =>
    if position.tile = ptile then some (some i)
    else
      match i with
      | 0 => some none
      | i + 1 => backtrackLoop path ptile i

def pfPathBacktrack (path : PfPath) (ptile : Nat) : Option (Bool × PfPath) :=
  if path.length = 0 then some (false, path)
  else
    match backtrackLoop path ptile (path.length - 1) with
    | none => none
    | some none => some (false, path)
    | some (some i) => some (true, path.take (i + 1))

/-- The overlapping position is that of the second path. -/
def pfPathConcat (destPath : Option PfPath) (srcPath : PfPath) : PfPath :=
  match destPath with
  | none => srcPath
  | some dest =>
    let destEnd := dest.length - 1
    if srcPath.length = 1 then dest else dest.take destEnd ++ srcPath

-- ==== the statement

def OnPath (path : PfPath) (ptile : Nat) : Prop :=
  ∃ position ∈ path, position.tile = ptile

/-- An edit that finds the tile, or returns `FALSE` and leaves the path. -/
def Finds (edited : Option (Bool × PfPath)) (path : PfPath) (ptile : Nat)
    (cut : PfPath → PfPosition → PfPath → Prop) : Prop :=
  (¬ OnPath path ptile → edited = some (false, path))
    ∧ (OnPath path ptile → ∃ before position after,
        path = before ++ position :: after ∧ position.tile = ptile
        ∧ cut before position after)

/-- Both edits cut at the tile, the first one at its first and the second at
its last occurrence, and at its only one the parts are the path. -/
structure EditsLossless (path : PfPath) (ptile : Nat) : Prop where
  advance : Finds (pfPathAdvance path ptile) path ptile
    fun before position after => (∀ q ∈ before, q.tile ≠ ptile)
      ∧ pfPathAdvance path ptile = some (true, position :: after)
  backtrack : Finds (pfPathBacktrack path ptile) path ptile
    fun before position after => (∀ q ∈ after, q.tile ≠ ptile)
      ∧ pfPathBacktrack path ptile = some (true, before ++ [position])
  concat : ∀ before position after, path = before ++ position :: after →
    position.tile = ptile → (∀ q ∈ before ++ after, q.tile ≠ ptile) →
    ∃ first last, pfPathBacktrack path ptile = some (true, first)
      ∧ pfPathAdvance path ptile = some (true, last)
      ∧ pfPathConcat (some first) last = path

-- ==== the searches

variable {ptile : Nat} {before after : PfPath} {position : PfPosition}

theorem advanceLoop_found (hp : position.tile = ptile)
    (hbefore : ∀ q ∈ before, q.tile ≠ ptile) {i : Nat}
    (hi : i ≤ before.length) :
    advanceLoop (before ++ position :: after) ptile i
      = some (some before.length) := by
  obtain ⟨n, hn⟩ := Nat.exists_eq_add_of_le hi
  induction n generalizing i with
  | zero =>
    unfold advanceLoop
    obtain rfl : i = before.length := by omega
    simp [hp]
  | succ n ih =>
    have hlt : i < before.length := by omega
    unfold advanceLoop
    rw [dif_pos (by simp; omega), if_neg (by
      simpa [hlt] using hbefore _ (List.getElem_mem hlt)),
      if_neg (by simp; omega)]
    exact ih (by omega) (by omega)

/-- Of an absent tile the last read is behind the path. -/
theorem advanceLoop_absent {path : PfPath} (h : ¬ OnPath path ptile) {i : Nat}
    (hi : i ≤ path.length) : advanceLoop path ptile i = none := by
  obtain ⟨n, hn⟩ := Nat.exists_eq_add_of_le hi
  induction n generalizing i with
  | zero =>
    unfold advanceLoop
    exact dif_neg (by omega)
  | succ n ih =>
    have hlt : i < path.length := by omega
    unfold advanceLoop
    rw [dif_pos hlt, if_neg fun heq => h ⟨_, List.get_mem _ _, heq⟩,
      if_neg (by omega)]
    exact ih (by omega) (by omega)

theorem backtrackLoop_found (hp : position.tile = ptile)
    (hafter : ∀ q ∈ after, q.tile ≠ ptile) {n : Nat}
    (hn : n ≤ after.length) :
    backtrackLoop (before ++ position :: after) ptile (before.length + n)
      = some (some before.length) := by
  induction n with
  | zero =>
    unfold backtrackLoop
    simp [hp]
  | succ n ih =>
    have hlt : n < after.length := by omega
    have hget : (before ++ position :: after)[before.length + (n + 1)]?
        = some after[n] := by
      simp [hlt]
    unfold backtrackLoop
    rw [hget]
    dsimp only
    rw [if_neg (hafter _ (List.getElem_mem hlt))]
    exact ih (by omega)

-- ==== the edits

theorem pfPathAdvance_found (hp : position.tile = ptile)
    (hbefore : ∀ q ∈ before, q.tile ≠ ptile) :
    pfPathAdvance (before ++ position :: after) ptile
      = some (true, position :: after) := by
  unfold pfPathAdvance
  rw [advanceLoop_found hp hbefore (Nat.zero_le _)]
  simp

theorem pfPathBacktrack_found (hp : position.tile = ptile)
    (hafter : ∀ q ∈ after, q.tile ≠ ptile) :
    pfPathBacktrack (before ++ position :: after) ptile
      = some (true, before ++ [position]) := by
  have hlast : (before ++ position :: after).length - 1
      = before.length + after.length := by
    simp only [List.length_append, List.length_cons]
    omega
  unfold pfPathBacktrack
  rw [if_neg (by simp), hlast, backtrackLoop_found hp hafter (Nat.le_refl _)]
  simp [List.take_append, List.take_of_length_le]

theorem pfPathConcat_parts :
    pfPathConcat (some (before ++ [position])) (position :: after)
      = before ++ position :: after := by
  unfold pfPathConcat
  cases after with
  | nil => rfl
  | cons q rest => simp

theorem pfPathAdvance_absent {path : PfPath} (h : ¬ OnPath path ptile) :
    pfPathAdvance path ptile = none := by
  unfold pfPathAdvance
  rw [advanceLoop_absent h (Nat.zero_le _)]

/-- A path cut at the first place of a tile that is on it. -/
theorem exists_first {path : PfPath} (h : OnPath path ptile) :
    ∃ before position after, path = before ++ position :: after
      ∧ position.tile = ptile ∧ ∀ q ∈ before, q.tile ≠ ptile := by
  cases hfind : path.find? fun q => q.tile = ptile with
  | none =>
    obtain ⟨q, hq, heq⟩ := h
    exact absurd heq (by simpa using List.find?_eq_none.mp hfind q hq)
  | some position =>
    obtain ⟨hp, before, after, rfl, hbefore⟩ :=
      List.find?_eq_some_iff_append.mp hfind
    exact ⟨before, position, after, rfl, by simpa using hp,
      fun q hq => by simpa using hbefore q hq⟩

theorem exists_last {path : PfPath} (h : OnPath path ptile) :
    ∃ before position after, path = before ++ position :: after
      ∧ position.tile = ptile ∧ ∀ q ∈ after, q.tile ≠ ptile := by
  obtain ⟨q, hq, heq⟩ := h
  have hreverse : OnPath path.reverse ptile :=
    ⟨q, List.mem_reverse.mpr hq, heq⟩
  obtain ⟨after, position, before, hpath, hp, hafter⟩ :=
    exists_first hreverse
  refine ⟨before.reverse, position, after.reverse, ?_, hp,
    fun q hq => hafter q (List.mem_reverse.mp hq)⟩
  rw [← List.reverse_inj, hpath]
  simp

/-- The edits are lossless exactly for the tiles that are on the path. -/
theorem path_edits_lossless_iff {path : PfPath} (hpath : path ≠ [])
    (ptile : Nat) : EditsLossless path ptile ↔ OnPath path ptile := by
  constructor
  · intro h
    by_contra hno
    have hkept := h.advance.1 hno
    rw [pfPathAdvance_absent hno] at hkept
    cases hkept
  · intro hon
    constructor
    · refine ⟨fun hno => absurd hon hno, fun _ => ?_⟩
      obtain ⟨before, position, after, rfl, hp, hbefore⟩ := exists_first hon
      exact ⟨before, position, after, rfl, hp, hbefore,
        pfPathAdvance_found hp hbefore⟩
    · refine ⟨fun hno => absurd hon hno, fun _ => ?_⟩
      obtain ⟨before, position, after, rfl, hp, hafter⟩ := exists_last hon
      exact ⟨before, position, after, rfl, hp, hafter,
        pfPathBacktrack_found hp hafter⟩
    · rintro before position after rfl hp hone
      refine ⟨_, _, pfPathBacktrack_found hp fun q hq =>
        hone q (List.mem_append_right _ hq), pfPathAdvance_found hp fun q hq =>
        hone q (List.mem_append_left _ hq), pfPathConcat_parts⟩

def onTile (tile : Nat) : PfPosition := ⟨tile, 0, 0, 1, 0, 0, none, none⟩

theorem middle_tile_lossless :
    EditsLossless [onTile 3, onTile 4, onTile 5] 4 :=
  (path_edits_lossless_iff (by decide) 4).mpr ⟨onTile 4, by decide, rfl⟩

/-- Asking a path of one position for another tile reads behind it. -/
theorem absent_tile_not_lossless :
    ¬ ∀ path ptile, path ≠ [] → EditsLossless path ptile := by
  intro h
  have habsent : ¬ OnPath [onTile 3] 4 := by
    rintro ⟨q, hq, heq⟩
    obtain rfl := List.mem_singleton.mp hq
    cases heq
  have hkept := (h [onTile 3] 4 (by decide)).advance.1 habsent
  rw [pfPathAdvance_absent habsent] at hkept
  cases hkept

end PathEditing

end Freeciv3d.Server
