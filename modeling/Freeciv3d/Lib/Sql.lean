/-
An SQL table as its list of rows, and the statements a program issues
on it one at a time. A `WHERE` is a predicate on rows.

# Affected rows

A server reports for an `UPDATE` the rows that it changed, not those
that it matched: a row that already has the new values does not count.
-/
import Mathlib.Data.List.Count
import Mathlib.Data.List.Nodup

namespace Lib.Sql

variable {ρ κ : Type}

/-- `SELECT COUNT(*) … WHERE p`. -/
def count (rows : List ρ) (p : ρ → Bool) : Nat := rows.countP p

/-- `UPDATE … SET f WHERE p`. -/
def update (rows : List ρ) (p : ρ → Bool) (f : ρ → ρ) : List ρ :=
  rows.map fun r => if p r then f r else r

/-- The rows an `UPDATE` affects. -/
def affected [DecidableEq ρ] (rows : List ρ) (p : ρ → Bool) (f : ρ → ρ) :
    Nat :=
  rows.countP fun r => p r && decide (f r ≠ r)

/-- `DELETE … WHERE p`. -/
def delete (rows : List ρ) (p : ρ → Bool) : List ρ :=
  rows.filter fun r => !p r

/-- `INSERT`, under a primary key: a second row with a key is refused. -/
def insert [DecidableEq κ] (key : ρ → κ) (rows : List ρ) (r : ρ) :
    Option (List ρ) :=
  if key r ∈ rows.map key then none else some (rows ++ [r])

/-- The later of the rows read so far and the next one. -/
def later (time : ρ → Int) : Option ρ → ρ → Option ρ
  | none, r => some r
  | some b, r => if time b < time r then some r else some b

/-- `SELECT … WHERE p ORDER BY time DESC LIMIT 1`; of equal rows the
first one. -/
def latest (time : ρ → Int) (rows : List ρ) (p : ρ → Bool) : Option ρ :=
  (rows.filter p).foldl (later time) none

-- ==== what is counted

theorem count_update (rows : List ρ) (p q : ρ → Bool) (f : ρ → ρ) :
    count (update rows p f) q
      = count rows fun r => if p r then q (f r) else q r := by
  unfold count update
  rw [List.countP_map]
  congr 1
  funext r
  simp only [Function.comp_apply]
  split <;> rfl

/-- An `UPDATE` after which no row newly satisfies `q`. -/
theorem count_update_le {rows : List ρ} {p q : ρ → Bool} {f : ρ → ρ}
    (h : ∀ r ∈ rows, p r = true → q (f r) = true → q r = true) :
    count (update rows p f) q ≤ count rows q := by
  rw [count_update]
  refine List.countP_mono_left fun r hr hq => ?_
  split at hq
  next hp => exact h r hr hp hq
  next => exact hq

/-- An `UPDATE` that changes `q` on no row. -/
theorem count_update_eq {rows : List ρ} {p q : ρ → Bool} {f : ρ → ρ}
    (h : ∀ r ∈ rows, p r = true → q (f r) = q r) :
    count (update rows p f) q = count rows q := by
  rw [count_update]
  refine List.countP_congr fun r hr => ?_
  split
  next hp => rw [h r hr hp]
  next => exact Iff.rfl

theorem count_delete_le (rows : List ρ) (p q : ρ → Bool) :
    count (delete rows p) q ≤ count rows q :=
  (List.filter_sublist).countP_le

/-- Exactly one row is matched, and it comes to satisfy `q`. -/
theorem count_update_one {rows : List ρ} {p q : ρ → Bool} {f : ρ → ρ}
    (hone : count rows p = 1)
    (hnot : ∀ r ∈ rows, p r = true → q r = false)
    (hq : ∀ r, q (f r) = true) :
    count (update rows p f) q = count rows q + 1 := by
  rw [count_update]
  have hsplit : (fun r => if p r then q (f r) else q r)
      = fun r => p r || q r := by
    funext r
    cases hp : p r with
    | true => simp [hq]
    | false => simp
  rw [hsplit]
  unfold count at hone ⊢
  rw [← hone]
  clear hone
  induction rows with
  | nil => rfl
  | cons r rest ih =>
    have hrest := ih fun u hu => hnot u (List.mem_cons_of_mem r hu)
    have hr := hnot r List.mem_cons_self
    simp only [List.countP_cons, hrest]
    cases hp : p r with
    | true =>
      rw [hr hp]
      simp
      omega
    | false =>
      simp
      omega

theorem mem_update_iff {rows : List ρ} {p : ρ → Bool} {f : ρ → ρ}
    {r' : ρ} :
    r' ∈ update rows p f ↔
      ∃ r ∈ rows, r' = if p r then f r else r := by
  unfold update
  simp only [List.mem_map]
  constructor
  · rintro ⟨r, hr, rfl⟩
    exact ⟨r, hr, rfl⟩
  · rintro ⟨r, hr, rfl⟩
    exact ⟨r, hr, rfl⟩

-- ==== the primary key

theorem map_key_update_of {key : ρ → κ} (rows : List ρ) {p : ρ → Bool}
    {f : ρ → ρ} (hf : ∀ r, p r = true → key (f r) = key r) :
    (update rows p f).map key = rows.map key := by
  unfold update
  rw [List.map_map]
  refine List.map_congr_left fun r _ => ?_
  simp only [Function.comp_apply]
  split
  next hp => exact hf r hp
  next => rfl

theorem map_key_update {key : ρ → κ} (rows : List ρ) (p : ρ → Bool)
    {f : ρ → ρ} (hf : ∀ r, key (f r) = key r) :
    (update rows p f).map key = rows.map key :=
  map_key_update_of rows fun r _ => hf r

theorem nodup_delete {key : ρ → κ} {rows : List ρ}
    (h : (rows.map key).Nodup) (p : ρ → Bool) :
    ((delete rows p).map key).Nodup :=
  h.sublist (List.filter_sublist.map key)

theorem nodup_insert [DecidableEq κ] {key : ρ → κ} {rows rows' : List ρ}
    {r : ρ} (h : (rows.map key).Nodup)
    (hins : insert key rows r = some rows') :
    rows' = rows ++ [r] ∧ (rows'.map key).Nodup := by
  unfold insert at hins
  split at hins
  case isTrue => cases hins
  case isFalse hnew =>
    cases hins
    refine ⟨rfl, ?_⟩
    rw [List.map_append, List.nodup_append]
    refine ⟨h, by simp, ?_⟩
    intro a ha b hb hab
    simp only [List.map_cons, List.map_nil, List.mem_singleton] at hb
    exact hnew (hb ▸ hab ▸ ha)

/-- Two rows with one key are one row. -/
theorem eq_of_key_eq {key : ρ → κ} {rows : List ρ}
    (h : (rows.map key).Nodup) {r r' : ρ} (hr : r ∈ rows) (hr' : r' ∈ rows)
    (hk : key r = key r') : r = r' :=
  List.inj_on_of_nodup_map h hr hr' hk

/-- A predicate that one row satisfies, by its key. -/
theorem count_eq_one {key : ρ → κ} {rows : List ρ}
    (h : (rows.map key).Nodup) {p : ρ → Bool} {r : ρ} (hr : r ∈ rows)
    (hp : p r = true) (hone : ∀ u ∈ rows, p u = true → key u = key r) :
    count rows p = 1 := by
  unfold count
  rw [List.countP_eq_length_filter]
  have hfilter : rows.filter p = [r] := by
    have hall : ∀ u ∈ rows.filter p, u = r := by
      intro u hu
      rw [List.mem_filter] at hu
      exact eq_of_key_eq h hu.1 hr (hone u hu.1 hu.2)
    have hnodup : (rows.filter p).Nodup :=
      (List.Nodup.of_map key h).filter p
    have hmem : r ∈ rows.filter p := List.mem_filter.mpr ⟨hr, hp⟩
    cases hl : rows.filter p with
    | nil =>
      rw [hl] at hmem
      cases hmem
    | cons u rest =>
      rw [hl] at hall hnodup
      have hu := hall u List.mem_cons_self
      cases rest with
      | nil => rw [hu]
      | cons w rest =>
        have hw := hall w (by simp)
        rw [hu, hw] at hnodup
        simp at hnodup
  rw [hfilter]
  rfl

/-- When one row satisfies the `WHERE`, it is the one selected. -/
theorem find?_eq_some_of_unique {rows : List ρ} {p : ρ → Bool} {r : ρ}
    (hr : r ∈ rows) (hp : p r = true)
    (hone : ∀ u ∈ rows, p u = true → u = r) : rows.find? p = some r := by
  cases hf : rows.find? p with
  | none => exact absurd hp (List.find?_eq_none.mp hf r hr)
  | some u =>
    rw [hone u (List.mem_of_find?_eq_some hf) (List.find?_some hf)]

-- ==== the latest row

theorem later_eq_some {time : ρ → Int} {best : Option ρ} {u r : ρ}
    (h : later time best u = some r) : u = r ∨ best = some r := by
  cases best with
  | none =>
    cases h
    exact .inl rfl
  | some b =>
    simp only [later] at h
    split at h
    · cases h
      exact .inl rfl
    · exact .inr h

theorem isSome_later (time : ρ → Int) (best : Option ρ) (u : ρ) :
    (later time best u).isSome = true := by
  cases best with
  | none => rfl
  | some b =>
    simp only [later]
    split <;> rfl

private theorem mem_of_foldl_later {time : ρ → Int} {rows : List ρ}
    {best : Option ρ} {r : ρ} (h : rows.foldl (later time) best = some r) :
    r ∈ rows ∨ best = some r := by
  induction rows generalizing best with
  | nil => exact .inr h
  | cons u rest ih =>
    rcases ih h with hmem | hbest
    · exact .inl (List.mem_cons_of_mem u hmem)
    · rcases later_eq_some hbest with rfl | hbest
      · exact .inl List.mem_cons_self
      · exact .inr hbest

private theorem isSome_foldl_later {time : ρ → Int} {rows : List ρ}
    {best : Option ρ} (h : rows ≠ [] ∨ best.isSome = true) :
    (rows.foldl (later time) best).isSome = true := by
  induction rows generalizing best with
  | nil => simpa using h
  | cons u rest ih => exact ih (.inr (isSome_later time best u))

/-- The latest row is a row that satisfies the `WHERE`. -/
theorem mem_of_latest {time : ρ → Int} {rows : List ρ} {p : ρ → Bool}
    {r : ρ} (h : latest time rows p = some r) : r ∈ rows ∧ p r = true := by
  rcases mem_of_foldl_later h with hmem | hnone
  · exact List.mem_filter.mp hmem
  · cases hnone

theorem latest_eq_none_iff {time : ρ → Int} {rows : List ρ}
    {p : ρ → Bool} :
    latest time rows p = none ↔ ∀ r ∈ rows, p r = false := by
  unfold latest
  constructor
  · intro h r hr
    by_contra hp
    have hmem : r ∈ rows.filter p :=
      List.mem_filter.mpr ⟨hr, by simpa using hp⟩
    have hsome : ((rows.filter p).foldl (later time) none).isSome = true :=
      isSome_foldl_later (.inl (List.ne_nil_of_mem hmem))
    rw [h] at hsome
    cases hsome
  · intro h
    rw [List.filter_eq_nil_iff.mpr fun r hr => by simp [h r hr]]
    rfl

/-- When one row satisfies the `WHERE`, it is the latest one. -/
theorem latest_eq_some_of_unique {time : ρ → Int} {rows : List ρ}
    {p : ρ → Bool} {r : ρ} (hr : r ∈ rows) (hp : p r = true)
    (hone : ∀ u ∈ rows, p u = true → u = r) :
    latest time rows p = some r := by
  cases hl : latest time rows p with
  | none =>
    rw [latest_eq_none_iff.mp hl r hr] at hp
    cases hp
  | some u =>
    obtain ⟨hu, hpu⟩ := mem_of_latest hl
    rw [hone u hu hpu]

end Lib.Sql
