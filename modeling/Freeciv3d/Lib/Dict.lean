/-
Insertion-ordered maps with distinct keys: the `dict` and
`OrderedDict` of the proxy, and an SQL table read through its primary
key. Mathlib's `AList` is not this map: its `insert` moves an
overwritten key to the front, while a Python assignment to a present
key keeps the key's place, and two of the models here (the LRU state
cache, the `ORDER BY port` of the allocator) depend on the place.

# The invariant

A `Dict` is its list of entries plus the proof that no key occurs
twice, so `get?` (the first match) and membership in `entries` agree
(`mem_entries_iff`), and every operation is characterised by what
`get?` answers after it. Client proofs use the `get?_…` lemmas only
and never look at the entry list.
-/
import Mathlib.Data.List.Nodup
import Mathlib.Tactic.Common

namespace Lib

/-- An insertion-ordered map: entries in the order in which their keys
were first assigned, no key twice. -/
structure Dict (κ ν : Type) where
  entries : List (κ × ν)
  nodup : (entries.map Prod.fst).Nodup

namespace Dict

variable {κ ν ω : Type}

@[ext] theorem ext {d e : Dict κ ν} (h : d.entries = e.entries) : d = e := by
  cases d
  cases e
  cases h
  rfl

instance [DecidableEq κ] [DecidableEq ν] : DecidableEq (Dict κ ν) :=
  fun d e => decidable_of_iff (d.entries = e.entries)
    ⟨ext, fun h => h ▸ rfl⟩

def empty : Dict κ ν := ⟨[], by simp⟩

instance : EmptyCollection (Dict κ ν) := ⟨empty⟩

instance : Inhabited (Dict κ ν) := ⟨empty⟩

/-- The keys, in insertion order. -/
def keys (d : Dict κ ν) : List κ := d.entries.map Prod.fst

/-- The values, in insertion order of their keys. -/
def values (d : Dict κ ν) : List ν := d.entries.map Prod.snd

/-- Number of entries. -/
def size (d : Dict κ ν) : Nat := d.entries.length

-- ==== operations that keep every key

/-- Replace each value in place; keys and order are untouched. -/
def mapVals (f : κ → ν → ω) (d : Dict κ ν) : Dict κ ω where
  entries := d.entries.map fun p => (p.1, f p.1 p.2)
  nodup := by simpa [List.map_map, Function.comp_def] using d.nodup

@[simp] theorem size_mapVals (d : Dict κ ν) (f : κ → ν → ω) :
    (d.mapVals f).size = d.size :=
  List.length_map _

/-- Keep the entries that satisfy `p`. -/
def filter (p : κ → ν → Bool) (d : Dict κ ν) : Dict κ ν where
  entries := d.entries.filter fun e => p e.1 e.2
  nodup := d.nodup.sublist (List.filter_sublist.map _)

/-- The values that satisfy `p`. -/
def countVals (d : Dict κ ν) (p : ν → Bool) : Nat := d.values.countP p

theorem countVals_congr (d : Dict κ ν) {p q : ν → Bool}
    (h : ∀ v ∈ d.values, p v = q v) : d.countVals p = d.countVals q :=
  List.countP_congr fun v hv => by rw [h v hv]

theorem countVals_filter (d : Dict κ ν) (p q : ν → Bool) :
    (d.filter fun _ v => q v).countVals p
      = d.countVals fun v => p v && q v := by
  unfold countVals values filter
  rw [List.countP_map, List.countP_map, List.countP_filter]
  rfl

-- ==== by one key

variable [DecidableEq κ]

/-- The value under a key. -/
def get? (d : Dict κ ν) (k : κ) : Option ν := d.entries.lookup k

/-- `k in d`. -/
def contains (d : Dict κ ν) (k : κ) : Bool := (d.get? k).isSome

/-- `d.pop(k, None)`: the map without the key. -/
def erase (d : Dict κ ν) (k : κ) : Dict κ ν :=
  d.filter fun k' _ => !decide (k' = k)

/-- Assignment on the entry list: in place when the key is there, at
the end when it is new. -/
def setEntry (k : κ) (v : ν) : List (κ × ν) → List (κ × ν)
  | [] => [(k, v)]
  | e :: rest =>
    if e.1 = k then (k, v) :: rest else e :: setEntry k v rest

/-- Assignment touches no key but `k`. -/
private theorem setEntry_keys (k : κ) (v : ν) (l : List (κ × ν)) :
    (setEntry k v l).map Prod.fst
      = if k ∈ l.map Prod.fst then l.map Prod.fst
        else l.map Prod.fst ++ [k] := by
  induction l with
  | nil => simp [setEntry]
  | cons e rest ih =>
    by_cases he : e.1 = k
    · simp [setEntry, he]
    · have hk : k ≠ e.1 := fun h => he h.symm
      simp only [setEntry, he, if_false, List.map_cons, ih,
        List.mem_cons, hk, false_or]
      split <;> simp

/-- `d[k] = v`. -/
def set (d : Dict κ ν) (k : κ) (v : ν) : Dict κ ν where
  entries := setEntry k v d.entries
  nodup := by
    rw [setEntry_keys]
    have hd := d.nodup
    split
    case isTrue => exact hd
    case isFalse hk =>
      rw [List.nodup_append]
      refine ⟨hd, by simp, ?_⟩
      intro a ha b hb hab
      simp only [List.mem_singleton] at hb
      exact hk (hb ▸ hab ▸ ha)

/-- `d.move_to_end(k)`: an absent key changes nothing. -/
def moveToEnd (d : Dict κ ν) (k : κ) : Dict κ ν :=
  match d.get? k with
  | none => d
  | some v => (d.erase k).set k v

/-- `d.update(o)`: assign every entry of `o`, in its order. -/
def update (d o : Dict κ ν) : Dict κ ν :=
  o.entries.foldl (fun acc e => acc.set e.1 e.2) d

/-- Assign the entries of `o` whose keys are not there yet, in its
order. -/
def addMissing (d o : Dict κ ν) : Dict κ ν :=
  o.entries.foldl
    (fun acc e => if acc.contains e.1 then acc else acc.set e.1 e.2) d

/-- A dict comprehension: assign a list of pairs to an empty map. -/
def ofList (l : List (κ × ν)) : Dict κ ν :=
  l.foldl (fun acc e => acc.set e.1 e.2) empty

/-- Change the value under one key in place; an absent key changes
nothing. -/
def modify (d : Dict κ ν) (k : κ) (f : ν → ν) : Dict κ ν :=
  d.mapVals fun k' v => if k' = k then f v else v

/-- `d.popitem(last=False)`: the map without its oldest entry. -/
def popFirst (d : Dict κ ν) : Dict κ ν where
  entries := d.entries.tail
  nodup := by
    have h := d.nodup
    rw [List.map_tail]
    exact h.sublist (List.tail_sublist _)

-- ==== what get? says

theorem get?_empty (k : κ) : (∅ : Dict κ ν).get? k = none := rfl

/-- `List.lookup` by decidable equality. -/
theorem lookup_cons_ite (e : κ × ν) (l : List (κ × ν)) (k : κ) :
    (e :: l).lookup k = if k = e.1 then some e.2 else l.lookup k := by
  obtain ⟨k₀, v₀⟩ := e
  rw [List.lookup_cons]
  by_cases h : k = k₀
  · simp [h]
  · rw [beq_eq_false_iff_ne.mpr h]
    simp [h]

/-- Distinct keys make the first match the only one. -/
private theorem lookup_eq_some_iff_mem {l : List (κ × ν)}
    (hl : (l.map Prod.fst).Nodup) {k : κ} {v : ν} :
    l.lookup k = some v ↔ (k, v) ∈ l := by
  induction l with
  | nil => simp
  | cons e rest ih =>
    obtain ⟨k₀, v₀⟩ := e
    simp only [List.map_cons, List.nodup_cons] at hl
    rw [lookup_cons_ite]
    by_cases hk : k = k₀
    · subst hk
      have hnot : (k, v) ∉ rest :=
        fun h => hl.1 (List.mem_map.mpr ⟨(k, v), h, rfl⟩)
      simp [hnot, eq_comm]
    · simp [hk, ih hl.2]

/-- Looking a key up and finding its entry are one thing. -/
theorem mem_entries_iff {d : Dict κ ν} {k : κ} {v : ν} :
    (k, v) ∈ d.entries ↔ d.get? k = some v :=
  (lookup_eq_some_iff_mem d.nodup).symm

theorem mem_keys_iff {d : Dict κ ν} {k : κ} :
    k ∈ d.keys ↔ ∃ v, d.get? k = some v := by
  simp only [keys, List.mem_map, Prod.exists, exists_and_right,
    exists_eq_right, mem_entries_iff]

theorem mem_values_iff {d : Dict κ ν} {v : ν} :
    v ∈ d.values ↔ ∃ k, d.get? k = some v := by
  simp only [values, List.mem_map, Prod.exists, exists_eq_right,
    mem_entries_iff]

theorem contains_iff {d : Dict κ ν} {k : κ} :
    d.contains k = true ↔ ∃ v, d.get? k = some v :=
  Option.isSome_iff_exists

theorem lookup_setEntry (k k' : κ) (v : ν) (l : List (κ × ν)) :
    (setEntry k v l).lookup k'
      = if k' = k then some v else l.lookup k' := by
  induction l with
  | nil => simp [setEntry, lookup_cons_ite]
  | cons e rest ih =>
    obtain ⟨k₀, v₀⟩ := e
    by_cases he : k₀ = k
    · subst he
      by_cases h : k' = k₀ <;> simp [setEntry, lookup_cons_ite, h]
    · by_cases h : k' = k₀
      · subst h
        simp [setEntry, he]
      · simp [setEntry, lookup_cons_ite, he, h, ih]

theorem get?_set (d : Dict κ ν) (k k' : κ) (v : ν) :
    (d.set k v).get? k' = if k' = k then some v else d.get? k' :=
  lookup_setEntry k k' v d.entries

@[simp] theorem get?_set_self (d : Dict κ ν) (k : κ) (v : ν) :
    (d.set k v).get? k = some v := by
  simp [get?_set]

theorem get?_set_of_ne (d : Dict κ ν) {k k' : κ} (v : ν) (h : k' ≠ k) :
    (d.set k v).get? k' = d.get? k' := by
  simp [get?_set, h]

theorem get?_filter (d : Dict κ ν) (p : κ → ν → Bool) (k : κ) :
    (d.filter p).get? k = (d.get? k).filter (p k) := by
  rw [Option.ext_iff]
  intro v
  rw [← mem_entries_iff, Option.filter_eq_some_iff, ← mem_entries_iff]
  simp [filter]

theorem get?_erase (d : Dict κ ν) (k k' : κ) :
    (d.erase k).get? k' = if k' = k then none else d.get? k' := by
  rw [erase, get?_filter]
  by_cases h : k' = k
  · simp [h]
  · cases d.get? k' <;> simp [h]

@[simp] theorem get?_erase_self (d : Dict κ ν) (k : κ) :
    (d.erase k).get? k = none := by
  simp [get?_erase]

theorem get?_erase_of_ne (d : Dict κ ν) {k k' : κ} (h : k' ≠ k) :
    (d.erase k).get? k' = d.get? k' := by
  simp [get?_erase, h]

theorem get?_mapVals (d : Dict κ ν) (f : κ → ν → ω) (k : κ) :
    (d.mapVals f).get? k = (d.get? k).map (f k) := by
  rw [Option.ext_iff]
  intro w
  rw [← mem_entries_iff]
  simp only [mapVals, List.mem_map, Prod.mk.injEq, Prod.exists,
    Option.map_eq_some_iff, mem_entries_iff]
  constructor
  · intro hp
    rcases hp with ⟨k', v, hv, rfl, rfl⟩
    exact ⟨v, hv, rfl⟩
  · intro hp
    rcases hp with ⟨v, hv, rfl⟩
    exact ⟨k, v, hv, rfl, rfl⟩

theorem get?_modify (d : Dict κ ν) (k k' : κ) (f : ν → ν) :
    (d.modify k f).get? k'
      = if k' = k then (d.get? k').map f else d.get? k' := by
  rw [modify, get?_mapVals]
  by_cases h : k' = k
  · simp [h]
  · simp only [h, if_false]
    cases d.get? k' <;> rfl

/-- An entry after `modify` is a modified one, or another key's. -/
theorem of_get?_modify {d : Dict κ ν} {k k' : κ} {f : ν → ν} {v : ν}
    (h : (d.modify k f).get? k' = some v) :
    (k' = k ∧ ∃ u, d.get? k' = some u ∧ f u = v)
      ∨ (k' ≠ k ∧ d.get? k' = some v) := by
  rw [get?_modify] at h
  split at h
  case isTrue hk => exact .inl ⟨hk, Option.map_eq_some_iff.mp h⟩
  case isFalse hk => exact .inr ⟨hk, h⟩

theorem get?_moveToEnd (d : Dict κ ν) (k k' : κ) :
    (d.moveToEnd k).get? k' = d.get? k' := by
  unfold moveToEnd
  cases hk : d.get? k with
  | none => rfl
  | some v =>
    by_cases h : k' = k
    · subst h
      simp [hk]
    · simp [get?_set_of_ne _ v h, get?_erase_of_ne _ h]

/-- Nothing is written over what `o` does not mention. -/
theorem get?_update (d o : Dict κ ν) (k : κ) :
    (d.update o).get? k = (o.get? k).or (d.get? k) := by
  obtain ⟨l, hl⟩ := o
  show (l.foldl _ d).get? k = (l.lookup k).or (d.get? k)
  induction l generalizing d with
  | nil => rfl
  | cons e rest ih =>
    simp only [List.map_cons, List.nodup_cons] at hl
    rw [List.foldl_cons, ih _ hl.2, lookup_cons_ite, get?_set]
    by_cases h : k = e.1
    · subst h
      have hnone : rest.lookup e.1 = none := by
        cases hr : rest.lookup e.1 with
        | none => rfl
        | some v =>
          have hmem := (lookup_eq_some_iff_mem hl.2).mp hr
          exact absurd (List.mem_map.mpr ⟨_, hmem, rfl⟩) hl.1
      simp [hnone]
    · simp [h]

theorem get?_addMissing (d o : Dict κ ν) (k : κ) :
    (d.addMissing o).get? k = (d.get? k).or (o.get? k) := by
  obtain ⟨l, hl⟩ := o
  show (l.foldl _ d).get? k = (d.get? k).or (l.lookup k)
  induction l generalizing d with
  | nil => simp
  | cons e rest ih =>
    simp only [List.map_cons, List.nodup_cons] at hl
    rw [List.foldl_cons, ih _ hl.2, lookup_cons_ite]
    by_cases hc : d.contains e.1 = true
    · rw [if_pos hc]
      by_cases h : k = e.1
      · obtain ⟨v, hv⟩ := contains_iff.mp hc
        rw [h, hv]
        rfl
      · rw [if_neg h]
    · rw [if_neg hc, get?_set]
      by_cases h : k = e.1
      · have hnone : d.get? e.1 = none := by simpa [contains] using hc
        simp [h, hnone]
      · rw [if_neg h, if_neg h]

theorem map_find? (l : List (κ × ν)) (k : κ) :
    (l.find? fun e => e.1 = k).map Prod.snd = l.lookup k := by
  induction l with
  | nil => rfl
  | cons e rest ih =>
    rw [lookup_cons_ite]
    by_cases hk : e.1 = k
    · rw [List.find?_cons_of_pos (by simp [hk]), if_pos hk.symm]
      rfl
    · rw [List.find?_cons_of_neg (by simp [hk]), ih,
        if_neg fun h => hk h.symm]

/-- A list of assignments leaves under each key what was assigned to it
last. -/
theorem get?_foldl_set (l : List (κ × ν)) (d : Dict κ ν) (k : κ) :
    (l.foldl (fun acc e => acc.set e.1 e.2) d).get? k
      = ((l.reverse.find? fun e => e.1 = k).map Prod.snd).or
        (d.get? k) := by
  rw [map_find?]
  induction l generalizing d with
  | nil => rfl
  | cons e rest ih =>
    have hlast : [e].lookup k = if k = e.1 then some e.2 else none := by
      rw [lookup_cons_ite, List.lookup_nil]
    rw [List.foldl_cons, ih, List.reverse_cons, List.lookup_append,
      hlast, Option.or_assoc, get?_set]
    split <;> rfl

theorem get?_ofList (l : List (κ × ν)) (k : κ) :
    (ofList l).get? k
      = (l.reverse.find? fun e => e.1 = k).map Prod.snd :=
  (get?_foldl_set l empty k).trans Option.or_none

/-- The order of the entries does not matter for a look-up. -/
theorem map_find?_reverse_entries (d : Dict κ ν) (k : κ) :
    (d.entries.reverse.find? fun e => e.1 = k).map Prod.snd
      = d.get? k := by
  have hnodup : (d.entries.reverse.map Prod.fst).Nodup := by
    rw [List.map_reverse, List.nodup_reverse]
    exact d.nodup
  rw [map_find?]
  refine Option.ext fun v => ?_
  rw [lookup_eq_some_iff_mem hnodup, List.mem_reverse, mem_entries_iff]

/-- A map rewritten entry by entry, under other keys. -/
theorem get?_ofList_map {κ' ω : Type} [DecidableEq κ'] (d : Dict κ ν)
    {key : κ → κ'} (hkey : ∀ {j k}, key j = key k → j = k) (f : ν → ω)
    (k : κ) :
    (ofList (d.entries.map fun e => (key e.1, f e.2))).get? (key k)
      = (d.get? k).map f := by
  have hsame : ((fun e => decide (e.1 = key k)) ∘ fun e : κ × ν =>
      (key e.1, f e.2)) = fun e => decide (e.1 = k) := by
    funext e
    exact decide_eq_decide.mpr ⟨fun h => hkey h, congrArg key⟩
  rw [get?_ofList, ← List.map_reverse, List.find?_map, hsame,
    ← map_find?_reverse_entries, Option.map_map, Option.map_map]
  rfl

/-- The first entry of one of two keys is the first of the one or of the
other. -/
theorem map_find?_or (l : List (κ × ν)) (j k : κ) :
    (l.find? fun e => e.1 = j ∨ e.1 = k).map Prod.snd
        = ((l.find? fun e => e.1 = j).map Prod.snd).or
          ((l.find? fun e => e.1 = k).map Prod.snd)
      ∨ (l.find? fun e => e.1 = j ∨ e.1 = k).map Prod.snd
        = ((l.find? fun e => e.1 = k).map Prod.snd).or
          ((l.find? fun e => e.1 = j).map Prod.snd) := by
  induction l with
  | nil => exact .inl rfl
  | cons e rest ih =>
    by_cases hj : e.1 = j
    · refine .inl ?_
      rw [List.find?_cons_of_pos (by simp [hj]),
        List.find?_cons_of_pos (by simp [hj])]
      rfl
    · by_cases hk : e.1 = k
      · refine .inr ?_
        rw [List.find?_cons_of_pos (by simp [hk]),
          List.find?_cons_of_pos (by simp [hk])]
        rfl
      · rw [List.find?_cons_of_neg (by simp [hj, hk]),
          List.find?_cons_of_neg (by simp [hj]),
          List.find?_cons_of_neg (by simp [hk])]
        exact ih

/-- A value of a comprehension comes from one of its pairs. -/
theorem mem_of_get?_ofList {l : List (κ × ν)} {k : κ} {v : ν}
    (h : (ofList l).get? k = some v) : (k, v) ∈ l := by
  rw [get?_ofList] at h
  obtain ⟨⟨k', v'⟩, hfind, hv⟩ := Option.map_eq_some_iff.mp h
  have hk : k' = k := by simpa using List.find?_some hfind
  have hmem := List.mem_reverse.mp (List.mem_of_find?_eq_some hfind)
  cases hk
  cases hv
  exact hmem

/-- An assignment that a selection does not see: it selects the same for
the key as before. -/
theorem filterMap_set {ω : Type} {d : Dict κ ν} {k : κ} {v : ν}
    {select : κ × ν → Option ω}
    (h : (d.get? k).bind (fun old => select (k, old)) = select (k, v)) :
    (d.set k v).entries.filterMap select = d.entries.filterMap select := by
  have hlist : ∀ l : List (κ × ν),
      (l.lookup k).bind (fun old => select (k, old)) = select (k, v) →
      (setEntry k v l).filterMap select = l.filterMap select := by
    intro l
    induction l with
    | nil =>
      intro hl
      exact List.filterMap_cons_none hl.symm
    | cons e rest ih =>
      intro hl
      rw [lookup_cons_ite] at hl
      by_cases hk : e.1 = k
      · rw [if_pos hk.symm] at hl
        have hsame : select e = select (k, v) := by
          rw [← hl, ← hk]
          rfl
        rw [setEntry, if_pos hk, List.filterMap_cons, List.filterMap_cons,
          hsame]
      · rw [if_neg fun h => hk h.symm] at hl
        rw [setEntry, if_neg hk, List.filterMap_cons, List.filterMap_cons,
          ih hl]
  exact hlist d.entries h

-- ==== where an entry comes

/-- A new key comes last. -/
theorem entries_set_of_new {d : Dict κ ν} {k : κ} (h : d.get? k = none)
    (v : ν) : (d.set k v).entries = d.entries ++ [(k, v)] := by
  have hlist : ∀ l : List (κ × ν), l.lookup k = none →
      setEntry k v l = l ++ [(k, v)] := by
    intro l
    induction l with
    | nil => exact fun _ => rfl
    | cons e rest ih =>
      intro hl
      rw [lookup_cons_ite] at hl
      split at hl
      case isTrue => cases hl
      case isFalse hk =>
        rw [setEntry, if_neg fun h => hk h.symm, ih hl]
        rfl
  exact hlist d.entries h

theorem erase_set_self (d : Dict κ ν) (k : κ) (v : ν) :
    (d.set k v).erase k = d.erase k := by
  have hlist : ∀ l : List (κ × ν),
      (setEntry k v l).filter (fun e => !decide (e.1 = k))
        = l.filter fun e => !decide (e.1 = k) := by
    intro l
    induction l with
    | nil => simp [setEntry]
    | cons e rest ih =>
      by_cases hk : e.1 = k
      · simp [setEntry, hk]
      · simp [setEntry, hk, ih]
  exact Dict.ext (hlist d.entries)

/-- Moved to the end, an entry comes after all others. -/
theorem entries_moveToEnd {d : Dict κ ν} {k : κ} {v : ν}
    (h : d.get? k = some v) :
    (d.moveToEnd k).entries = (d.erase k).entries ++ [(k, v)] := by
  unfold moveToEnd
  rw [h]
  exact entries_set_of_new (get?_erase_self d k) v

/-- Assigned and moved to the end, the entry is new there. -/
theorem entries_set_moveToEnd (d : Dict κ ν) (k : κ) (v : ν) :
    ((d.set k v).moveToEnd k).entries = (d.erase k).entries ++ [(k, v)] := by
  rw [entries_moveToEnd (get?_set_self d k v), erase_set_self]

theorem ne_of_mem_erase {d : Dict κ ν} {k : κ} {e : κ × ν}
    (h : e ∈ (d.erase k).entries) : e.1 ≠ k := by
  intro hk
  have hget := mem_entries_iff.mp h
  rw [hk, get?_erase_self] at hget
  cases hget

/-- An entry stands between the others. -/
theorem entries_split {d : Dict κ ν} {k : κ} {v : ν}
    (h : d.get? k = some v) :
    ∃ before after, d.entries = before ++ (k, v) :: after
      ∧ (d.erase k).entries = before ++ after := by
  obtain ⟨before, after, hsplit⟩ :=
    List.append_of_mem (mem_entries_iff.mpr h)
  have hnodup := d.nodup
  rw [hsplit, List.map_append, List.map_cons, List.nodup_append,
    List.nodup_cons] at hnodup
  obtain ⟨-, ⟨hafter, -⟩, hbefore⟩ := hnodup
  refine ⟨before, after, hsplit, ?_⟩
  show d.entries.filter (fun e => !decide (e.1 = k)) = before ++ after
  rw [hsplit, List.filter_append, List.filter_cons_of_neg (by simp)]
  congr 1
  · refine List.filter_eq_self.mpr fun e he => ?_
    have hne := hbefore e.1 (List.mem_map_of_mem he) k List.mem_cons_self
    simpa using hne
  · refine List.filter_eq_self.mpr fun e he => ?_
    have hne : e.1 ≠ k := by
      intro hk
      have hmem : e.1 ∈ after.map Prod.fst := List.mem_map_of_mem he
      rw [hk] at hmem
      exact hafter hmem
    simpa using hne

theorem erase_sublist (d : Dict κ ν) (k : κ) :
    (d.erase k).entries.Sublist d.entries := List.filter_sublist

-- ==== mapped values and keys

-- ==== the size

@[simp] theorem size_modify (d : Dict κ ν) (k : κ) (f : ν → ν) :
    (d.modify k f).size = d.size :=
  size_mapVals d _

/-- Without an absent key the map is as it was. -/
theorem erase_of_absent {d : Dict κ ν} {k : κ} (h : d.get? k = none) :
    d.erase k = d := by
  refine ext (List.filter_eq_self.mpr fun e he => ?_)
  have hne : e.1 ≠ k := by
    intro hk
    have hget := mem_entries_iff.mp he
    rw [hk, h] at hget
    cases hget
  simpa using hne

/-- One entry less, if the key was there. -/
theorem size_erase (d : Dict κ ν) (k : κ) :
    (d.erase k).size + (if d.contains k then 1 else 0) = d.size := by
  unfold contains size
  cases hget : d.get? k with
  | none =>
    rw [erase_of_absent hget]
    rfl
  | some v =>
    obtain ⟨before, after, hsplit, herase⟩ := entries_split hget
    rw [herase, hsplit]
    simp
    omega

/-- One entry more, if the key was not there. -/
theorem size_set (d : Dict κ ν) (k : κ) (v : ν) :
    (d.set k v).size = d.size + if d.contains k then 0 else 1 := by
  have hkeys := congrArg List.length (setEntry_keys k v d.entries)
  have hiff : k ∈ d.entries.map Prod.fst ↔ d.contains k = true :=
    mem_keys_iff.trans contains_iff.symm
  rw [List.length_map] at hkeys
  show (setEntry k v d.entries).length = d.entries.length + _
  rw [hkeys]
  by_cases hk : d.contains k = true
  · rw [if_pos (hiff.mpr hk), if_pos hk, List.length_map]
    rfl
  · rw [if_neg fun h => hk (hiff.mp h), if_neg hk, List.length_append,
      List.length_map]
    rfl

-- ==== counting values

theorem countVals_erase {d : Dict κ ν} {k : κ} {v : ν}
    (h : d.get? k = some v) (p : ν → Bool) :
    (d.erase k).countVals p + (if p v then 1 else 0) = d.countVals p := by
  obtain ⟨before, after, hsplit, herase⟩ := entries_split h
  unfold countVals values
  rw [herase, hsplit]
  simp only [List.map_append, List.map_cons, List.countP_append,
    List.countP_cons]
  omega

theorem countVals_set_of_new {d : Dict κ ν} {k : κ}
    (h : d.contains k = false) (v : ν) (p : ν → Bool) :
    (d.set k v).countVals p
      = d.countVals p + if p v then 1 else 0 := by
  have hnone : d.get? k = none := by simpa [contains] using h
  unfold countVals values
  rw [entries_set_of_new hnone, List.map_append, List.countP_append]
  simp [List.countP_cons]

-- ==== when an operation is a no-op

/-- Writing back what is there changes nothing, the order included. -/
theorem set_eq_self {d : Dict κ ν} {k : κ} {v : ν}
    (h : d.get? k = some v) : d.set k v = d := by
  apply ext
  obtain ⟨l, hl⟩ := d
  have hmem := mem_entries_iff.mpr h
  show setEntry k v l = l
  clear h
  induction l with
  | nil => simp at hmem
  | cons e rest ih =>
    simp only [List.map_cons, List.nodup_cons] at hl
    rcases List.mem_cons.mp hmem with rfl | hrest
    · simp [setEntry]
    · have hne : e.1 ≠ k := by
        intro he
        exact hl.1 (he ▸ List.mem_map.mpr ⟨(k, v), hrest, rfl⟩)
      simp only [setEntry, hne, if_false]
      rw [ih hl.2 hrest]

/-- Assigning a list of entries the map already has changes nothing. -/
theorem foldl_set_eq_self {d : Dict κ ν} {l : List (κ × ν)}
    (h : ∀ e ∈ l, d.get? e.1 = some e.2) :
    l.foldl (fun acc e => acc.set e.1 e.2) d = d := by
  induction l with
  | nil => rfl
  | cons e rest ih =>
    rw [List.foldl_cons, set_eq_self (h e (List.mem_cons_self ..))]
    exact ih fun e' he' => h e' (List.mem_cons_of_mem _ he')

/-- `update` is the identity exactly when every assigned entry is
there already. -/
theorem update_eq_self_iff {d o : Dict κ ν} :
    d.update o = d ↔ ∀ k v, o.get? k = some v → d.get? k = some v := by
  constructor
  · intro h k v hk
    have := get?_update d o k
    rw [h, hk] at this
    exact this
  · intro h
    exact foldl_set_eq_self fun e he => h e.1 e.2 (mem_entries_iff.mp he)

theorem update_update (d o : Dict κ ν) :
    (d.update o).update o = d.update o := by
  refine update_eq_self_iff.mpr fun k v hk => ?_
  rw [get?_update, hk]
  rfl

/-- `addMissing` is the identity exactly when no key is missing. -/
theorem addMissing_eq_self_iff {d o : Dict κ ν} :
    d.addMissing o = d ↔ ∀ k ∈ o.keys, k ∈ d.keys := by
  constructor
  · intro h k hk
    obtain ⟨v, hv⟩ := mem_keys_iff.mp hk
    have hget := get?_addMissing d o k
    rw [h, hv] at hget
    cases hd : d.get? k with
    | none =>
      rw [hd] at hget
      cases hget
    | some w => exact mem_keys_iff.mpr ⟨w, hd⟩
  · intro h
    have hall : ∀ e ∈ o.entries, d.contains e.1 = true := fun e he =>
      contains_iff.mpr (mem_keys_iff.mp (h _ (List.mem_map_of_mem he)))
    unfold addMissing
    generalize o.entries = l at hall
    induction l with
    | nil => rfl
    | cons e rest ih =>
      rw [List.foldl_cons, if_pos (hall e (List.mem_cons_self ..))]
      exact ih fun e' he' => hall e' (List.mem_cons_of_mem _ he')

/-- Adding to a map keeps what is there. -/
theorem get?_foldl_addMissing {d : Dict κ ν} {k : κ} {v : ν}
    (h : d.get? k = some v) (l : List (Dict κ ν)) :
    (l.foldl addMissing d).get? k = some v := by
  induction l generalizing d with
  | nil => exact h
  | cons o rest ih =>
    apply ih
    rw [get?_addMissing, h]
    rfl

theorem mem_keys_foldl_addMissing {d : Dict κ ν} {l : List (Dict κ ν)}
    {k : κ} :
    k ∈ (l.foldl addMissing d).keys
      ↔ k ∈ d.keys ∨ ∃ o ∈ l, k ∈ o.keys := by
  induction l generalizing d with
  | nil => simp
  | cons o rest ih =>
    have hkeys : k ∈ (d.addMissing o).keys ↔ k ∈ d.keys ∨ k ∈ o.keys := by
      simp only [mem_keys_iff, get?_addMissing]
      cases d.get? k <;> simp
    rw [List.foldl_cons, ih, hkeys, or_assoc]
    simp

/-- Adding a list of maps is the identity exactly when no key of any
of them is missing. -/
theorem foldl_addMissing_eq_self_iff {d : Dict κ ν}
    {l : List (Dict κ ν)} :
    l.foldl addMissing d = d ↔ ∀ o ∈ l, ∀ k ∈ o.keys, k ∈ d.keys := by
  constructor
  · intro h o ho k hk
    have hmem : k ∈ (l.foldl addMissing d).keys :=
      mem_keys_foldl_addMissing.mpr (.inr ⟨o, ho, hk⟩)
    rw [h] at hmem
    exact hmem
  · intro h
    induction l with
    | nil => rfl
    | cons o rest ih =>
      have ho := addMissing_eq_self_iff.mpr (h o (List.mem_cons_self ..))
      rw [List.foldl_cons, ho]
      exact ih fun o' ho' => h o' (List.mem_cons_of_mem _ ho')

end Dict

end Lib
