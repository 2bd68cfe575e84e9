/-
Deltas of dictionaries: what changed from one map to another, as a list
of changes that is applied to the first.

# The order

The ids are gone through as sets, in whatever order a set has
(`SetOrder`). A change touches its own id, and no id is gone through
twice, so what is under an id after all of them is what its own change
made of what was there (`get?_foldl_own`).

# What is compared

A delta does not carry whole values but the fields that changed.
`Tracked` says what of a value is seen, how two values are compared
and how a value is patched, with the law that a patched value is seen
as the new one.
-/
import Freeciv3d.Lib.Dict

namespace Lib

structure SetOrder (κ : Type) where
  iter : List κ → List κ
  perm : ∀ l, (iter l).Perm l

/-- As they were put in. -/
def SetOrder.inserted (κ : Type) : SetOrder κ := ⟨id, fun _ => .refl _⟩

/-- A change, with its id. -/
inductive DictChange (κ U F : Type) where
  | modified (id : κ) (fields : F)
  | added (id : κ) (type : String) (data : U)
  | removed (id : κ) (type : String)

/-- What is compared of a value, and how it is patched. -/
structure Tracked (U F S : Type) where
  seen : U → S
  /-- The fields that changed, if any. -/
  diff : U → U → Option F
  patch : F → U → U
  seen_of_none : ∀ {u v}, diff u v = none → seen u = seen v
  seen_patch : ∀ {u v f}, diff u v = some f → seen (patch f u) = seen v
  diff_self : ∀ u, diff u u = none

namespace DictChange

variable {κ U F S : Type} [DecidableEq κ]

def id : DictChange κ U F → κ
  | modified id _ => id
  | added id _ _ => id
  | removed id _ => id

/-- What a change makes of what is under its id. -/
def effect (patch : F → U → U) : DictChange κ U F → Option U → Option U
  | modified _ fields, u => u.map (patch fields)
  | added _ _ data, _ => some data
  | removed _ _, _ => none

def apply (patch : F → U → U) (d : Dict κ U) : DictChange κ U F → Dict κ U
  | modified id fields => d.modify id (patch fields)
  | added id _ data => d.set id data
  | removed id _ => d.erase id

-- ==== the changes between two maps

variable (o : SetOrder κ) (diff : U → U → Option F) (prev curr : Dict κ U)

/-- The change of an id that is in both. -/
def modification (id : κ) : Option (DictChange κ U F) := do
  let u ← prev.get? id
  let v ← curr.get? id
  let fields ← diff u v
  return .modified id fields

def kept : List κ := o.iter (prev.keys.filter curr.contains)

def fresh : List κ := o.iter (curr.keys.filter fun id => !prev.contains id)

def gone : List κ := o.iter (prev.keys.filter fun id => !curr.contains id)

/-- The changes of the ids in both. -/
def modifications : List (DictChange κ U F) :=
  (kept o prev curr).filterMap (modification diff prev curr)

/-- The ids that are new, with their data. -/
def additions (type : String) : List (DictChange κ U F) :=
  (fresh o prev curr).filterMap fun id =>
    (curr.get? id).map (.added id type)

/-- The ids that are gone. -/
def removals (type : String) : List (DictChange κ U F) :=
  (gone o prev curr).map fun id => .removed id type

-- ==== what applying them does

section Applied

variable {o : SetOrder κ} {prev curr : Dict κ U}

theorem mem_kept {k : κ} : k ∈ kept o prev curr
    ↔ (∃ u, prev.get? k = some u) ∧ ∃ v, curr.get? k = some v := by
  rw [kept, (o.perm _).mem_iff, List.mem_filter, Dict.mem_keys_iff,
    Dict.contains_iff]

theorem not_contains_iff {d : Dict κ U} {k : κ} :
    (!d.contains k) = true ↔ d.get? k = none := by
  rw [Dict.contains]
  cases d.get? k <;> simp

theorem mem_fresh {k : κ} : k ∈ fresh o prev curr
    ↔ (∃ v, curr.get? k = some v) ∧ prev.get? k = none := by
  rw [fresh, (o.perm _).mem_iff, List.mem_filter, Dict.mem_keys_iff,
    not_contains_iff]

theorem mem_gone {k : κ} : k ∈ gone o prev curr
    ↔ (∃ u, prev.get? k = some u) ∧ curr.get? k = none := by
  rw [gone, (o.perm _).mem_iff, List.mem_filter, Dict.mem_keys_iff,
    not_contains_iff]

omit [DecidableEq κ] in
theorem nodup_iter (o : SetOrder κ) {d : Dict κ U} (p : κ → Bool) :
    (o.iter (d.keys.filter p)).Nodup :=
  (o.perm _).nodup_iff.mpr (d.nodup.filter p)

variable (patch : F → U → U)

/-- A change touches its own id only. -/
theorem get?_apply (d : Dict κ U) (c : DictChange κ U F) (k : κ) :
    (apply patch d c).get? k
      = if k = c.id then c.effect patch (d.get? k) else d.get? k := by
  cases c with
  | modified id fields => exact Dict.get?_modify ..
  | added id type data => exact Dict.get?_set ..
  | removed id type => exact Dict.get?_erase ..

/-- No id comes twice, so each is left as its own change makes it. -/
theorem get?_foldl_own {own : κ → Option (DictChange κ U F)}
    (hown : ∀ i c, own i = some c → c.id = i) {l : List κ} (hl : l.Nodup)
    (d : Dict κ U) (k : κ) :
    ((l.filterMap own).foldl (apply patch) d).get? k
      = if k ∈ l then (own k).elim (d.get? k) fun c =>
          c.effect patch (d.get? k)
        else d.get? k := by
  induction l generalizing d with
  | nil => rfl
  | cons i l ih =>
    obtain ⟨hi, hrest⟩ := List.nodup_cons.mp hl
    have hmem : k ∈ i :: l ↔ k = i ∨ k ∈ l := List.mem_cons
    cases hc : own i with
    | none =>
      rw [List.filterMap_cons_none hc, ih hrest]
      by_cases hk : k = i
      · subst hk
        rw [if_neg hi, if_pos List.mem_cons_self, hc]
        rfl
      · simp only [hmem, hk, false_or]
    | some c =>
      have hid := hown i c hc
      rw [List.filterMap_cons_some hc, List.foldl_cons, ih hrest,
        get?_apply, hid]
      by_cases hk : k = i
      · subst hk
        rw [if_neg hi, if_pos rfl, if_pos List.mem_cons_self, hc]
        rfl
      · simp only [hmem, hk, false_or, if_false]

theorem id_modification {i : κ} {c : DictChange κ U F}
    (h : modification diff prev curr i = some c) : c.id = i := by
  simp only [modification, Option.bind_eq_bind, Option.bind_eq_some_iff,
    Option.pure_def, Option.some_inj] at h
  obtain ⟨u, -, v, -, fields, -, rfl⟩ := h
  rfl

theorem get?_modifications (d : Dict κ U) (k : κ) :
    ((modifications o diff prev curr).foldl (apply patch) d).get? k
      = if k ∈ kept o prev curr then
          (modification diff prev curr k).elim (d.get? k) fun c =>
            c.effect patch (d.get? k)
        else d.get? k :=
  get?_foldl_own patch (fun _ _ => id_modification diff) (nodup_iter o _) d k

theorem get?_additions (d : Dict κ U) (type : String) (k : κ) :
    ((additions o prev curr type).foldl (apply patch) d).get? k
      = if k ∈ fresh o prev curr then curr.get? k else d.get? k := by
  have hown : ∀ i (c : DictChange κ U F),
      (curr.get? i).map (added i type) = some c → c.id = i := by
    intro i c hc
    obtain ⟨v, -, rfl⟩ := Option.map_eq_some_iff.mp hc
    rfl
  refine (get?_foldl_own patch hown (nodup_iter o _) d k).trans ?_
  refine ite_congr rfl (fun hk => ?_) fun _ => rfl
  obtain ⟨⟨v, hv⟩, -⟩ := mem_fresh.mp hk
  rw [hv]
  rfl

theorem get?_removals (d : Dict κ U) (type : String) (k : κ) :
    ((removals o prev curr type).foldl (apply patch) d).get? k
      = if k ∈ gone o prev curr then none else d.get? k := by
  have hown : ∀ i (c : DictChange κ U F),
      some (removed i type) = some c → c.id = i := by
    intro i c hc
    cases hc
    rfl
  rw [removals, ← List.filterMap_eq_map]
  exact get?_foldl_own patch hown (nodup_iter o _) d k

variable (T : Tracked U F S)

/-- What is in both is seen as it is now, and what is new is there; an id
that is gone keeps what it had. -/
theorem seen_additions (o : SetOrder κ) (prev curr : Dict κ U)
    (type : String) (k : κ) :
    (((modifications o T.diff prev curr
        ++ additions o prev curr type).foldl (apply T.patch)
        prev).get? k).map T.seen
      = ((curr.get? k).or (prev.get? k)).map T.seen := by
  rw [List.foldl_append, get?_additions, get?_modifications]
  cases hu : prev.get? k with
  | none =>
    have hkept : k ∉ kept o prev curr := by simp [mem_kept, hu]
    rw [if_neg hkept, Option.or_none]
    cases hv : curr.get? k with
    | none => rw [ite_self]
    | some v => rw [if_pos (mem_fresh.mpr ⟨⟨v, hv⟩, hu⟩)]
  | some u =>
    have hfresh : k ∉ fresh o prev curr := by simp [mem_fresh, hu]
    rw [if_neg hfresh]
    cases hv : curr.get? k with
    | none =>
      have hkept : k ∉ kept o prev curr := by simp [mem_kept, hv]
      rw [if_neg hkept]
      rfl
    | some v =>
      have hmodification : modification T.diff prev curr k
          = (T.diff u v).map (modified k) := by
        simp only [modification, hu, hv, Option.bind_eq_bind,
          Option.bind_some, Option.pure_def]
        cases T.diff u v <;> rfl
      rw [if_pos (mem_kept.mpr ⟨⟨u, hu⟩, v, hv⟩), hmodification]
      cases hdiff : T.diff u v with
      | none => exact congrArg some (T.seen_of_none hdiff)
      | some fields => exact congrArg some (T.seen_patch hdiff)

/-- With the removals as well, every id is seen as it is now. -/
theorem seen_removals (o : SetOrder κ) (prev curr : Dict κ U)
    (type type' : String) (k : κ) :
    (((modifications o T.diff prev curr ++ additions o prev curr type
        ++ removals o prev curr type').foldl (apply T.patch)
        prev).get? k).map T.seen
      = (curr.get? k).map T.seen := by
  rw [List.foldl_append, get?_removals]
  by_cases hgone : k ∈ gone o prev curr
  · rw [if_pos hgone, (mem_gone.mp hgone).2]
  · rw [if_neg hgone, seen_additions]
    cases hv : curr.get? k with
    | some v => rfl
    | none =>
      cases hu : prev.get? k with
      | none => rfl
      | some u => exact absurd (mem_gone.mpr ⟨⟨u, hu⟩, hv⟩) hgone

-- ==== equal maps

theorem modifications_self (o : SetOrder κ) (d : Dict κ U) :
    modifications o T.diff d d = [] := by
  refine List.filterMap_eq_nil_iff.mpr fun k _ => ?_
  rw [modification]
  cases d.get? k with
  | none => rfl
  | some u => simp [T.diff_self]

theorem additions_self (o : SetOrder κ) (d : Dict κ U) (type : String) :
    additions (F := F) o d d type = [] := by
  refine List.filterMap_eq_nil_iff.mpr fun k hk => ?_
  rw [(mem_fresh.mp hk).2]
  rfl

theorem removals_self (o : SetOrder κ) (d : Dict κ U) (type : String) :
    removals (F := F) o d d type = [] := by
  rw [removals, List.map_eq_nil_iff, List.eq_nil_iff_forall_not_mem]
  intro k hk
  obtain ⟨⟨u, hu⟩, hnone⟩ := mem_gone.mp hk
  rw [hu] at hnone
  cases hnone

end Applied

end DictChange

end Lib
