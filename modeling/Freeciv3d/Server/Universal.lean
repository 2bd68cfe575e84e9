/-
Universals, the (kind, value) pairs of worklists and requirements, as they
are put together from two numbers and taken apart again
(`requirements.c`), and the worklist of a city (`worklist.c`).

# Values

A universal holds a pointer into a table of the ruleset, or a plain
number. A pointer is kept as its index; `none` is the null pointer. The
tables are known by their lengths.
-/
import Mathlib.Tactic.Common

namespace Freeciv3d.Server

/-- How many of each there are in the ruleset. The limits are those of the
fixed tables (`SP_MAX`, `MAX_GOODS_TYPES`, `MAX_COUNTERS`). -/
structure Ruleset where
  techs : Nat
  governments : Nat
  improvements : Nat
  terrains : Nat
  nations : Nat
  unitTypes : Nat
  unitClasses : Nat
  achievements : Nat
  styles : Nat
  nationGroups : Nat
  specialists : Nat
  goods : Nat
  counters : Nat
  specialists_le : specialists ≤ 20
  goods_le : goods ≤ 25
  counters_le : counters ≤ 20

def futureTech : Int := 252

def maxExtraTypes : Nat := 128

def actionCount : Nat := 117

structure Universal where
  kind : Int
  value : Option Int

/-- The kind is `universals_n_invalid()`. -/
def Universal.invalid : Universal := ⟨-1, none⟩

-- ==== kinds

inductive Table
  | advance | government | achievement | style | improvement | extra | good
  | terrain | nation | nationGroup | unitType | unitClass | action
  | specialist | counter

inductive ValueRule
  | nothing
  /-- A pointer; without one the universal is invalid. -/
  | checked (t : Table)
  | unchecked (t : Table)
  /-- A number other than `diplrel_other_invalid()`. -/
  | diplrel
  | plain

def vutCount : Int := 55

/-- The kinds whose value is no plain number, `VUT_NONE` to `VUT_WRAP`. -/
def valueRule (kind : Int) : ValueRule :=
  match kind with
  | 0 => .nothing
  | 1 => .checked .advance
  | 2 => .checked .government
  | 3 => .checked .improvement
  | 4 => .checked .terrain
  | 5 => .checked .nation
  | 6 => .checked .unitType
  | 8 => .checked .unitClass
  | 11 => .unchecked .specialist
  | 18 => .unchecked .good
  | 20 => .checked .nation
  | 22 => .unchecked .extra
  | 24 => .checked .achievement
  | 25 => .diplrel
  | 27 => .checked .style
  | 34 => .checked .nationGroup
  | 37 => .checked .action
  | 45 => .diplrel
  | 46 => .diplrel
  | 47 => .diplrel
  | 48 => .diplrel
  | 51 => .unchecked .counter
  | 52 => .checked .nation
  | _ => .plain

/-- An index into a table of `count`, or the null pointer. -/
def within (count : Nat) (id : Int) : Option Int :=
  if id < 0 ∨ count ≤ id then none else some id

/-- `advance_by_number`, `government_by_number` and so on. -/
def byNumber (r : Ruleset) : Table → Int → Option Int
  | .advance, id => if id = futureTech then some id else within r.techs id
  | .government, id => within r.governments id
  | .achievement, id => within r.achievements id
  | .style, id => within r.styles id
  | .improvement, id => within r.improvements id
  | .extra, id => within maxExtraTypes id
  | .good, id => within r.goods id
  | .terrain, id => within r.terrains id
  | .nation, id => within r.nations id
  | .nationGroup, id => within r.nationGroups id
  | .unitType, id => within r.unitTypes id
  | .unitClass, id => within r.unitClasses id
  | .action, id => within actionCount id
  | .specialist, id => within r.specialists id
  -- a negative id is not looked for
  | .counter, id => if r.counters ≤ id then none else some id

def universalByNumber (r : Ruleset) (kind value : Int) : Universal :=
  if 0 ≤ kind ∧ kind < vutCount then
    match valueRule kind with
    | .nothing => ⟨kind, none⟩
    | .checked t =>
      match byNumber r t value with
      | some id => ⟨kind, some id⟩
      | none => .invalid
    | .unchecked t => ⟨kind, byNumber r t value⟩
    | .diplrel => if value = -1 then .invalid else ⟨kind, some value⟩
    | .plain => ⟨kind, some value⟩
  else .invalid

/-- `universal_number`; 0 without a value. -/
def universalNumber (u : Universal) : Int := u.value.getD 0

theorem value_universalByNumber {r : Ruleset} {kind value n : Int}
    (h : (universalByNumber r kind value).value = some n) : n = value := by
  have hwithin : ∀ {count : Nat}, within count value = some n → n = value := by
    intro count hw
    unfold within at hw
    split at hw
    · cases hw
    · exact (Option.some.inj hw).symm
  have hby : ∀ {t : Table}, byNumber r t value = some n → n = value := by
    intro t ht
    cases t with
    | advance =>
      have ht' : (if value = futureTech then some value
        else within r.techs value) = some n := ht
      split at ht'
      · exact (Option.some.inj ht').symm
      · exact hwithin ht'
    | counter =>
      have ht' : (if (r.counters : Int) ≤ value then none else some value)
        = some n := ht
      split at ht'
      · cases ht'
      · exact (Option.some.inj ht').symm
    | _ => exact hwithin ht
  unfold universalByNumber at h
  split at h
  · split at h
    · cases h
    · split at h
      · next hid =>
          cases h
          exact hby hid
      · cases h
    · exact hby h
    · split at h
      · cases h
      · exact (Option.some.inj h).symm
    · exact (Option.some.inj h).symm
  · cases h

theorem byNumber_unchecked (r : Ruleset) {kind : Int} {t : Table}
    (h : valueRule kind = .unchecked t) : byNumber r t 255 = none := by
  have hwithin : ∀ {count : Nat}, count ≤ 255 → within count 255 = none := by
    intro count hc
    unfold within
    rw [if_pos (Or.inr (by omega))]
  have hs := r.specialists_le
  have hg := r.goods_le
  have hc := r.counters_le
  unfold valueRule at h
  split at h
  all_goals cases h
  · exact hwithin (by omega)
  · exact hwithin (by omega)
  · exact hwithin (by decide)
  · show (if (r.counters : Int) ≤ 255 then none else some 255) = none
    rw [if_pos (by omega)]

-- ==== worklists

def maxLenWorklist : Nat := 64

structure Worklist where
  entries : List Universal
  length_le : entries.length ≤ maxLenWorklist

namespace Worklist

def init : Worklist := ⟨[], Nat.zero_le _⟩

/-- `worklist_append`: a full list stays. -/
def append (wl : Worklist) (prod : Universal) : Worklist :=
  if h : wl.entries.length < maxLenWorklist then
    ⟨wl.entries ++ [prod], by rw [List.length_append]; exact h⟩
  else wl

theorem ext {wl wl' : Worklist} (h : wl.entries = wl'.entries) : wl = wl' := by
  cases wl
  cases wl'
  cases h
  rfl

theorem entries_foldl_append (us : List Universal) (wl : Worklist) :
    (us.foldl append wl).entries = (wl.entries ++ us).take maxLenWorklist := by
  induction us generalizing wl with
  | nil =>
    rw [List.append_nil, List.take_of_length_le wl.length_le]
    rfl
  | cons u us ih =>
    rw [List.foldl_cons, ih]
    unfold append
    split
    · rw [List.append_assoc]
      rfl
    · next hfull =>
        have hlen : wl.entries.length = maxLenWorklist :=
          Nat.le_antisymm wl.length_le (Nat.le_of_not_lt hfull)
        rw [← hlen, List.take_left, List.take_left]

end Worklist

-- ==== requirements

structure Requirement where
  source : Universal
  range : Int
  survives : Bool
  present : Bool
  quiet : Bool

def reqFromValues (r : Ruleset) (type range : Int)
    (survives present quiet : Bool) (value : Int) : Requirement :=
  ⟨universalByNumber r type value, range, survives, present, quiet⟩

end Freeciv3d.Server
