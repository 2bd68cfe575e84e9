/-
`_calculate_state_delta`: what changed from one full state to the next,
collection by collection.

# Values

Values are of an arbitrary type with a zero, equal when Python's `==`
says so. `moves` and `production` are read with `get`, so they may be
missing; a missing `moves` counts as 0. The ids are gone through as
sets, in any order.

# What it is for

`applied` is not in the source. It applies a delta to the state it was
taken from; what is then seen of units and cities is to be what is seen
of the new state (`DeltaComplete`).
-/
import Mathlib.Algebra.Order.Ring.Int
import Freeciv3d.Lib.DictDelta

namespace Freeciv3d.Proxy

open Lib

variable {κ V U F : Type}

-- ==== the states

/-- A collection: a dict keyed by id, or the list of old. -/
inductive Collection (κ U : Type) where
  | byId (d : Dict κ U)
  | listed (l : List (κ × U))

/-- `data if isinstance(data, dict) else {u['id']: u for u in data}`. -/
def Collection.toDict [DecidableEq κ] : Collection κ U → Dict κ U
  | byId d => d
  | listed l => Dict.ofList l

structure UnitEntry (V : Type) where
  x : V
  y : V
  hp : V
  moves : Option V

structure CityEntry (V : Type) where
  population : V
  production : Option V

structure DeltaState (κ V : Type) where
  units : Option (Collection κ (UnitEntry V))
  cities : Option (Collection κ (CityEntry V))

/-- `state.get('units', {})` as a dict. -/
def collection [DecidableEq κ] (c : Option (Collection κ U)) : Dict κ U :=
  (c.getD (.byId ∅)).toDict

-- ==== the delta

structure FromTo (V : Type) where
  old : V
  new : V

def fromTo [DecidableEq V] (old new : V) : Option (FromTo V) :=
  if new = old then none else some ⟨old, new⟩

structure UnitFields (V : Type) where
  position : Option (FromTo (V × V))
  hp : Option (FromTo V)
  moves : Option (FromTo V)

structure CityFields (V : Type) where
  population : Option (FromTo V)
  production : Option (FromTo (Option V))

/-- `unit.get('moves', 0)`. -/
def UnitEntry.movesOr [Zero V] (u : UnitEntry V) : V := u.moves.getD 0

def unitFields [DecidableEq V] [Zero V] (u v : UnitEntry V) :
    Option (UnitFields V) :=
  let position := fromTo (u.x, u.y) (v.x, v.y)
  let hp := fromTo u.hp v.hp
  let moves := fromTo u.movesOr v.movesOr
  if position.isSome || hp.isSome || moves.isSome then
    some { position := position, hp := hp, moves := moves }
  else none

def cityFields [DecidableEq V] (u v : CityEntry V) :
    Option (CityFields V) :=
  let population := fromTo u.population v.population
  let production := fromTo u.production v.production
  if population.isSome || production.isSome then
    some { population := population, production := production }
  else none

/-- `changes`; a collection without changes has no entry. -/
structure StateDelta (κ V : Type) where
  units : Option (List (DictChange κ (UnitEntry V) (UnitFields V)))
  cities : Option (List (DictChange κ (CityEntry V) (CityFields V)))

/-- `if unit_changes: …`. -/
def ifAny {α : Type} (l : List α) : Option (List α) :=
  if l.isEmpty then none else some l

section Delta

variable [DecidableEq κ] [DecidableEq V] [Zero V] (o : SetOrder κ)

open DictChange

def unitChanges (prev curr : Dict κ (UnitEntry V)) :
    List (DictChange κ (UnitEntry V) (UnitFields V)) :=
  modifications o unitFields prev curr
    ++ additions o prev curr "created"
    ++ removals o prev curr "destroyed"

def cityChanges (prev curr : Dict κ (CityEntry V)) :
    List (DictChange κ (CityEntry V) (CityFields V)) :=
  modifications o cityFields prev curr ++ additions o prev curr "founded"

def calculateStateDelta (previous current : DeltaState κ V) :
    StateDelta κ V where
  units := ifAny
    (unitChanges o (collection previous.units) (collection current.units))
  cities := ifAny
    (cityChanges o (collection previous.cities)
      (collection current.cities))

end Delta

-- ==== applying it

def FromTo.apply (c : Option (FromTo V)) (old : V) : V :=
  c.elim old FromTo.new

def patchUnit (c : UnitFields V) (u : UnitEntry V) : UnitEntry V where
  x := (FromTo.apply c.position (u.x, u.y)).1
  y := (FromTo.apply c.position (u.x, u.y)).2
  hp := FromTo.apply c.hp u.hp
  moves := c.moves.elim u.moves fun m => some m.new

def patchCity (c : CityFields V) (u : CityEntry V) : CityEntry V where
  population := FromTo.apply c.population u.population
  production := FromTo.apply c.production u.production

def UnitEntry.seen [Zero V] (u : UnitEntry V) : (V × V) × V × V :=
  ((u.x, u.y), u.hp, u.movesOr)

def CityEntry.seen (u : CityEntry V) : V × Option V :=
  (u.population, u.production)

def applied [DecidableEq κ] (patch : F → U → U)
    (changes : Option (List (DictChange κ U F))) (d : Dict κ U) :
    Dict κ U :=
  (changes.getD []).foldl (DictChange.apply patch) d

-- ==== it is a delta

@[simp] theorem apply_fromTo [DecidableEq V] (old new : V) :
    FromTo.apply (fromTo old new) old = new := by
  unfold fromTo FromTo.apply
  by_cases h : new = old
  · rw [if_pos h, h]
    rfl
  · rw [if_neg h]
    rfl

theorem isSome_fromTo [DecidableEq V] (old new : V) :
    (fromTo old new).isSome = true ↔ new ≠ old := by
  unfold fromTo
  split <;> simp [*]

theorem fromTo_self [DecidableEq V] (v : V) : fromTo v v = none :=
  if_pos rfl

theorem movesOr_patchUnit [Zero V] (c : UnitFields V) (u : UnitEntry V) :
    (patchUnit c u).movesOr = FromTo.apply c.moves u.movesOr := by
  unfold UnitEntry.movesOr patchUnit
  cases c.moves <;> rfl

section Laws

variable [DecidableEq V]

theorem seen_of_unitFields_none [Zero V] {u v : UnitEntry V}
    (h : unitFields u v = none) : u.seen = v.seen := by
  have hnot : ¬ ((fromTo (u.x, u.y) (v.x, v.y)).isSome
      || (fromTo u.hp v.hp).isSome
      || (fromTo u.movesOr v.movesOr).isSome) = true :=
    fun hany => nomatch ite_eq_right_iff.mp h hany
  simp only [Bool.or_eq_true, isSome_fromTo, not_or, not_not] at hnot
  obtain ⟨⟨hposition, hhp⟩, hmoves⟩ := hnot
  unfold UnitEntry.seen
  rw [hposition, hhp, hmoves]

theorem seen_patchUnit [Zero V] {u v : UnitEntry V} {c : UnitFields V}
    (h : unitFields u v = some c) : (patchUnit c u).seen = v.seen := by
  obtain ⟨-, hc⟩ := Option.ite_none_right_eq_some.mp h
  cases hc
  unfold UnitEntry.seen
  rw [movesOr_patchUnit]
  simp [patchUnit]

theorem seen_of_cityFields_none {u v : CityEntry V}
    (h : cityFields u v = none) : u.seen = v.seen := by
  have hnot : ¬ ((fromTo u.population v.population).isSome
      || (fromTo u.production v.production).isSome) = true :=
    fun hany => nomatch ite_eq_right_iff.mp h hany
  simp only [Bool.or_eq_true, isSome_fromTo, not_or, not_not] at hnot
  obtain ⟨hpopulation, hproduction⟩ := hnot
  unfold CityEntry.seen
  rw [hpopulation, hproduction]

theorem seen_patchCity {u v : CityEntry V} {c : CityFields V}
    (h : cityFields u v = some c) : (patchCity c u).seen = v.seen := by
  obtain ⟨-, hc⟩ := Option.ite_none_right_eq_some.mp h
  cases hc
  simp [CityEntry.seen, patchCity]

end Laws

def trackedUnits (V : Type) [DecidableEq V] [Zero V] :
    Tracked (UnitEntry V) (UnitFields V) ((V × V) × V × V) where
  seen := UnitEntry.seen
  diff := unitFields
  patch := patchUnit
  seen_of_none := seen_of_unitFields_none
  seen_patch := seen_patchUnit
  diff_self u := by simp [unitFields, fromTo_self]

def trackedCities (V : Type) [DecidableEq V] :
    Tracked (CityEntry V) (CityFields V) (V × Option V) where
  seen := CityEntry.seen
  diff := cityFields
  patch := patchCity
  seen_of_none := seen_of_cityFields_none
  seen_patch := seen_patchCity
  diff_self u := by simp [cityFields, fromTo_self]

-- ==== completeness

section Complete

variable [DecidableEq κ] [DecidableEq V] [Zero V] (o : SetOrder κ)
variable (previous current : DeltaState κ V)

/-- Applied to the previous state, the delta gives every id what the
current state shows of it, units and cities; equal states have the empty
delta. -/
def DeltaComplete : Prop :=
  let delta := calculateStateDelta o previous current
  (∀ id, ((applied patchUnit delta.units (collection previous.units)).get?
      id).map UnitEntry.seen
    = ((collection current.units).get? id).map UnitEntry.seen)
  ∧ (∀ id, ((applied patchCity delta.cities
      (collection previous.cities)).get? id).map CityEntry.seen
    = ((collection current.cities).get? id).map CityEntry.seen)
  ∧ (previous = current → delta = ⟨none, none⟩)

variable {o previous current}

theorem applied_ifAny {U : Type} (patch : F → U → U)
    (l : List (DictChange κ U F)) (d : Dict κ U) :
    applied patch (ifAny l) d = l.foldl (DictChange.apply patch) d := by
  cases l <;> rfl

theorem delta_self (state : DeltaState κ V) :
    calculateStateDelta o state state = ⟨none, none⟩ := by
  have hunits := DictChange.modifications_self (trackedUnits V) o
    (collection state.units)
  have hcities := DictChange.modifications_self (trackedCities V) o
    (collection state.cities)
  unfold calculateStateDelta unitChanges cityChanges
  rw [show unitFields = (trackedUnits V).diff from rfl, hunits,
    show cityFields = (trackedCities V).diff from rfl, hcities,
    DictChange.additions_self, DictChange.additions_self,
    DictChange.removals_self]
  rfl

omit [Zero V] in
/-- What the cities' changes give: a city that is gone keeps what it
had. -/
theorem seen_cities (prev curr : Dict κ (CityEntry V)) (id : κ) :
    ((applied patchCity (ifAny (cityChanges o prev curr)) prev).get?
        id).map CityEntry.seen
      = ((curr.get? id).or (prev.get? id)).map CityEntry.seen := by
  rw [applied_ifAny]
  exact DictChange.seen_additions (trackedCities V) o prev curr "founded" id

/-- The delta is complete just when no city is gone. -/
theorem state_delta_complete_iff (o : SetOrder κ)
    (previous current : DeltaState κ V) :
    DeltaComplete o previous current
      ↔ ∀ id, (collection previous.cities).contains id = true →
          (collection current.cities).contains id = true := by
  have hunits : ∀ id, ((applied patchUnit
      (calculateStateDelta o previous current).units
      (collection previous.units)).get? id).map UnitEntry.seen
        = ((collection current.units).get? id).map UnitEntry.seen := by
    intro id
    refine (congrArg (fun d => (Dict.get? d id).map UnitEntry.seen)
      (applied_ifAny ..)).trans ?_
    exact DictChange.seen_removals (trackedUnits V) o _ _ "created"
      "destroyed" id
  constructor
  · rintro ⟨-, hcities, -⟩ id hprevious
    obtain ⟨u, hu⟩ := Dict.contains_iff.mp hprevious
    have hseen := (seen_cities _ _ id).symm.trans (hcities id)
    refine Dict.contains_iff.mpr ?_
    cases hcurrent : (collection current.cities).get? id with
    | some v => exact ⟨v, rfl⟩
    | none =>
      rw [hcurrent, hu] at hseen
      cases hseen
  · intro h
    refine ⟨hunits, fun id => (seen_cities _ _ id).trans ?_, ?_⟩
    · cases hcurrent : (collection current.cities).get? id with
      | some v => rfl
      | none =>
        cases hprevious : (collection previous.cities).get? id with
        | none => rfl
        | some u =>
          obtain ⟨v, hv⟩ := Dict.contains_iff.mp
            (h id (Dict.contains_iff.mpr ⟨u, hprevious⟩))
          rw [hcurrent] at hv
          cases hv
    · intro hsame
      rw [hsame]
      exact delta_self current

/-- City 7 of the previous state is gone and the delta is empty. -/
theorem destroyed_city_is_not_in_delta :
    ¬ DeltaComplete (SetOrder.inserted Nat)
      ⟨none, some (.byId (Dict.ofList [(7, ⟨(3 : Int), some 1⟩)]))⟩
      ⟨none, some (.byId ∅)⟩ := by
  rintro ⟨-, hcities, -⟩
  exact absurd (hcities 7) (by decide)

end Complete

end Freeciv3d.Proxy
