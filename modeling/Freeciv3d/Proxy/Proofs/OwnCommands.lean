/-
Only own units and cities are commanded: which actions that pass the
sanitizer, the validator and the converter order a unit or a city that
is in the state and belongs to the player.

# The identities

The validator checks `unit_id` (or `actor_id`, when `unit_id` is 0 or
missing), the converter orders `unit_id` (or `transport_id`). After the
sanitizer `actor_id` and `transport_id` are gone and `unit_id` is an
integer, so both read the same number (`orders_unit_id`).

# The category without a validator

The dispatch by category has no branch for city foundation, so
'unit_join_city' and 'unit_home_city' end in the basic check, which
looks at nobody's unit (`validateByType_foundation`). Every other type
that orders a unit has its unit looked up and its owner compared
(`validateByType_unit`).

# What this closes

`own_only_iff`: an action orders own units and cities only, for every
player and every state, exactly when it is none of these two.
-/
import Mathlib.Data.List.Perm.Subperm
import Freeciv3d.Proxy.MovesTracking
import Freeciv3d.Proxy.Proofs.SanitizedFields

namespace Freeciv3d.Proxy

open Lib ActionValidator ActionPackets

namespace OwnCommands

variable {rt : PyRuntime}

-- ==== the statement

/-- `u` is the record that a section has for the number `n`: it is
stored under it, or its `id` is it. A list stores a record under its
`id`, or under its place when it has none. -/
def RecordOf (rt : PyRuntime) (things : PyVal) (n : Int) (u : StateDict) :
    Prop :=
  match things with
  | .dict entries => ∃ k, (k, .dict u) ∈ entries
      ∧ (k = .int n ∨ k = .str (toString n)
        ∨ (getField u "id").eq (.int n) = true)
  | .list items => ∃ i : Nat, items[i]? = some (.dict u)
      ∧ (((PyVal.field? u "id").getD (.int i)).toStr rt = toString n
        ∨ (getField u "id").eq (.int n) = true)
  | _ => False

/-- A section of the state has a record for the number, and its owner is
the player. -/
def Owned (rt : PyRuntime) (sectionName : String) (gameState : StateDict)
    (playerId : Int) (v : PyVal) : Prop :=
  ∃ things n u, stateSection (some gameState) sectionName = some things
    ∧ v = .int n ∧ RecordOf rt things n u ∧ ownedBy u playerId = true

/-- The state has units and cities. -/
def Present (gameState : StateDict) : Prop :=
  (∃ units, stateSection (some gameState) "units" = some units)
    ∧ ∃ cities, stateSection (some gameState) "cities" = some cities

/-- The action as the validator and the converter get it: with or
without the player filled in. -/
def HandedOn (playerId : Int) (s s' : PyDict) : Prop :=
  s' = s ∨ s' = MovesTracking.withPlayer playerId s

/-- Whenever the action passes the sanitizer and the validator and
becomes a packet, the unit or city the packet orders is in the state
and owned by the player. -/
def OwnOnly (rt : PyRuntime) (found : Bool) (action : PyDict) : Prop :=
  ∀ (playerId : Int) (gameState : StateDict) (civcom : Option Mirror)
    (s s' : PyDict) (p : Fields), Present gameState →
    ActionSanitizer.sanitizeActionData rt action = .ok s →
    HandedOn playerId s s' →
    validateAction rt s' playerId (some gameState) = .ok () →
    convertActionToPacket rt civcom s' found = .ok p →
    (p.lookup "pid").isSome = true →
    (∀ k ∈ ["unit_id", "actor_id"], ∀ v, p.lookup k = some v →
      Owned rt "units" gameState playerId v)
    ∧ ∀ v, p.lookup "city_id" = some v →
      Owned rt "cities" gameState playerId v

/-- The action sends a unit to join a city, or to make it its home. -/
def OrdersFoundation (action : PyDict) : Prop :=
  ∃ t, ActionSanitizer.actionType action = .str t
    ∧ PyStr.startsWith t "unit_" = true
    ∧ ActionSanitizer.clean t ∈ ["unit_join_city", "unit_home_city"]
    ∧ action.contains "unit_id" = true

-- ==== the validator

variable {action : PyDict} {playerId n : Int} {gameState : StateDict}

theorem recordOf_of_find {things : PyVal} {records : List PyVal}
    {u : StateDict} (h : things.elements = .ok records)
    (hu : records.find? (hasId (.int n)) = some (.dict u)) :
    RecordOf rt things n u := by
  have hmem := List.mem_of_find?_eq_some hu
  have hid : hasId (.int n) (.dict u) = true := List.find?_some hu
  cases things with
  | dict entries =>
    cases h
    obtain ⟨e, he, hv⟩ := List.mem_map.mp hmem
    refine ⟨e.1, ?_, Or.inr (Or.inr hid)⟩
    rw [← hv]
    exact he
  | list items =>
    cases h
    obtain ⟨i, hi⟩ := List.mem_iff_getElem?.mp hmem
    exact ⟨i, hi, Or.inr hid⟩
  | str s =>
    cases h
    obtain ⟨c, _, hc⟩ := List.mem_map.mp hmem
    cases hc
  | null | bool b | int m | float x => cases h

theorem python_eq_ok {α : Type} {x : Except PyError α} {a : α} :
    python x = .ok a ↔ x = .ok a := by
  cases x with
  | error e | ok b => simp [python]

theorem validateOwnership_ok {sectionName idField noun e₁ e₂ e₃ : String}
    {name : String} {things : PyVal}
    (h : validateOwnership rt sectionName idField noun e₁ e₂ e₃ name action
      playerId (some gameState) = .ok ())
    (hid : action.get? idField = some (.int n))
    (hs : stateSection (some gameState) sectionName = some things) :
    Owned rt sectionName gameState playerId (.int n) := by
  simp only [validateOwnership, hid, hs] at h
  obtain ⟨records, hr, h⟩ := bind_eq_ok.mp h
  split at h
  next u hu =>
    split at h
    next howned =>
      exact ⟨things, n, u, hs, rfl,
        recordOf_of_find (python_eq_ok.mp hr) hu, howned⟩
    next => cases h
  next => cases h

theorem mem_of_findUnit {table : StateDict} {u : PyVal}
    (h : findUnit rt table (.int n) = .ok (some u)) :
    ∃ k, (k, u) ∈ table ∧ (k = .int n ∨ k = .str (toString n)) := by
  unfold findUnit at h
  split at h
  next v hv =>
    cases h
    exact ⟨_, mem_of_lookup hv, Or.inr rfl⟩
  next =>
    rw [PyVal.key_int] at h
    have hl : table.lookup (.int n) = some u := Except.ok.inj h
    exact ⟨_, mem_of_lookup hl, Or.inl rfl⟩

theorem recordOf_of_findUnit {units : PyVal} {table : StateDict}
    {u : StateDict} (ht : unitTable rt units = .ok table)
    (hu : findUnit rt table (.int n) = .ok (some (.dict u))) :
    RecordOf rt units n u := by
  obtain ⟨k, hmem, hk⟩ := mem_of_findUnit hu
  cases units with
  | dict entries =>
    cases ht
    rcases hk with rfl | rfl
    · exact ⟨_, hmem, Or.inl rfl⟩
    · exact ⟨_, hmem, Or.inr (Or.inl rfl)⟩
  | list items =>
    cases ht
    rw [List.mem_reverse] at hmem
    obtain ⟨⟨v, i⟩, hi, he⟩ := List.mem_filterMap.mp hmem
    have hget : items[i]? = some v := by
      have := List.mem_zipIdx_iff_getElem?.mp hi
      exact this
    split at he
    next w hw =>
      cases he
      cases hw
      refine ⟨i, hget, ?_⟩
      rcases hk with hk | hk
      · cases hk
      · exact Or.inl (PyKey.str.inj hk)
    next => cases he
  | null | bool b | int m | float x | str s => cases ht

/-- The acting unit of an action without `actor_id`: 0 counts as
missing. -/
theorem actingUnit_eq (hid : action.get? "unit_id" = some (.int n))
    (ha : action.get? "actor_id" = none) :
    actingUnit action = if n = 0 then .null else .int n := by
  simp only [actingUnit, hid, ha, Option.getD, PyVal.or, PyVal.truthy_int]
  by_cases hn : n = 0
  · simp [hn]
  · simp [hn]

theorem checkCanAct_ok {id : PyVal} {u : Option PyVal}
    (h : checkCanAct rt id playerId u = .ok ()) :
    ∃ entries, u = some (.dict entries) ∧ ownedBy entries playerId = true := by
  unfold checkCanAct at h
  split at h
  next entries =>
    split at h
    next => cases h
    next howned =>
      refine ⟨entries, rfl, ?_⟩
      simpa using howned
  next => cases h
  next => cases h
  next => cases h

section unit

variable {units : PyVal} (hid : action.get? "unit_id" = some (.int n))
  (ha : action.get? "actor_id" = none)
  (hs : stateSection (some gameState) "units" = some units)

include hid ha hs

theorem validateUnitCanAct_ok {name : String}
    (h : validateUnitCanAct rt action playerId (some gameState) name
      = .ok ()) :
    Owned rt "units" gameState playerId (.int n) := by
  simp only [validateUnitCanAct, hs, actingUnit_eq hid ha] at h
  by_cases hn : n = 0
  · rw [if_pos hn] at h
    cases h
  rw [if_neg hn] at h
  obtain ⟨table, ht, h⟩ := bind_eq_ok.mp h
  obtain ⟨found, hf, h⟩ := bind_eq_ok.mp h
  obtain ⟨u, rfl, howned⟩ := checkCanAct_ok h
  exact ⟨units, n, u, hs, rfl,
    recordOf_of_findUnit (python_eq_ok.mp ht) (python_eq_ok.mp hf), howned⟩

theorem validateUnitMove_ok
    (h : validateUnitMove rt action playerId (some gameState) = .ok ()) :
    Owned rt "units" gameState playerId (.int n) := by
  unfold validateUnitMove at h
  split at h
  · cases h
  dsimp only at h
  split at h
  · obtain ⟨inside, _, h⟩ := bind_eq_ok.mp h
    split at h
    · exact validateUnitCanAct_ok hid ha hs h
    · cases h
  · cases h
  · cases h
  · cases h

theorem validateUnitBuildCity_ok
    (h : validateUnitBuildCity rt action playerId (some gameState) = .ok ()) :
    Owned rt "units" gameState playerId (.int n) := by
  unfold validateUnitBuildCity at h
  rw [hid] at h
  obtain ⟨_, h, _⟩ := bind_eq_ok.mp h
  exact validateUnitCanAct_ok hid ha hs h

end unit

theorem validateCityProduction_ok {cities : PyVal}
    (h : validateCityProduction rt action playerId (some gameState) = .ok ())
    (hid : action.get? "city_id" = some (.int n))
    (hs : stateSection (some gameState) "cities" = some cities) :
    Owned rt "cities" gameState playerId (.int n) := by
  unfold validateCityProduction at h
  rw [hid] at h
  cases hp : action.get? "production_type" with
  | none =>
    rw [hp] at h
    cases h
  | some production =>
    rw [hp] at h
    obtain ⟨_, _, h⟩ := bind_eq_ok.mp h
    unfold checkProducingCity at h
    rw [hs] at h
    obtain ⟨records, hr, h⟩ := bind_eq_ok.mp h
    split at h
    next c hc =>
      split at h
      next howned =>
        exact ⟨cities, n, c, hs, rfl,
          recordOf_of_find (python_eq_ok.mp hr) hc, howned⟩
      next => cases h
    next => cases h

/-- The types that found or join a city, without the founding itself. -/
def foundationTypes : List ActionType := [.unitJoinCity, .unitHomeCity]

def unitCategories : List ActionCategory :=
  [.movement, .combat, .cityFoundation, .trade, .terrain, .unitStatus,
    .espionage]

/-- The category validators look the unit up; city foundation has no
validator. -/
theorem validateByCategory_unit {type : ActionType} {units : PyVal}
    (h : validateByCategory rt action type playerId (some gameState)
      = .ok ())
    (hc : type.category ∈ unitCategories) (hf : type.category ≠ .cityFoundation)
    (hid : action.get? "unit_id" = some (.int n))
    (hs : stateSection (some gameState) "units" = some units) :
    Owned rt "units" gameState playerId (.int n) := by
  unfold validateByCategory at h
  cases hcat : type.category with
  | combat | espionage | movement | trade =>
    rw [hcat] at h
    obtain ⟨_, h, _⟩ := bind_eq_ok.mp h
    exact validateOwnership_ok h hid hs
  | terrain | unitStatus =>
    rw [hcat] at h
    exact validateOwnership_ok h hid hs
  | cityFoundation => exact absurd hcat hf
  | diplomacy | cityManagement | research =>
    rw [hcat] at hc; simp [unitCategories] at hc

theorem cityFoundation_cases {type : ActionType}
    (h : type.category = .cityFoundation) :
    type = .unitBuildCity ∨ type ∈ foundationTypes := by
  revert h
  cases type <;> decide

/-- Every type that orders a unit has it looked up, but for the two of
city foundation that are not the founding itself. -/
theorem validateByType_unit {type : ActionType} {units : PyVal}
    (h : validateByType rt action type playerId (some gameState) = .ok ())
    (hc : type.category ∈ unitCategories) (hf : type ∉ foundationTypes)
    (hid : action.get? "unit_id" = some (.int n))
    (ha : action.get? "actor_id" = none)
    (hs : stateSection (some gameState) "units" = some units) :
    Owned rt "units" gameState playerId (.int n) := by
  unfold validateByType at h
  split at h
  · exact validateUnitMove_ok hid ha hs h
  · exact validateUnitBuildCity_ok hid ha hs h
  · simp [ActionType.category, unitCategories] at hc
  · simp [ActionType.category, unitCategories] at hc
  · simp [ActionType.category, unitCategories] at hc
  · simp [ActionType.category, unitCategories] at hc
  · exact validateUnitCanAct_ok hid ha hs h
  · exact validateUnitCanAct_ok hid ha hs h
  · exact validateUnitCanAct_ok hid ha hs h
  · exact validateUnitCanAct_ok hid ha hs h
  · exact validateUnitCanAct_ok hid ha hs h
  next =>
    refine validateByCategory_unit h hc ?_ hid hs
    intro hcat
    rcases cityFoundation_cases hcat with rfl | hmem
    · contradiction
    · exact hf hmem

theorem validateByType_city {type : ActionType} {cities : PyVal}
    (h : validateByType rt action type playerId (some gameState) = .ok ())
    (hc : type.category = .cityManagement)
    (hid : action.get? "city_id" = some (.int n))
    (hs : stateSection (some gameState) "cities" = some cities) :
    Owned rt "cities" gameState playerId (.int n) := by
  unfold validateByType at h
  split at h
  · cases hc
  · cases hc
  · exact validateCityProduction_ok h hid hs
  · exact validateCityProduction_ok h hid hs
  · cases hc
  · cases hc
  · cases hc
  · cases hc
  · cases hc
  · cases hc
  · cases hc
  · unfold validateByCategory at h
    rw [hc] at h
    obtain ⟨_, h, _⟩ := bind_eq_ok.mp h
    exact validateOwnership_ok h hid hs

theorem validateAction_ok {gs : Option StateDict}
    (h : validateAction rt action playerId gs = .ok ()) :
    ∃ type, ((action.get? "type").bind PyVal.str?).bind ActionType.ofValue
        = some type
      ∧ validateByType rt action type playerId gs = .ok () := by
  unfold validateAction at h
  split at h
  next => cases h
  next v hv =>
    split at h
    next => cases h
    next type htype =>
      split at h
      next =>
        refine ⟨type, ?_, h⟩
        rw [hv]
        exact htype
      next => cases h

-- ==== the converter

def ordersUnit : Branch → Bool
  | .unitMove | .unitBuildCity | .serverSideAgent | .changeActivity ..
  | .doAction _ => true
  | _ => false

def ordersCity : Branch → Bool
  | .cityProduction | .cityBuy | .citySellImprovement | .cityRename
  | .cityWorklist => true
  | _ => false

/-- The branch needs 'unit_id', and lets only a transport act in its
place. -/
def plainActor : Branch → Bool
  | .changeActivity _ unitRequired _ => unitRequired
  | .doAction spec => spec.actorKeys.all (· == "transport_id")
  | _ => true

def branchOfType (type : ActionType) : Option Branch :=
  branches.lookup type.value

/-- What the two tables of types have to agree on: whom a branch orders,
and which category validates it. -/
def tablesAgree (type : ActionType) (b : Branch) : Bool :=
  plainActor b && (!ordersUnit b || unitCategories.contains type.category)
    && (!ordersCity b || type.category == .cityManagement)

theorem mem_all (type : ActionType) : type ∈ ActionType.all := by
  cases type <;> decide

theorem of_all_types {q : ActionType → Branch → Bool}
    (hall : (ActionType.all.all fun type =>
      (branchOfType type).all (q type)) = true)
    {type : ActionType} {b : Branch} (h : branchOfType type = some b) :
    q type b = true := by
  have htype := List.all_eq_true.mp hall type (mem_all type)
  rw [h] at htype
  exact htype

theorem tablesAgree_of_type {type : ActionType} {b : Branch}
    (h : branchOfType type = some b) : tablesAgree type b = true :=
  of_all_types (by decide +kernel) h

theorem need_eq_ok {key : String} {v : PyVal} :
    need action key = .ok v ↔ action.get? key = some v := by
  unfold need
  cases action.get? key with
  | none => simp
  | some w => simp

theorem lookup_of_sanitizePacket {t : PyStr.CharTables} {found : Bool}
    {p : Fields} {k : String} {v : PyVal}
    (h : (sanitizePacket t found p).lookup k = some v) :
    p.lookup k = some v := by
  unfold sanitizePacket at h
  split at h
  next => exact h
  next pid _ =>
    dsimp only at h
    split at h
    next => exact h
    next =>
      rw [lookup_filter] at h
      split at h
      next => exact h
      next => cases h

theorem firstOf_none {keys : List String} {v : PyVal}
    (h : ∀ k ∈ keys, action.get? k = none) : firstOf action keys v = v := by
  unfold firstOf
  rw [List.findSome?_eq_none_iff.mpr h]
  rfl

theorem no_unit_field {civcom : Option Mirror} {b : Branch} {p : Fields}
    (h : convertBranch rt civcom action b = .ok p)
    (hb : ordersUnit b = false) :
    p.lookup "unit_id" = none ∧ p.lookup "actor_id" = none := by
  cases b with
  | unitMove | unitBuildCity | serverSideAgent
  | changeActivity activity unitRequired targetKeys | doAction spec => cases hb
  | cityProduction =>
    obtain ⟨_, _, h⟩ := bind_eq_ok.mp h
    obtain ⟨⟨_, _⟩, _, h⟩ := bind_eq_ok.mp h
    obtain ⟨_, _, h⟩ := bind_eq_ok.mp h
    cases h
    exact ⟨rfl, rfl⟩
  | techResearch =>
    simp only [convertBranch, convertTechResearch] at h
    split at h
    · cases h
    split at h
    · cases h
    · split at h
      · cases h
        exact ⟨rfl, rfl⟩
      · cases h
    · cases h
  | endTurn =>
    cases h
    exact ⟨rfl, rfl⟩
  | meeting pid | cancelPact clauseKeys clause | clause pid type | cityBuy
  | cityWorklist =>
    obtain ⟨_, _, h⟩ := bind_eq_ok.mp h
    cases h
    exact ⟨rfl, rfl⟩
  | message =>
    obtain ⟨known, _, h⟩ := bind_eq_ok.mp h
    cases known <;> (cases h; exact ⟨rfl, rfl⟩)
  | citySellImprovement | cityRename =>
    obtain ⟨_, _, h⟩ := bind_eq_ok.mp h
    obtain ⟨_, _, h⟩ := bind_eq_ok.mp h
    cases h
    exact ⟨rfl, rfl⟩

theorem unit_of_field {p : Fields} {field other k : String} {u v : PyVal}
    (hu : need action "unit_id" = .ok u) (hfield : p.lookup field = some u)
    (hother : p.lookup other = none) (hk : k = field ∨ k = other)
    (hv : p.lookup k = some v) : action.get? "unit_id" = some v := by
  rcases hk with rfl | rfl
  · rw [need_eq_ok.mp hu, ← hfield, hv]
  · rw [hother] at hv
    cases hv

theorem orders_unit_id {civcom : Option Mirror} {b : Branch} {p : Fields}
    (h : convertBranch rt civcom action b = .ok p)
    (hb : plainActor b = true) (ht : action.get? "transport_id" = none)
    {k : String} {v : PyVal} (hk : k = "unit_id" ∨ k = "actor_id")
    (hv : p.lookup k = some v) :
    ordersUnit b = true ∧ action.get? "unit_id" = some v := by
  have hunit : ordersUnit b = true := by
    cases ho : ordersUnit b with
    | true => rfl
    | false =>
      have hnone := no_unit_field h ho
      rcases hk with rfl | rfl
      · rw [hnone.1] at hv
        cases hv
      · rw [hnone.2] at hv
        cases hv
  refine ⟨hunit, ?_⟩
  cases b with
  | unitMove =>
    obtain ⟨_, _, h⟩ := bind_eq_ok.mp h
    obtain ⟨_, _, h⟩ := bind_eq_ok.mp h
    obtain ⟨_, _, h⟩ := bind_eq_ok.mp h
    obtain ⟨u, hu, h⟩ := bind_eq_ok.mp h
    cases h
    exact unit_of_field hu rfl rfl hk hv
  | unitBuildCity =>
    obtain ⟨u, hu, h⟩ := bind_eq_ok.mp h
    cases h
    exact unit_of_field hu rfl rfl hk.symm hv
  | serverSideAgent =>
    obtain ⟨u, hu, h⟩ := bind_eq_ok.mp h
    cases h
    exact unit_of_field hu rfl rfl hk hv
  | changeActivity activity unitRequired targetKeys =>
    have hrequired : unitRequired = true := hb
    subst hrequired
    obtain ⟨u, hu, h⟩ := bind_eq_ok.mp h
    cases h
    exact unit_of_field hu rfl rfl hk hv
  | doAction spec =>
    obtain ⟨target, _, h⟩ := bind_eq_ok.mp h
    obtain ⟨u, hu, h⟩ := bind_eq_ok.mp h
    cases h
    -- the only other actor would be a transport
    have hactor : firstOf action spec.actorKeys u = u := by
      refine firstOf_none ?_
      intro key hkey
      have htransport := List.all_eq_true.mp hb key hkey
      rw [eq_of_beq htransport]
      exact ht
    rw [hactor] at hv
    exact unit_of_field hu rfl rfl hk.symm hv
  | _ => cases hunit

theorem orders_city_id {civcom : Option Mirror} {b : Branch} {p : Fields}
    (h : convertBranch rt civcom action b = .ok p) {v : PyVal}
    (hv : p.lookup "city_id" = some v) :
    ordersCity b = true ∧ action.get? "city_id" = some v := by
  cases b with
  | unitMove =>
    obtain ⟨_, _, h⟩ := bind_eq_ok.mp h
    obtain ⟨_, _, h⟩ := bind_eq_ok.mp h
    obtain ⟨_, _, h⟩ := bind_eq_ok.mp h
    obtain ⟨_, _, h⟩ := bind_eq_ok.mp h
    cases h
    cases hv
  | unitBuildCity | serverSideAgent
  | changeActivity activity unitRequired targetKeys | meeting pid
  | cancelPact clauseKeys clause | clause pid type =>
    obtain ⟨_, _, h⟩ := bind_eq_ok.mp h
    cases h
    cases hv
  | doAction spec =>
    obtain ⟨_, _, h⟩ := bind_eq_ok.mp h
    obtain ⟨_, _, h⟩ := bind_eq_ok.mp h
    cases h
    cases hv
  | cityProduction =>
    obtain ⟨_, _, h⟩ := bind_eq_ok.mp h
    obtain ⟨⟨_, _⟩, _, h⟩ := bind_eq_ok.mp h
    obtain ⟨c, hc, h⟩ := bind_eq_ok.mp h
    cases h
    rw [need_eq_ok.mp hc]
    exact ⟨rfl, hv⟩
  | techResearch =>
    simp only [convertBranch, convertTechResearch] at h
    split at h
    · cases h
    split at h
    · cases h
    · split at h
      · cases h
        cases hv
      · cases h
    · cases h
  | endTurn =>
    cases h
    cases hv
  | message =>
    obtain ⟨known, _, h⟩ := bind_eq_ok.mp h
    cases known <;> (cases h; cases hv)
  | cityBuy | cityWorklist =>
    obtain ⟨c, hc, h⟩ := bind_eq_ok.mp h
    cases h
    rw [need_eq_ok.mp hc]
    exact ⟨rfl, hv⟩
  | citySellImprovement | cityRename =>
    obtain ⟨c, hc, h⟩ := bind_eq_ok.mp h
    obtain ⟨_, _, h⟩ := bind_eq_ok.mp h
    cases h
    rw [need_eq_ok.mp hc]
    exact ⟨rfl, hv⟩

-- ==== through the three

section chain

open ActionSanitizer MovesTracking

variable {s s' : PyDict}

theorem fieldOk_handedOn (h : sanitizeActionData rt action = .ok s)
    (hs : HandedOn playerId s s') {k : String} {v : PyVal}
    (hv : s'.get? k = some v) :
    k ∈ sanitizedKeys ∧ (k ∈ actorKeys → ∃ n, v = .int n) := by
  have hok := fieldOk_sanitized h
  have hsame : ∀ w, s.get? k = some w →
      k ∈ sanitizedKeys ∧ (k ∈ actorKeys → ∃ n, w = .int n) :=
    fun w hw => ⟨(hok k w hw).1, (hok k w hw).2.1⟩
  rcases hs with rfl | rfl
  · exact hsame v hv
  unfold withPlayer at hv
  split at hv
  · exact hsame v hv
  · by_cases hk : k = "player_id"
    · subst hk
      rw [s.get?_set_self] at hv
      cases hv
      exact ⟨by decide, fun _ => ⟨playerId, rfl⟩⟩
    · rw [s.get?_set_of_ne _ hk] at hv
      exact hsame v hv

theorem get?_handedOn (hs : HandedOn playerId s s') {k : String}
    (hk : k ≠ "player_id") : s'.get? k = s.get? k := by
  rcases hs with rfl | rfl
  · rfl
  unfold withPlayer
  split
  · rfl
  · exact s.get?_set_of_ne _ hk

theorem get?_unknown (h : sanitizeActionData rt action = .ok s)
    (hs : HandedOn playerId s s') {k : String} (hk : k ∉ sanitizedKeys) :
    s'.get? k = none := by
  cases hv : s'.get? k with
  | none => rfl
  | some v => exact absurd (fieldOk_handedOn h hs hv).1 hk

theorem value_of_ofValue {t : String} {type : ActionType}
    (h : ActionType.ofValue t = some type) : type.value = t := by
  unfold ActionType.ofValue at h
  have hvalue := List.find?_some h
  exact eq_of_beq hvalue

theorem converted_by_type (h : sanitizeActionData rt action = .ok s)
    (hs : HandedOn playerId s s') {civcom : Option Mirror} {found : Bool}
    {p : Fields} {type : ActionType}
    (hp : convertActionToPacket rt civcom s' found = .ok p)
    (hpid : (p.lookup "pid").isSome = true)
    (htype : ((s'.get? "type").bind PyVal.str?).bind ActionType.ofValue
      = some type) :
    ∃ b q, branchOfType type = some b
      ∧ convertBranch rt civcom s' b = .ok q
      ∧ ∀ k v, p.lookup k = some v → q.lookup k = some v := by
  obtain ⟨t, ht, hof⟩ := Option.bind_eq_some_iff.mp htype
  obtain ⟨q, hq, hqp⟩ := map_eq_ok.mp hp
  have hlookup : ∀ k v, p.lookup k = some v → q.lookup k = some v := by
    intro k v hv
    rw [← hqp] at hv
    split at hv
    · exact lookup_of_sanitizePacket hv
    · exact hv
  unfold convertImpl at hq
  split at hq
  next b hb =>
    refine ⟨b, q, ?_, hq, hlookup⟩
    unfold branchOf at hb
    rw [ht] at hb
    unfold branchOfType
    rw [value_of_ofValue hof]
    exact hb
  next =>
    cases hq
    -- the action itself has no number
    obtain ⟨v, hv⟩ := Option.isSome_iff_exists.mp hpid
    have hnone := get?_unknown h hs (k := "pid") (by decide)
    have hsome : s'.get? "pid" = some v := hlookup "pid" v hv
    rw [hnone] at hsome
    cases hsome

/-- A unit type without a validator, with its unit, is one of the two
orders of city foundation. -/
theorem ordersFoundation_of_type (h : sanitizeActionData rt action = .ok s)
    (hs : HandedOn playerId s s') {type : ActionType}
    (htype : ((s'.get? "type").bind PyVal.str?).bind ActionType.ofValue
      = some type) (hmem : type ∈ foundationTypes) {v : PyVal}
    (hv : s'.get? "unit_id" = some v) : OrdersFoundation action := by
  rw [get?_handedOn hs (by decide)] at htype hv
  obtain ⟨u, hu, hof⟩ := Option.bind_eq_some_iff.mp htype
  obtain ⟨w, hw, hwu⟩ := Option.bind_eq_some_iff.mp hu
  obtain ⟨t, s₁, hact, h₁, h₂⟩ := sanitizeActionData_eq_ok h
  have hclean : clean t = type.value := by
    have hwt := type_sanitized h hact hw
    subst hwt
    cases hwu
    exact (value_of_ofValue hof).symm
  rw [get?_safeFields h₂ (by decide) (by decide)] at hv
  have hstart : (cleanType t).get? "unit_id" = none := by
    unfold cleanType
    split
    · rfl
    · rw [Dict.get?_set_of_ne _ _ (by decide)]
      rfl
  have hcontains : action.contains "unit_id" = true := by
    have hok := fieldOk_sanitized h "unit_id" v
      (by rw [get?_safeFields h₂ (by decide) (by decide), hv])
    rcases hok.2.2 with hne | hc
    · exact absurd hne (by decide)
    · exact hc
  refine ⟨t, hact, startsWith_of_unit_id h₁ hstart hv, ?_, hcontains⟩
  rw [hclean]
  revert hmem
  cases type <;> decide

-- ==== the two that go through

theorem validateByType_foundation {type : ActionType}
    {gs : Option StateDict} (h : type ∈ foundationTypes)
    (hsize : action.size ≤ 20) :
    validateByType rt action type playerId gs = .ok () := by
  have hbasic : validateBasicAction action = .ok () := by
    unfold validateBasicAction
    rw [if_neg (by omega)]
  unfold foundationTypes at h
  rcases List.mem_pair.mp h with rfl | rfl
  · exact hbasic
  · exact hbasic

/-- A sanitised action has at most as many fields as there are known
ones. -/
theorem size_sanitized (h : sanitizeActionData rt action = .ok s) :
    s.size ≤ 20 := by
  have hsub : s.keys ⊆ sanitizedKeys := by
    intro k hk
    obtain ⟨v, hv⟩ := Dict.mem_keys_iff.mp hk
    exact (fieldOk_sanitized h k v hv).1
  have hlength := (List.subperm_of_subset s.nodup hsub).length_le
  have hknown : sanitizedKeys.length = 18 := rfl
  rw [List.length_map] at hlength
  unfold Dict.size
  omega

theorem convert_foundation {civcom : Option Mirror} {found : Bool}
    {type : ActionType} {v : PyVal} (h : type ∈ foundationTypes)
    (ht : action.get? "type" = some (.str type.value))
    (hv : action.get? "unit_id" = some v) :
    ∃ p, convertActionToPacket rt civcom action found = .ok p
      ∧ p.lookup "pid" = some (.int 84)
      ∧ p.lookup "actor_id" = some v := by
  have hneed : need action "unit_id" = .ok v := need_eq_ok.mpr hv
  obtain ⟨n, hbranch⟩ : ∃ n, branchOf action = some (onCity n) := by
    unfold branchOf
    rw [ht]
    rcases List.mem_pair.mp h with rfl | rfl
    · exact ⟨28, by decide +kernel⟩
    · exact ⟨32, by decide +kernel⟩
  unfold convertActionToPacket convertImpl
  rw [hbranch]
  simp only [onCity, onFields, convertBranch, convertDoAction, hneed]
  refine ⟨_, rfl, ?_, ?_⟩
  · cases found
    · rfl
    · rfl
  · cases found
    · rfl
    · rfl

/-- What the sanitizer makes of an order of city foundation: its type
and its unit are still there. -/
theorem sanitized_foundation (h : sanitizeActionData rt action = .ok s)
    (ho : OrdersFoundation action) :
    ∃ type n, type ∈ foundationTypes
      ∧ s.get? "type" = some (.str type.value)
      ∧ s.get? "unit_id" = some (.int n) := by
  obtain ⟨t, hact, hstart, hclean, hunit⟩ := ho
  obtain ⟨u, s₁, hact', h₁, h₂⟩ := sanitizeActionData_eq_ok h
  rw [hact] at hact'
  cases hact'
  -- a raw type that is cleaned to one of the two has no branch of its own
  have hne : ∀ w, (PyStr.startsWith w "unit_" = false
      ∨ clean w ∉ ["unit_join_city", "unit_home_city"]) → t ≠ w := by
    intro w hw hwt
    subst hwt
    rcases hw with hw | hw
    · rw [hstart] at hw
      cases hw
    · exact hw hclean
  have hdiplomacy : ¬ PyStr.startsWith t "diplomacy_" = true := by
    intro hd
    rcases PyStr.startsWith_or hstart hd with hc | hc
    · exact absurd hc (by decide)
    · exact absurd hc (by decide)
  unfold branchFields at h₁
  rw [if_neg (hne _ (Or.inr (by decide +kernel))),
    if_neg (by
      rintro (hc | hc)
      · exact hne _ (Or.inl (by decide +kernel)) hc
      · exact hne _ (Or.inl (by decide +kernel)) hc),
    if_neg (hne _ (Or.inl (by decide +kernel))),
    if_neg (hne _ (Or.inr (by decide +kernel))),
    if_neg hdiplomacy, if_pos hstart] at h₁
  obtain ⟨htype, hid⟩ := unitFields_spec h₁
  obtain ⟨v, hv⟩ := Dict.contains_iff.mp hunit
  obtain ⟨n, hn⟩ := hid v hv
  have hempty : t ≠ "" := hne _ (Or.inl (by decide +kernel))
  have hkept : s.get? "type" = some (.str (clean t)) := by
    rw [get?_safeFields h₂ (by decide) (by decide), htype]
    unfold cleanType
    rw [if_neg hempty, Dict.get?_set_self]
  have hunitId : s.get? "unit_id" = some (.int n) := by
    rw [get?_safeFields h₂ (by decide) (by decide), hn]
  rcases List.mem_pair.mp hclean with hc | hc
  · exact ⟨.unitJoinCity, n, by decide, by rw [hkept, hc]; rfl, hunitId⟩
  · exact ⟨.unitHomeCity, n, by decide, by rw [hkept, hc]; rfl, hunitId⟩

-- ==== the main result

variable {found : Bool}

def emptyState : StateDict :=
  [(.str "units", .dict []), (.str "cities", .dict [])]

theorem present_emptyState : Present emptyState :=
  ⟨⟨.dict [], rfl⟩, .dict [], rfl⟩

theorem not_owned_emptyState {playerId : Int} {v : PyVal} :
    ¬ Owned rt "units" emptyState playerId v := by
  rintro ⟨things, n, u, hs, _, hu, _⟩
  have hthings : PyVal.dict [] = things := Option.some.inj hs
  subst hthings
  obtain ⟨k, hk, _⟩ := hu
  cases hk

/-- An order of city foundation goes through against a state without a
single unit. -/
theorem not_ownOnly_of_foundation (ho : OrdersFoundation action)
    (h : sanitizeActionData rt action = .ok s) :
    ¬ OwnOnly rt found action := by
  intro hown
  obtain ⟨type, n, hmem, htype, hid⟩ := sanitized_foundation h ho
  -- a player the action names, or anybody
  obtain ⟨playerId, hplayer⟩ : ∃ playerId : Int,
      ((s.get? "player_id").getD (.int playerId)).eq (.int playerId) = true := by
    cases hp : s.get? "player_id" with
    | none => exact ⟨0, by simp⟩
    | some v =>
      obtain ⟨m, rfl⟩ := (fieldOk_sanitized h _ _ hp).2.1 (by decide)
      exact ⟨m, by simp⟩
  have hvalid : validateAction rt s playerId (some emptyState) = .ok () := by
    have hof : ActionType.ofValue type.value = some type := by
      rcases List.mem_pair.mp hmem with rfl | rfl
      · decide +kernel
      · decide +kernel
    unfold validateAction
    rw [htype]
    simp only [PyVal.str?, Option.bind_some, hof]
    rw [if_pos hplayer]
    exact validateByType_foundation hmem (size_sanitized h)
  obtain ⟨p, hp, hpid, hactor⟩ : ∃ p,
      convertActionToPacket rt none s found = .ok p
        ∧ p.lookup "pid" = some (.int 84)
        ∧ p.lookup "actor_id" = some (.int n) :=
    convert_foundation hmem htype hid
  have howned := (hown playerId emptyState none s s p present_emptyState h
    (Or.inl rfl) hvalid hp (by rw [hpid]; rfl)).1 "actor_id" (by simp) _ hactor
  exact not_owned_emptyState howned

theorem ownOnly_of_not_foundation
    (hno : ∀ s, sanitizeActionData rt action = .ok s →
      ¬ OrdersFoundation action) : OwnOnly rt found action := by
  intro playerId gameState civcom s s' p hpresent h hs hvalid hp hpid
  obtain ⟨⟨units, hunits⟩, cities, hcities⟩ := hpresent
  obtain ⟨type, htype, hby⟩ := validateAction_ok hvalid
  obtain ⟨b, q, hb, hq, hpq⟩ := converted_by_type h hs hp hpid htype
  have hagree := tablesAgree_of_type hb
  unfold tablesAgree at hagree
  rw [Bool.and_eq_true, Bool.and_eq_true] at hagree
  obtain ⟨⟨hactor, hunit⟩, hcity⟩ := hagree
  have htransport := get?_unknown h hs (k := "transport_id") (by decide)
  have hactorId := get?_unknown h hs (k := "actor_id") (by decide)
  refine ⟨?_, ?_⟩
  · intro k hk v hv
    obtain ⟨hordered, hid⟩ := orders_unit_id hq hactor htransport
      (List.mem_pair.mp hk) (hpq k v hv)
    obtain ⟨n, rfl⟩ := (fieldOk_handedOn h hs hid).2 (by decide)
    have hcategory : type.category ∈ unitCategories := by
      rw [hordered] at hunit
      simpa using hunit
    exact validateByType_unit hby hcategory
      (fun hmem => hno s h (ordersFoundation_of_type h hs htype hmem hid))
      hid hactorId hunits
  · intro v hv
    obtain ⟨hordered, hid⟩ := orders_city_id hq (hpq "city_id" v hv)
    obtain ⟨n, rfl⟩ := (fieldOk_handedOn h hs hid).2 (by decide)
    have hcategory : type.category = .cityManagement := by
      rw [hordered] at hcity
      simpa using hcity
    exact validateByType_city hby hcategory hid hcities

/-- An action orders own units and cities only, unless it passes the
sanitizer and sends a unit to join a city or to make it its home. -/
theorem own_only_iff (rt : PyRuntime) (found : Bool) (action : PyDict) :
    OwnOnly rt found action ↔
      ¬ (OrdersFoundation action
        ∧ ∃ s, sanitizeActionData rt action = .ok s) := by
  constructor
  · rintro hown ⟨ho, s, h⟩
    exact not_ownOnly_of_foundation ho h hown
  · intro hno
    exact ownOnly_of_not_foundation fun s h ho => hno ⟨ho, s, h⟩

def foreignUnit : StateDict :=
  [(.str "units", .dict [(.str "7", .dict [(.str "id", .int 7),
      (.str "owner", .int 2)])]),
    (.str "cities", .dict [])]

/-- Player 1 sends unit 7, which belongs to player 2, to join a city. -/
def joinCity : PyDict :=
  Dict.ofList [("type", .str "unit_join_city"), ("unit_id", .int 7)]

/-- The order of player 1 to a unit of player 2 becomes a packet. -/
theorem foreign_unit_joins_city : ¬ OwnOnly .ascii true joinCity := by
  intro hown
  have hs : sanitizeActionData .ascii joinCity = .ok joinCity := by rfl
  have hvalid : validateAction .ascii joinCity 1 (some foreignUnit)
      = .ok () := by decide +kernel
  have htype : joinCity.get? "type"
      = some (.str ActionType.unitJoinCity.value) :=
    rfl
  obtain ⟨p, hp, hpid, hactor⟩ : ∃ p,
      convertActionToPacket .ascii none joinCity true = .ok p
        ∧ p.lookup "pid" = some (.int 84)
        ∧ p.lookup "actor_id" = some (.int 7) :=
    convert_foundation (by decide) htype rfl
  have howned := (hown 1 foreignUnit none _ _ p ⟨⟨_, rfl⟩, _, rfl⟩ hs
    (Or.inl rfl) hvalid hp (by rw [hpid]; rfl)).1 "actor_id" (by simp) _ hactor
  obtain ⟨things, n, u, hthings, _, hu, hplayer⟩ := howned
  cases hthings
  obtain ⟨k, hk, _⟩ := hu
  -- the only unit has another owner
  cases List.mem_singleton.mp hk
  exact absurd hplayer (by decide +kernel)

end chain

end OwnCommands

end Freeciv3d.Proxy
