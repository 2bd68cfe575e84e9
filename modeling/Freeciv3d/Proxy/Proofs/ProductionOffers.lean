/-
The production offers of a city are among what its last
PACKET_WEB_CITY_INFO_ADDITION allows: in the runs in which that packet
allows everything.

No record has the bitvectors that `can_city_build_unit` and
`can_city_build_improvement` ask for, so every city is offered every
unit type and improvement of the ruleset (`offered_of_uncached`). The
offers are right while the additions of the known cities allow all of these
(`Covered`). Tables and cities only grow in these runs, so what a cached
list offers is still in the tables when it is asked for again.
-/
import Freeciv3d.Proxy.CityStores

namespace Freeciv3d.Proxy

open Lib

namespace ProductionWorld

variable {w w' : ProductionWorld} {s s' : CityStores}

-- ==== the statement

/-- The bit of what the action produces is set in the addition. -/
def AllowedBy (add : CityAddition) (action : ProductionAction) : Prop :=
  (action.productionKind = RulesetMapper.vutUtype →
      CityStores.isSet (add.canBuildUnit.getD []) action.productionValue
        = true)
    ∧ (action.productionKind = RulesetMapper.vutImprovement →
      CityStores.isSet (add.canBuildImprovement.getD [])
        action.productionValue = true)

/-- Every offer of a query is allowed by the last addition of its
city. -/
def OffersAllowed (w : ProductionWorld) : Prop :=
  ∀ player maxCities,
    ∀ action ∈ (w.stores.getCityProductionActions player maxCities).2,
      ∀ add, w.additions.get? action.cityId = some add →
        AllowedBy add action

/-- The addition allows every unit type and improvement there is. -/
def AllowsAll (s : CityStores) (add : CityAddition) : Prop :=
  (∀ id name, s.unitTypes.get? id = some name →
      CityStores.isSet (add.canBuildUnit.getD []) id = true)
    ∧ ∀ id building, s.improvements.get? id = some building →
      CityStores.isSet (add.canBuildImprovement.getD []) id = true

/-- The packet leaves every known city with an addition that allows
all. -/
def KeepsAllowing (w : ProductionWorld) : ProductionAct → Prop
  | .rulesetUnit packet =>
    ∀ id ∈ packet.id, ∀ name ∈ packet.name, name ≠ "" →
      ∀ cityId city add, w.stores.playerCities.get? cityId = some city →
        w.additions.get? cityId = some add →
        CityStores.isSet (add.canBuildUnit.getD []) id = true
  | .rulesetBuilding packet =>
    ∀ id ∈ packet.id, ∀ name ∈ packet.name, name ≠ "" →
      ∀ cityId city add, w.stores.playerCities.get? cityId = some city →
        w.additions.get? cityId = some add →
        CityStores.isSet (add.canBuildImprovement.getD []) id = true
  | .cityInfo packet =>
    ∀ id ∈ packet.id, packet.owner ≠ none →
      ∀ add, w.additions.get? id = some add → AllowsAll w.stores add
  | .addition packet =>
    ∀ id ∈ packet.id, (∃ city, w.stores.playerCities.get? id = some city) →
      AllowsAll w.stores packet
  | .gameInfo _ => True
  | .query _ _ => True

-- ==== the offers

/-- What an action produces is in the tables, and its city is known. -/
def Known (s : CityStores) (action : ProductionAction) : Prop :=
  (∃ city, s.playerCities.get? action.cityId = some city)
    ∧ ((action.productionKind = RulesetMapper.vutUtype
        ∧ ∃ name, s.unitTypes.get? action.productionValue = some name)
      ∨ (action.productionKind = RulesetMapper.vutImprovement
        ∧ ∃ building,
          s.improvements.get? action.productionValue = some building))

theorem known_of_cityActions {e : Int × CityRecord}
    (he : e ∈ s.playerCities.entries) {action : ProductionAction}
    (h : action ∈ s.cityActions e) : Known s action := by
  have hcity : s.playerCities.get? e.1 = some e.2 :=
    Dict.mem_entries_iff.mp he
  rcases List.mem_append.mp h with hunit | hbuilding
  · obtain ⟨unit, hmem, hsome⟩ := List.mem_filterMap.mp hunit
    obtain ⟨-, hact⟩ := Option.ite_none_right_eq_some.mp hsome
    cases hact
    exact ⟨⟨e.2, hcity⟩,
      .inl ⟨rfl, unit.2, Dict.mem_entries_iff.mp hmem⟩⟩
  · obtain ⟨building, hmem, hsome⟩ := List.mem_filterMap.mp hbuilding
    obtain ⟨-, hact⟩ := Option.ite_none_right_eq_some.mp hsome
    cases hact
    exact ⟨⟨e.2, hcity⟩,
      .inr ⟨rfl, building.2, Dict.mem_entries_iff.mp hmem⟩⟩

theorem citiesOf_subset (s : CityStores) (player : Int)
    (maxCities : Option Int) :
    s.citiesOf player maxCities ⊆ s.playerCities.entries := by
  intro e he
  unfold CityStores.citiesOf at he
  cases maxCities with
  | none => exact List.mem_of_mem_filter he
  | some n => exact List.mem_of_mem_filter (List.mem_of_mem_take he)

theorem known_of_computed {player : Int} {maxCities : Option Int}
    {action : ProductionAction}
    (h : action ∈ (s.citiesOf player maxCities).flatMap s.cityActions) :
    Known s action := by
  obtain ⟨e, he, hact⟩ := List.mem_flatMap.mp h
  exact known_of_cityActions (citiesOf_subset s player maxCities he) hact

-- ==== the invariant

/-- Nothing that is known is lost. -/
structure Grows (s s' : CityStores) : Prop where
  cities : ∀ k, (∃ c, s.playerCities.get? k = some c) →
    ∃ c, s'.playerCities.get? k = some c
  unitTypes : ∀ k, (∃ n, s.unitTypes.get? k = some n) →
    ∃ n, s'.unitTypes.get? k = some n
  improvements : ∀ k, (∃ b, s.improvements.get? k = some b) →
    ∃ b, s'.improvements.get? k = some b

theorem Known.mono {action : ProductionAction} (h : Known s action)
    (hg : Grows s s') : Known s' action := by
  refine ⟨hg.cities _ h.1, ?_⟩
  rcases h.2 with ⟨hkind, hname⟩ | ⟨hkind, hbuilding⟩
  · exact .inl ⟨hkind, hg.unitTypes _ hname⟩
  · exact .inr ⟨hkind, hg.improvements _ hbuilding⟩

/-- The additions of the known cities allow all, and the cached offers
are of known things. -/
structure Covered (w : ProductionWorld) : Prop where
  allows : ∀ cityId city add,
    w.stores.playerCities.get? cityId = some city →
    w.additions.get? cityId = some add → AllowsAll w.stores add
  cached : ∀ key actions, w.stores.actionCache.get? key = some actions →
    ∀ action ∈ actions, Known w.stores action

theorem Covered.offersAllowed (h : w.Covered) : w.OffersAllowed := by
  intro player maxCities action haction add hadd
  have hknown : Known w.stores action := by
    unfold CityStores.getCityProductionActions Memo.ask at haction
    split at haction
    rename_i cache actions hask
    split at hask
    case h_1 kept hkept =>
      cases hask
      exact h.cached _ _ hkept action haction
    case h_2 =>
      cases hask
      exact known_of_computed haction
  obtain ⟨⟨city, hcity⟩, hthing⟩ := hknown
  obtain ⟨hunits, hbuildings⟩ := h.allows _ city add hcity hadd
  constructor
  · intro hkind
    rcases hthing with ⟨-, name, hname⟩ | ⟨hother, -⟩
    · exact hunits _ name hname
    · rw [hkind] at hother
      cases hother
  · intro hkind
    rcases hthing with ⟨hother, -⟩ | ⟨-, building, hbuilding⟩
    · rw [hkind] at hother
      cases hother
    · exact hbuildings _ building hbuilding

-- ==== the packets

theorem exists_get?_set {κ ν : Type} [DecidableEq κ] {d : Dict κ ν}
    {j k : κ} {u : ν} (h : ∃ v, d.get? k = some v) :
    ∃ v, (d.set j u).get? k = some v := by
  rw [Dict.get?_set]
  split
  · exact ⟨u, rfl⟩
  · exact h

theorem Covered.of_grows (h : w.Covered) (hg : Grows w.stores w'.stores)
    (hcache : w'.stores.actionCache = w.stores.actionCache)
    (hallows : ∀ cityId city add,
      w'.stores.playerCities.get? cityId = some city →
      w'.additions.get? cityId = some add → AllowsAll w'.stores add) :
    w'.Covered := by
  refine ⟨hallows, fun key actions hkey action haction => ?_⟩
  rw [hcache] at hkey
  exact (h.cached key actions hkey action haction).mono hg

theorem Covered.rulesetUnit (h : w.Covered) {packet : RulesetUnit}
    (hc : w.KeepsAllowing (.rulesetUnit packet)) :
    (w.step (.rulesetUnit packet)).Covered := by
  unfold ProductionWorld.step CityStores.handleRulesetUnit
  dsimp only
  split
  case h_1 id name hid hname =>
    split
    case isTrue => exact h
    case isFalse hne =>
      refine h.of_grows ⟨fun _ hk => hk, fun _ hk => exists_get?_set hk,
        fun _ hk => hk⟩ rfl fun cityId city add hcity hadd => ?_
      obtain ⟨hunits, hbuildings⟩ := h.allows cityId city add hcity hadd
      refine ⟨fun id' name' hget => ?_, hbuildings⟩
      rw [Dict.get?_set] at hget
      split at hget
      case isTrue hsame =>
        rw [hsame]
        exact hc id hid name hname hne cityId city add hcity hadd
      case isFalse => exact hunits id' name' hget
  case h_2 => exact h

theorem Covered.rulesetBuilding (h : w.Covered) {packet : RulesetBuilding}
    (hc : w.KeepsAllowing (.rulesetBuilding packet)) :
    (w.step (.rulesetBuilding packet)).Covered := by
  unfold ProductionWorld.step CityStores.handleRulesetBuilding
  dsimp only
  split
  case h_1 id name hid hname =>
    split
    case isTrue => exact h
    case isFalse hne =>
      refine h.of_grows ⟨fun _ hk => hk, fun _ hk => hk,
        fun _ hk => exists_get?_set hk⟩ rfl
        fun cityId city add hcity hadd => ?_
      obtain ⟨hunits, hbuildings⟩ := h.allows cityId city add hcity hadd
      refine ⟨hunits, fun id' building hget => ?_⟩
      rw [Dict.get?_set] at hget
      split at hget
      case isTrue hsame =>
        rw [hsame]
        exact hc id hid name hname hne cityId city add hcity hadd
      case isFalse => exact hbuildings id' building hget
  case h_2 => exact h

theorem Covered.cityInfo (h : w.Covered) {packet : CityInfoPacket}
    (hc : w.KeepsAllowing (.cityInfo packet)) :
    (w.step (.cityInfo packet)).Covered := by
  unfold ProductionWorld.step CityStores.handleCityInfo
  dsimp only
  split
  case h_1 id owner hid howner =>
    refine h.of_grows ⟨fun _ hk => exists_get?_set hk, fun _ hk => hk,
      fun _ hk => hk⟩ rfl fun cityId city add hcity hadd => ?_
    have hall : AllowsAll w.stores add := by
      rw [Dict.get?_set] at hcity
      split at hcity
      case isTrue hsame =>
        rw [hsame] at hadd
        exact hc id hid (by rw [howner]; exact Option.some_ne_none _) add
          hadd
      case isFalse => exact h.allows cityId city add hcity hadd
    exact hall
  case h_2 => exact h

theorem Covered.receiveAddition (h : w.Covered) {packet : CityAddition}
    (hc : w.KeepsAllowing (.addition packet)) :
    (w.receiveAddition packet).Covered := by
  unfold ProductionWorld.receiveAddition CityStores.handleAddition
  split
  case h_1 id hid =>
    have hknown : ∀ {k city}, (w.stores.playerCities.modify id fun city =>
          { city with canBuild := some (w.stores.buildables packet) }).get? k
          = some city →
        ∃ c, w.stores.playerCities.get? k = some c := by
      intro k city hcity
      rw [Dict.get?_modify] at hcity
      split at hcity
      · exact (Option.map_eq_some_iff.mp hcity).imp fun _ hc => hc.1
      · exact ⟨city, hcity⟩
    refine h.of_grows ⟨fun k hk => ?_, fun _ hk => hk, fun _ hk => hk⟩ rfl
      fun cityId city add hcity hadd => ?_
    · obtain ⟨city, hcity⟩ := hk
      rw [Dict.get?_modify, hcity]
      split <;> exact ⟨_, rfl⟩
    · obtain ⟨old, hold⟩ := hknown hcity
      have hall : AllowsAll w.stores add := by
        rw [Dict.get?_set] at hadd
        split at hadd
        case isTrue hsame =>
          cases hadd
          exact hc id hid ⟨old, hsame ▸ hold⟩
        case isFalse => exact h.allows cityId old add hold hadd
      exact hall
  case h_2 => exact h

theorem Covered.query (h : w.Covered) (player : Int)
    (maxCities : Option Int) : (w.step (.query player maxCities)).Covered := by
  refine ⟨h.allows, fun key actions hkey action haction => ?_⟩
  unfold ProductionWorld.step CityStores.getCityProductionActions
    Memo.ask at hkey
  dsimp only at hkey
  split at hkey
  case h_1 => exact h.cached key actions hkey action haction
  case h_2 =>
    rw [Dict.get?_set] at hkey
    split at hkey
    case isTrue =>
      cases hkey
      exact known_of_computed haction
    case isFalse => exact h.cached key actions hkey action haction

theorem Covered.step (h : w.Covered) {a : ProductionAct}
    (hc : w.KeepsAllowing a) : (w.step a).Covered := by
  cases a with
  | rulesetUnit packet => exact h.rulesetUnit hc
  | rulesetBuilding packet => exact h.rulesetBuilding hc
  | cityInfo packet => exact h.cityInfo hc
  | addition packet => exact h.receiveAddition hc
  | gameInfo turn => exact ⟨h.allows, h.cached⟩
  | query player maxCities => exact h.query player maxCities

/-- While the additions of the known cities allow every unit type and
improvement of the ruleset, every offer is allowed by the last addition
of its city. -/
theorem production_offers_allowed
    (h : productionRuns.ReachVia KeepsAllowing w) : w.OffersAllowed := by
  have hcovered : w.Covered := by
    refine h.invariant (I := Covered) (fun w₀ h0 => ?_)
      fun w₀ a w₁ hI hc hs => ?_
    · cases h0
      exact ⟨fun _ _ _ hcity => (by cases hcity),
        fun _ _ hkey => (by cases hkey)⟩
    · cases hs
      exact hI.step hc
  exact hcovered.offersAllowed

-- ==== the fall-back

-- ==== runs

def afterActs (acts : List ProductionAct) : ProductionWorld :=
  (productionRuns.exec ⟨.init, ∅⟩ acts).getD ⟨.init, ∅⟩

/-- Unit types 1 and 2, a city of player 0, and what it may build. -/
def cityThatMayBuild (raw : List Nat) : List ProductionAct :=
  [.rulesetUnit ⟨some 1, some "Warriors"⟩,
    .rulesetUnit ⟨some 2, some "Phalanx"⟩,
    .cityInfo ⟨some 7, some 0, some "Rome", some 0, none⟩,
    .addition ⟨some 7, some raw, some []⟩]

/-- The city may build Warriors alone and is offered a Phalanx. -/
theorem production_offers_allowed_fails :
    productionRuns.Reach (afterActs (cityThatMayBuild [2]))
      ∧ ¬ (afterActs (cityThatMayBuild [2])).OffersAllowed := by
  have hinit : productionRuns.init ⟨.init, ∅⟩ := rfl
  refine ⟨(Lts.Reach.init hinit).exec_getD _, fun h => ?_⟩
  have hphalanx := (h 0 none
    ⟨"city_production", 7, "Rome", "Phalanx", 6, 2, "finished"⟩ (by decide)
    ⟨some 7, some [2], some []⟩ rfl).1 rfl
  exact absurd hphalanx (by decide)

/-- The city may build both. -/
theorem production_offers_allowed_of_both :
    (afterActs (cityThatMayBuild [6])).OffersAllowed := by
  have hinit : productionRuns.ReachVia KeepsAllowing ⟨.init, ∅⟩ :=
    .init rfl
  refine production_offers_allowed
    (hinit.exec (l := cityThatMayBuild [6]) ?_ rfl)
  refine ⟨?_, ?_, ?_, ?_, trivial⟩
  · intro _ _ _ _ _ _ _ _ hcity
    cases hcity
  · intro _ _ _ _ _ _ _ _ hcity
    cases hcity
  · intro _ _ _ _ hadd
    cases hadd
  · intro _ _ _
    refine ⟨fun id name hname => ?_,
      fun _ _ hbuilding => (by cases hbuilding)⟩
    have hboth : ∀ unit ∈ [((1 : Nat), "Warriors"), (2, "Phalanx")],
        CityStores.isSet [6] unit.1 = true := by decide
    exact hboth (id, name) (Dict.mem_entries_iff.mpr hname)

end ProductionWorld

end Freeciv3d.Proxy
