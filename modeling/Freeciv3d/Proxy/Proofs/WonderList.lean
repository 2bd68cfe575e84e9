/-
`get_player_wonders` is right exactly for the players without wonders.

No record of a city has a bitvector of its improvements, since the
PACKET_CITY_INFO handler drops it. So every list that is computed is
empty, and so is every list in the cache: what the cache invalidates,
and which owner it does it for, makes no difference (`Blind`).
-/
import Freeciv3d.Proxy.CityStores

namespace Freeciv3d.Proxy

open Lib

namespace WonderWorld

variable {rt : PyRuntime} {w w' : WonderWorld} {player : Int}

-- ==== the statement

/-- A city of the player has the improvement, by the last
PACKET_CITY_INFO of the city. -/
def Owns (w : WonderWorld) (player : Int) (id : Nat) : Prop :=
  ∃ cityId info, w.infos.get? cityId = some info
    ∧ info.owner = some player
    ∧ CityStores.isSet (info.improvements.getD []) id = true

/-- The list names the wonders that the player's cities have. -/
def ListsWonders (rt : PyRuntime) (w : WonderWorld) (player : Int) : Prop :=
  ∀ id building, w.stores.improvements.get? id = some building →
    Mirror.isWonder building = true →
    (building.name ∈ (w.stores.getPlayerWonders rt player).2
      ↔ w.Owns player id)

/-- The player's cities have no wonder. -/
def WithoutWonders (w : WonderWorld) (player : Int) : Prop :=
  ∀ id building, w.stores.improvements.get? id = some building →
    Mirror.isWonder building = true → ¬ w.Owns player id

-- ==== the invariant

/-- No record has a bitvector, and no cached list an element. -/
structure Blind (s : CityStores) : Prop where
  records : ∀ cityId city, s.playerCities.get? cityId = some city →
    city.improvements = none
  cached : Memo.Coherent (fun _ => True) s.wonderCache fun _ => []

theorem Blind.playerHasWonder {s : CityStores} (h : Blind s) (name : String) :
    s.playerHasWonder rt player name = false := by
  refine List.any_eq_false.mpr fun city hcity => ?_
  obtain ⟨cityId, hget⟩ := Dict.mem_values_iff.mp hcity
  have hnone : s.cityHasImprovement rt city name = false := by
    unfold CityStores.cityHasImprovement
    rw [h.records cityId city hget]
  rw [hnone]
  simp

theorem Blind.getPlayerWonders {s : CityStores} (h : Blind s)
    (rt : PyRuntime) (player : Int) :
    (s.getPlayerWonders rt player).2 = []
      ∧ Blind (s.getPlayerWonders rt player).1 := by
  have hempty : (s.improvements.values.filter fun building =>
      Mirror.isWonder building ∧ building.name ≠ ""
        ∧ s.playerHasWonder rt player building.name) = [] := by
    refine List.filter_eq_nil_iff.mpr fun building _ => ?_
    rw [h.playerHasWonder]
    simp
  unfold CityStores.getPlayerWonders
  rw [hempty]
  exact ⟨h.cached.ask_snd trivial, h.records, h.cached.ask_fst⟩

theorem Blind.handleRulesetBuilding {s : CityStores} (h : Blind s)
    (packet : RulesetBuilding) : Blind (s.handleRulesetBuilding packet) := by
  unfold CityStores.handleRulesetBuilding
  split
  case h_1 =>
    split
    case isTrue => exact h
    case isFalse => exact ⟨h.records, h.cached⟩
  case h_2 => exact h

theorem Blind.evict {s : CityStores} (h : Blind s) (owner : Int) :
    Memo.Coherent (fun _ => True) (s.wonderCache.erase owner)
      fun _ => ([] : List String) :=
  h.cached.evict fun _ _ _ _ _ => ⟨trivial, rfl⟩

theorem Blind.handleCityInfo {s : CityStores} (h : Blind s)
    (packet : CityInfoPacket) : Blind (s.handleCityInfo packet) := by
  unfold CityStores.handleCityInfo
  split
  case h_1 id owner _ _ =>
    refine ⟨fun cityId city hcity => ?_, h.evict owner⟩
    rw [Dict.get?_set] at hcity
    split at hcity
    case isTrue =>
      cases hcity
      rfl
    case isFalse => exact h.records cityId city hcity
  case h_2 => exact h

theorem Blind.handleCityRemove {s : CityStores} (h : Blind s)
    (cityId : Option Int) : Blind (s.handleCityRemove cityId) := by
  unfold CityStores.handleCityRemove
  split
  case h_1 id =>
    split
    case h_1 removed _ =>
      refine ⟨fun c city hcity => ?_, h.evict removed.owner⟩
      rw [Dict.get?_erase] at hcity
      exact h.records c city (Option.ite_none_left_eq_some.mp hcity).2
    case h_2 => exact h
  case h_2 => exact h

theorem Blind.step (h : Blind w.stores) (a : WonderAct) :
    Blind (w.step rt a).stores := by
  cases a with
  | rulesetBuilding packet => exact h.handleRulesetBuilding packet
  | cityInfo packet => exact h.handleCityInfo packet
  | cityRemove cityId => exact h.handleCityRemove cityId
  | query player => exact (h.getPlayerWonders rt player).2

theorem blind_of_reach (h : (wonderRuns rt).Reach w) : Blind w.stores := by
  refine h.invariant (I := fun w => Blind w.stores) (fun w h0 => ?_)
    fun w a w' hI hs => ?_
  · cases h0
    exact ⟨fun cityId city hcity => (by cases hcity), Memo.Coherent.empty⟩
  · cases hs
    exact hI.step a

/-- In every state that any packets and queries lead to, the list of a
player's wonders is right exactly when the player's cities have none. -/
theorem wonder_list_iff (h : (wonderRuns rt).Reach w) (player : Int) :
    ListsWonders rt w player ↔ w.WithoutWonders player := by
  have hempty := ((blind_of_reach h).getPlayerWonders rt player).1
  unfold ListsWonders WithoutWonders
  rw [hempty]
  constructor
  · intro hright id building hget hwonder howns
    exact List.not_mem_nil ((hright id building hget hwonder).mpr howns)
  · intro hnone id building hget hwonder
    constructor
    · exact fun hmem => absurd hmem List.not_mem_nil
    · exact fun howns => absurd howns (hnone id building hget hwonder)

-- ==== runs

def afterActs (acts : List WonderAct) : WonderWorld :=
  ((wonderRuns .ascii).exec ⟨.init, ∅⟩ acts).getD ⟨.init, ∅⟩

def pyramidsBuilt : List WonderAct :=
  [.rulesetBuilding ⟨some 3, some "Pyramids", some "w_pyramids"⟩,
    .cityInfo ⟨some 7, some 1, some "Memphis", some 0, some [8]⟩]

theorem reach_afterActs (acts : List WonderAct) :
    (wonderRuns .ascii).Reach (afterActs acts) := by
  have hinit : (wonderRuns .ascii).init ⟨.init, ∅⟩ := rfl
  exact (Lts.Reach.init hinit).exec_getD acts

/-- Player 1 has the Pyramids, and they are not listed. -/
theorem wonder_list_fails :
    (wonderRuns .ascii).Reach (afterActs pyramidsBuilt)
      ∧ ¬ ListsWonders .ascii (afterActs pyramidsBuilt) 1 := by
  refine ⟨reach_afterActs pyramidsBuilt, fun h => ?_⟩
  have howns : (afterActs pyramidsBuilt).Owns 1 3 :=
    ⟨7, ⟨some 7, some 1, some "Memphis", some 0, some [8]⟩, rfl, rfl, rfl⟩
  have hlisted := (h 3 ⟨"Pyramids", "w_pyramids"⟩ rfl rfl).mpr howns
  cases hlisted

/-- Player 2 has no city. -/
theorem wonder_list_of_other :
    ListsWonders .ascii (afterActs pyramidsBuilt) 2 := by
  refine (wonder_list_iff (reach_afterActs pyramidsBuilt) 2).mpr ?_
  rintro id building - - ⟨cityId, info, hinfo, howner, -⟩
  have honly : info
      = ⟨some 7, some 1, some "Memphis", some 0, some [8]⟩ := by
    have hmem := Dict.mem_entries_iff.mpr hinfo
    cases List.mem_singleton.mp hmem
    rfl
  rw [honly] at howner
  cases howner

end WonderWorld

end Freeciv3d.Proxy
