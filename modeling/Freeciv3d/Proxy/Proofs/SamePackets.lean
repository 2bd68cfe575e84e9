/-
Sanitised and original action, converted: when the two packets are the
same.

# What gets lost

The converter takes most parameters from the first of several fields
that is given, and the sanitizer copies the fields of the type's route.
Where the first field that is given is not copied, a later one or the
default stands in its place, and the packet is another order.
`KeepsReads` says, for each branch of the converter, that this does not
happen; for texts, that cleaning leaves them as they are.

# How the proof goes

`get?_sent` answers every field of the sanitised action from the original
one, `firstOf_sent` every chain of alternatives. A branch then has two
packets that differ in known places (`samePacket_iff`), and the packets
that leave are equal when these places are (`lookup_packetSent`).
-/
import Freeciv3d.Proxy.Proofs.KeptFields
import Freeciv3d.Proxy.Proofs.OwnCommands

namespace Freeciv3d.Proxy

open Lib ActionSanitizer ActionValidator ActionPackets CoordinateUtils
open MovesTracking

namespace SamePackets

open KeptFields

-- ==== the statement

/-- An action of a supported type that is well formed, and that the
sanitizer and then, with the player filled in, the validator accept. -/
structure Passes (rt : PyRuntime) (playerId : Int)
    (gameState : Option StateDict) (action : PyDict) (t : String)
    (b : Branch) (s : PyDict) : Prop where
  wellFormed : WellFormed action
  type : action.get? "type" = some (.str t)
  supported : branches.lookup t = some b
  sanitized : sanitizeActionData rt action = .ok s
  valid : validateAction rt (withPlayer playerId s) playerId gameState
    = .ok ()

/-- The sanitised action and the original one become the same packet. -/
def SamePacket (rt : PyRuntime) (found : Bool) (civcom : Option Mirror)
    (playerId : Int) (action s : PyDict) : Prop :=
  ∃ p, convertActionToPacket rt civcom (withPlayer playerId s) found = .ok p
    ∧ convertActionToPacket rt civcom action found = .ok p

/-- The first of the fields that is given is the first of the kept ones
that is given, or has its value. -/
def SameFirst (action : PyDict) (kept keys : List String)
    (default : PyVal) : Prop :=
  firstOf action keys default
    = firstOf action (keys.filter fun k => kept.contains k) default

def tileNumber : Option PyVal → Option Int
  | some (.int n) => if 0 ≤ n then some n else none
  | _ => none

/-- A tile given by its number: 'target_id' before 'tile_id'. -/
def numberedTile (action : PyDict) : Option Int :=
  ["target_id", "tile_id"].findSome? fun k => tileNumber (action.get? k)

/-- The target is taken from kept fields: a numbered tile is the one of
the coordinates. -/
def SameTarget (t : PyStr.CharTables) (civcom : Option Mirror)
    (action : PyDict) : TargetRule → Prop
  | .tile => ∀ n, numberedTile action = some n →
      tileOfCoordinates t civcom (extractTargetCoordinates action) = .ok n
  | .fields keys => SameFirst action Route.unit.kept keys (.int (-1))

/-- Two destinations on one tile, and in one direction from the unit. -/
def SameStep (civcom : Option Mirror) (unitId : PyVal)
    (d e : Int × Int) : Prop :=
  d.1 + d.2 * moveMapWidth civcom = e.1 + e.2 * moveMapWidth civcom
    ∧ PacketConverter.moveDirection (moveMapWidth civcom)
        (unitTile civcom unitId) d
      = PacketConverter.moveDirection (moveMapWidth civcom)
        (unitTile civcom unitId) e

/-- The production is in the ruleset, under the name as it came and as
it is cleaned; without a CivCom no number is given for it. -/
def SameProduction (rt : PyRuntime) (civcom : Option Mirror)
    (action : PyDict) : Prop :=
  match civcom with
  | none => ∀ k ∈ ["production_kind", "production_value"],
      (action.get? k).getD .null = .null
  | some m => ∃ name kindValue,
      action.get? "production_type" = some (.str name)
        ∧ (RulesetMapper.load rt m).mapProductionToKindValue rt name
          = some kindValue
        ∧ (RulesetMapper.load rt m).mapProductionToKindValue rt (clean name)
          = some kindValue

/-- The technology is in the ruleset, under the name as it came and as
it is cleaned. -/
def SameTech (rt : PyRuntime) (civcom : Option Mirror) (action : PyDict) :
    Prop :=
  ∃ m name tech, civcom = some m
    ∧ action.get? "tech_name" = some (.str name)
    ∧ (RulesetMapper.load rt m).getTechId rt name = some tech
    ∧ (RulesetMapper.load rt m).getTechId rt (clean name) = some tech

/-- The converter reads nothing that the sanitizer drops or changes. -/
def KeepsReads (rt : PyRuntime) (civcom : Option Mirror) (playerId : Int)
    (action : PyDict) : Branch → Prop
  | .unitMove => ∀ u x y m n, action.get? "unit_id" = some u →
      nestedTarget action = some (.int x, .int y) →
      action.get? "dest_x" = some (.int m) →
      action.get? "dest_y" = some (.int n) →
      SameStep civcom u (x, y) (m, n)
  | .cityProduction => SameProduction rt civcom action
  | .techResearch => SameTech rt civcom action
  | .unitBuildCity => ∀ name, action.get? "name" = some (.str name) →
      Tidy name
  | .changeActivity _ _ keys =>
    SameFirst action Route.unit.kept keys (.int (-1))
  | .doAction spec => action.contains "unit_id" = true
      ∧ (∀ u, action.get? "unit_id" = some u →
        SameFirst action Route.unit.kept spec.actorKeys u)
      ∧ SameTarget rt.toCharTables civcom action spec.target
      ∧ SameFirst action Route.unit.kept spec.subKeys
        (spec.subDefault.elim .null .int)
  | .cancelPact keys clause =>
    SameFirst action Route.diplomacy.kept keys (.int clause)
  | .clause _ _ =>
    firstOf action ["giver", "player_id"] (.int (-1)) = .int playerId
  | .message => ∀ message, action.get? "message" = some (.str message) →
      TidyMessage message
  | _ => True

variable {rt : PyRuntime} {playerId : Int} {gameState : Option StateDict}
  {action s : PyDict} {t : String} {b : Branch} {civcom : Option Mirror}
  {found : Bool}

-- ==== what the validator gets

theorem clean_ofList {cs : List Char} (h : cleanChars cs = cs) :
    clean (String.ofList cs) = String.ofList cs := by
  rw [clean, String.toList_ofList, h]

theorem clean_branches : ∀ e ∈ branches, clean e.1 = e.1 := by
  unfold branches
  repeat refine List.forall_mem_cons.mpr ⟨clean_ofList (by decide), ?_⟩
  nofun

theorem clean_of_supported (h : branches.lookup t = some b) : clean t = t :=
  clean_branches (t, b) (mem_of_lookup h)

theorem ne_empty_of_supported (h : branches.lookup t = some b) : t ≠ "" := by
  rintro rfl
  have hnone : branches.lookup "" = none := by decide +kernel
  rw [hnone] at h
  cases h

theorem map_cleaned_number (hwf : WellFormed action) {k : String}
    (hk : k ∈ numberKeys) :
    (action.get? k).map (cleaned k) = action.get? k := by
  cases hv : action.get? k with
  | none => rfl
  | some v =>
    obtain ⟨n, rfl⟩ := hwf.number k hk v hv
    rfl

section passes

variable (h : Passes rt playerId gameState action t b s)

include h

theorem Passes.actionType_eq : actionType action = .str t := by
  have htrue : (PyVal.str t).truthy = true := by
    simp [PyVal.truthy, ne_empty_of_supported h.supported]
  unfold actionType
  rw [h.type]
  show (PyVal.str t).or _ = _
  unfold PyVal.or
  rw [if_pos htrue]

theorem Passes.get?_sent {k : String} (hk : k ∉ apartKeys)
    (hp : k ≠ "player_id") :
    (withPlayer playerId s).get? k
      = if k ∈ (routeOf t).kept then (action.get? k).map (cleaned k)
        else none := by
  rw [OwnCommands.get?_handedOn (Or.inr rfl) hp]
  exact agrees_sanitized h.wellFormed h.sanitized h.actionType_eq k hk

theorem Passes.get?_number {k : String} (hk : k ∈ numberKeys)
    (happ : k ∉ apartKeys) (hp : k ≠ "player_id")
    (hroute : k ∈ (routeOf t).kept) :
    (withPlayer playerId s).get? k = action.get? k := by
  rw [h.get?_sent happ hp, if_pos hroute, map_cleaned_number h.wellFormed hk]

theorem Passes.get?_dropped {k : String} (happ : k ∉ apartKeys)
    (hp : k ≠ "player_id") (hroute : k ∉ (routeOf t).kept) :
    (withPlayer playerId s).get? k = none := by
  rw [h.get?_sent happ hp, if_neg hroute]

theorem Passes.type_sent :
    (withPlayer playerId s).get? "type" = some (.str t) := by
  obtain ⟨type, htype, _⟩ := OwnCommands.validateAction_ok h.valid
  obtain ⟨u, hu, _⟩ := Option.bind_eq_some_iff.mp htype
  obtain ⟨v, hv, _⟩ := Option.bind_eq_some_iff.mp hu
  have hs : s.get? "type" = some v := by
    rw [← OwnCommands.get?_handedOn (Or.inr rfl) (by decide), hv]
  rw [hv, type_sanitized h.sanitized h.actionType_eq hs,
    clean_of_supported h.supported]

theorem Passes.known : ∃ type : ActionType, type.value = t
    ∧ OwnCommands.branchOfType type = some b
    ∧ validateByType rt (withPlayer playerId s) type playerId gameState
      = .ok () := by
  obtain ⟨type, htype, hby⟩ := OwnCommands.validateAction_ok h.valid
  rw [h.type_sent] at htype
  have hvalue : type.value = t := OwnCommands.value_of_ofValue htype
  refine ⟨type, hvalue, ?_, hby⟩
  unfold OwnCommands.branchOfType
  rw [hvalue, h.supported]

theorem Passes.player_sent :
    (withPlayer playerId s).get? "player_id" = some (.int playerId) := by
  unfold withPlayer
  split
  next hc =>
    obtain ⟨v, hv⟩ := Dict.contains_iff.mp hc
    obtain ⟨n, rfl⟩ := (fieldOk_sanitized h.sanitized _ _ hv).2.1 (by decide)
    have hvalid := h.valid
    unfold withPlayer at hvalid
    rw [if_pos hc] at hvalid
    unfold validateAction at hvalid
    rw [hv] at hvalid ⊢
    split at hvalid
    · cases hvalid
    split at hvalid
    · cases hvalid
    split at hvalid
    next heq =>
      have hn : n = playerId := by simpa using heq
      rw [hn]
    next => cases hvalid
  next => exact s.get?_set_self _ _

end passes

-- ==== the two packets

def packetSent (rt : PyRuntime) (found : Bool) (p : Fields) : Fields :=
  if (p.lookup "pid").isSome then sanitizePacket rt.toCharTables found p
  else p

theorem lookup_packetSent {p : Fields} {pid : Int} {k : String}
    (hp : p.lookup "pid" = some (.int pid))
    (hk : k ∈ packetFieldMap true pid) :
    (packetSent rt found p).lookup k = p.lookup k := by
  unfold packetSent
  rw [hp]
  show (sanitizePacket rt.toCharTables found p).lookup k = _
  unfold sanitizePacket
  rw [hp]
  show (if (packetFieldMap found pid).isEmpty then p
    else p.filter fun f => (packetFieldMap found pid).contains f.1).lookup k = _
  cases found with
  | false => rfl
  | true =>
    split
    · rfl
    · rw [lookup_filter fun k => (packetFieldMap true pid).contains k,
        if_pos (List.contains_iff_mem.mpr hk)]

theorem converted_eq {x : PyDict} (hb : branchOf x = some b) :
    convertActionToPacket rt civcom x found
      = (convertBranch rt civcom x b).map (packetSent rt found) := by
  unfold convertActionToPacket convertImpl
  rw [hb]
  rfl

/-- The same packet leaves when the branch makes two that are equal but
for what is dropped. -/
theorem samePacket_iff (h : Passes rt playerId gameState action t b s) :
    SamePacket rt found civcom playerId action s ↔
      ∃ p q, convertBranch rt civcom (withPlayer playerId s) b = .ok p
        ∧ convertBranch rt civcom action b = .ok q
        ∧ packetSent rt found p = packetSent rt found q := by
  have hs : branchOf (withPlayer playerId s) = some b := by
    unfold branchOf
    rw [h.type_sent]
    exact h.supported
  have ha : branchOf action = some b := by
    unfold branchOf
    rw [h.type]
    exact h.supported
  unfold SamePacket
  rw [converted_eq hs, converted_eq ha]
  constructor
  · rintro ⟨r, hr, hr'⟩
    obtain ⟨p, hp, hpr⟩ := map_eq_ok.mp hr
    obtain ⟨q, hq, hqr⟩ := map_eq_ok.mp hr'
    exact ⟨p, q, hp, hq, by rw [hpr, hqr]⟩
  · rintro ⟨p, q, hp, hq, hpq⟩
    exact ⟨packetSent rt found p, map_eq_ok.mpr ⟨p, hp, rfl⟩,
      map_eq_ok.mpr ⟨q, hq, hpq.symm⟩⟩

theorem samePacket_iff_of_ok (h : Passes rt playerId gameState action t b s)
    {p q : Fields}
    (hp : convertBranch rt civcom (withPlayer playerId s) b = .ok p)
    (hq : convertBranch rt civcom action b = .ok q) :
    SamePacket rt found civcom playerId action s ↔
      packetSent rt found p = packetSent rt found q := by
  rw [samePacket_iff h]
  constructor
  · rintro ⟨p', q', hp', hq', hpq⟩
    rw [hp] at hp'
    rw [hq] at hq'
    cases hp'
    cases hq'
    exact hpq
  · intro hpq
    exact ⟨p, q, hp, hq, hpq⟩

theorem not_samePacket_of_error
    (h : Passes rt playerId gameState action t b s) {e : PyError}
    (hq : convertBranch rt civcom action b = .error e) :
    ¬ SamePacket rt found civcom playerId action s := by
  rw [samePacket_iff h]
  rintro ⟨p, q, _, hq', _⟩
  rw [hq] at hq'
  cases hq'

theorem not_samePacket_of_sent_error
    (h : Passes rt playerId gameState action t b s) {e : PyError}
    (hp : convertBranch rt civcom (withPlayer playerId s) b = .error e) :
    ¬ SamePacket rt found civcom playerId action s := by
  rw [samePacket_iff h]
  rintro ⟨p, q, hp', _, _⟩
  rw [hp] at hp'
  cases hp'

/-- Packets that leave equal have equal fields where packets.def declares
them. -/
theorem lookup_eq_of_sent {p q : Fields} {pid : Int} {k : String}
    (h : packetSent rt found p = packetSent rt found q)
    (hp : p.lookup "pid" = some (.int pid))
    (hq : q.lookup "pid" = some (.int pid))
    (hk : k ∈ packetFieldMap true pid) : p.lookup k = q.lookup k := by
  rw [← lookup_packetSent hp hk, h, lookup_packetSent hq hk]

-- ==== fields that must be there

section present

variable {type : ActionType}

theorem validateUnitMove_fields
    (h : validateUnitMove rt action playerId gameState = .ok ()) :
    ∀ k ∈ ["unit_id", "dest_x", "dest_y"], ∃ v, action.get? k = some v := by
  unfold validateUnitMove at h
  split at h
  next => cases h
  next hfind =>
    intro k hk
    have hthere := List.find?_eq_none.mp hfind k hk
    exact Dict.contains_iff.mp (by simpa using hthere)

theorem validateUnitCanAct_unit {name : String}
    (h : validateUnitCanAct rt action playerId gameState name = .ok ())
    (ha : action.get? "actor_id" = none) :
    ∃ v, action.get? "unit_id" = some v := by
  cases hid : action.get? "unit_id" with
  | some v => exact ⟨v, rfl⟩
  | none =>
    have hnull : actingUnit action = .null := by
      unfold actingUnit
      rw [hid, ha]
      rfl
    unfold validateUnitCanAct at h
    rw [hnull] at h
    cases h

theorem validateOwnership_field {sectionName idField noun e₁ e₂ e₃ : String}
    {name : String}
    (h : validateOwnership rt sectionName idField noun e₁ e₂ e₃ name action
      playerId gameState = .ok ()) : ∃ v, action.get? idField = some v := by
  cases hid : action.get? idField with
  | some v => exact ⟨v, rfl⟩
  | none =>
    unfold validateOwnership at h
    rw [hid] at h
    cases h

/-- A passed order to a unit names it, but for the two orders of city
foundation. -/
theorem unit_of_valid
    (h : validateByType rt action type playerId gameState = .ok ())
    (hc : type.category ∈ OwnCommands.unitCategories)
    (hf : type ∉ OwnCommands.foundationTypes)
    (ha : action.get? "actor_id" = none) :
    ∃ v, action.get? "unit_id" = some v := by
  unfold validateByType at h
  split at h
  · exact validateUnitMove_fields h "unit_id" (by decide)
  · unfold validateUnitBuildCity at h
    split at h
    next => cases h
    next v hv => exact ⟨v, hv⟩
  · exact absurd hc (by decide)
  · exact absurd hc (by decide)
  · exact absurd hc (by decide)
  · exact absurd hc (by decide)
  · exact validateUnitCanAct_unit h ha
  · exact validateUnitCanAct_unit h ha
  · exact validateUnitCanAct_unit h ha
  · exact validateUnitCanAct_unit h ha
  · exact validateUnitCanAct_unit h ha
  · unfold validateByCategory at h
    cases hcat : type.category with
    | combat | espionage | movement | trade =>
      rw [hcat] at h
      obtain ⟨_, h, _⟩ := bind_eq_ok.mp h
      exact validateOwnership_field h
    | terrain | unitStatus =>
      rw [hcat] at h
      exact validateOwnership_field h
    | cityFoundation =>
      rcases OwnCommands.cityFoundation_cases hcat with rfl | hmem
      · contradiction
      · exact absurd hmem hf
    | diplomacy | cityManagement | research =>
      rw [hcat] at hc; exact absurd hc (by decide)

theorem validateCityProduction_fields
    (h : validateCityProduction rt action playerId gameState = .ok ()) :
    ∃ c production, action.get? "city_id" = some c
      ∧ action.get? "production_type" = some production
      ∧ production.truthy = true := by
  unfold validateCityProduction at h
  split at h
  next => cases h
  next => cases h
  next c production hc hp =>
    obtain ⟨_, h, _⟩ := bind_eq_ok.mp h
    refine ⟨c, production, hc, hp, ?_⟩
    unfold checkProductionType at h
    split at h
    next => cases h
    next htrue => simpa using htrue

theorem city_of_valid
    (h : validateByType rt action type playerId gameState = .ok ())
    (hc : type.category = .cityManagement) :
    ∃ v, action.get? "city_id" = some v := by
  unfold validateByType at h
  split at h
  · cases hc
  · cases hc
  · obtain ⟨c, _, hv, _⟩ := validateCityProduction_fields h
    exact ⟨c, hv⟩
  · obtain ⟨c, _, hv, _⟩ := validateCityProduction_fields h
    exact ⟨c, hv⟩
  · cases hc
  · cases hc
  · cases hc
  · cases hc
  · cases hc
  · cases hc
  · cases hc
  · unfold validateByCategory at h
    rw [hc] at h
    obtain ⟨_, h, _⟩ := bind_eq_ok.mp h
    exact validateOwnership_field h

/-- A passed diplomatic action has a counterpart, and a message has its
text. -/
theorem counterpart_of_valid
    (h : validateByType rt action type playerId gameState = .ok ())
    (hc : type.category = .diplomacy) :
    (∃ v, action.get? "target_player_id" = some v)
      ∧ (type = .diplomacyMessage → ∃ v, action.get? "message" = some v) := by
  have hdiplomacy : validateDiplomacyAction rt action type playerId gameState
      = .ok () := by
    unfold validateByType at h
    split at h
    · cases hc
    · cases hc
    · cases hc
    · cases hc
    · cases hc
    · cases hc
    · cases hc
    · cases hc
    · cases hc
    · cases hc
    · cases hc
    · unfold validateByCategory at h
      rw [hc] at h
      exact h
  unfold validateDiplomacyAction at hdiplomacy
  split at hdiplomacy
  next => cases hdiplomacy
  next v hv =>
    refine ⟨⟨v, hv⟩, ?_⟩
    rintro rfl
    obtain ⟨_, _, hmessage⟩ := bind_eq_ok.mp hdiplomacy
    rw [if_pos rfl] at hmessage
    unfold checkMessage at hmessage
    split at hmessage
    next => cases hmessage
    next m hm => exact ⟨m, hm⟩

end present

-- ==== routes and branches

/-- Fields that a chain of alternatives can be answered by, on a route:
those that are kept are numbers. -/
def plainKeys (route : Route) (keys : List String) : Bool :=
  keys.all fun k => !apartKeys.contains k && k != "player_id"
    && (!route.kept.contains k || numberKeys.contains k)

/-- The type orders a unit, and the validator looks it up. -/
def checkedUnit (type : ActionType) : Bool :=
  OwnCommands.unitCategories.contains type.category
    && !OwnCommands.foundationTypes.contains type

/-- The fields a branch of a unit order reads in turn. -/
def targetKeys : TargetRule → List String
  | .tile => ["target_id", "tile_id"]
  | .fields keys => keys

/-- What the table of the converter and that of the sanitizer have to
agree on. -/
def routesAgree (type : ActionType) : Branch → Bool
  | .unitMove => type == .unitMove
  | .cityProduction => type == .cityProduction || type == .cityChangeProduction
  | .techResearch => type == .techResearch
  | .endTurn => true
  | .unitBuildCity => type == .unitBuildCity
  | .serverSideAgent => checkedUnit type && routeOf type.value == .unit
  | .changeActivity _ required keys =>
    checkedUnit type && routeOf type.value == .unit && required
      && plainKeys .unit keys
  | .doAction spec =>
    if routeOf type.value = .unit then
      plainKeys .unit (spec.actorKeys ++ targetKeys spec.target
        ++ spec.subKeys)
    else checkedUnit type && routeOf type.value == .nothing
  | .meeting _ | .clause _ _ =>
    type.category == .diplomacy && routeOf type.value == .diplomacy
  | .cancelPact keys _ =>
    type.category == .diplomacy && routeOf type.value == .diplomacy
      && plainKeys .diplomacy keys
  | .message => type == .diplomacyMessage
  | .cityBuy | .citySellImprovement | .cityRename | .cityWorklist =>
    type.category == .cityManagement && routeOf type.value == .nothing

theorem routesAgree_of_type {type : ActionType}
    (h : OwnCommands.branchOfType type = some b) :
    routesAgree type b = true :=
  OwnCommands.of_all_types (by decide +kernel) h

theorem firstOf_filter {x y : PyDict} {q : String → Bool} {d : PyVal} :
    ∀ {keys : List String},
      (∀ k ∈ keys, x.get? k = if q k = true then y.get? k else none) →
      firstOf x keys d = firstOf y (keys.filter q) d
  | [], _ => rfl
  | k :: keys, h => by
      have ih := firstOf_filter (d := d)
        fun k' hk' => h k' (List.mem_cons_of_mem k hk')
      have hk := h k List.mem_cons_self
      unfold firstOf at ih ⊢
      rw [List.filter_cons]
      by_cases hq : q k = true
      · rw [if_pos hq] at hk ⊢
        rw [List.findSome?_cons, List.findSome?_cons, hk]
        cases y.get? k with
        | some v => rfl
        | none => exact ih
      · rw [if_neg hq] at hk ⊢
        rw [List.findSome?_cons, hk]
        exact ih

theorem Passes.firstOf_sent (h : Passes rt playerId gameState action t b s)
    {keys : List String} {d : PyVal} {route : Route}
    (hroute : routeOf t = route) (hkeys : plainKeys route keys = true) :
    firstOf (withPlayer playerId s) keys d
      = firstOf action (keys.filter fun k => route.kept.contains k) d := by
  refine firstOf_filter ?_
  intro k hk
  have hplain := List.all_eq_true.mp hkeys k hk
  simp only [Bool.and_eq_true, Bool.not_eq_true', Bool.or_eq_true,
    bne_iff_ne, ne_eq] at hplain
  obtain ⟨⟨happ, hp⟩, hnumber⟩ := hplain
  have happ' : k ∉ apartKeys := by
    intro hmem
    rw [List.contains_iff_mem.mpr hmem] at happ
    cases happ
  by_cases hkept : k ∈ route.kept
  · rw [if_pos (List.contains_iff_mem.mpr hkept)]
    rcases hnumber with hno | hnumber
    · rw [List.contains_iff_mem.mpr hkept] at hno
      cases hno
    · exact h.get?_number (List.contains_iff_mem.mp hnumber) happ' hp
        (by rw [hroute]; exact hkept)
  · rw [if_neg (by simpa using hkept)]
    exact h.get?_dropped happ' hp (by rw [hroute]; exact hkept)

-- ==== the targets

section targets

variable {tables : PyStr.CharTables}

theorem nestedTarget_int (hwf : WellFormed action) {x y : PyVal}
    (h : nestedTarget action = some (x, y)) :
    ∃ m n : Int, x = .int m ∧ y = .int n := by
  unfold nestedTarget at h
  split at h
  next e he =>
    split at h
    next x' y' hx hy =>
      cases h
      obtain ⟨m, rfl⟩ := hwf.target e he "x" (by decide) _ hx
      obtain ⟨n, rfl⟩ := hwf.target e he "y" (by decide) _ hy
      exact ⟨m, n, rfl, rfl⟩
    next => cases h
  next => cases h

theorem tileOfCoordinates_ok (hwf : WellFormed action) :
    ∃ n, tileOfCoordinates tables civcom (extractTargetCoordinates action)
      = .ok n := by
  have hints : ∀ x y, (flatTarget action).or (nestedTarget action)
      = some (x, y) → ∃ m n : Int, x = .int m ∧ y = .int n := by
    intro x y hxy
    rcases Option.or_eq_some_iff.mp hxy with hflat | ⟨_, hnested⟩
    · obtain ⟨x', hx, hmap⟩ := Option.bind_eq_some_iff.mp hflat
      obtain ⟨y', hy, hpair⟩ := Option.map_eq_some_iff.mp hmap
      cases hpair
      obtain ⟨m, rfl⟩ := hwf.number _ (by decide) _ hx
      obtain ⟨n, rfl⟩ := hwf.number _ (by decide) _ hy
      exact ⟨m, n, rfl, rfl⟩
    · exact nestedTarget_int hwf hnested
  rw [extract_eq]
  cases hxy : (flatTarget action).or (nestedTarget action) with
  | none => exact ⟨-1, rfl⟩
  | some xy =>
    obtain ⟨x, y⟩ := xy
    obtain ⟨m, n, rfl, rfl⟩ := hints x y hxy
    exact ⟨_, rfl⟩

theorem givenTile_int (n : Int) :
    givenTile tables (some (.int n))
      = .ok (if 0 ≤ n then some n else none) := by
  unfold givenTile
  by_cases hn : n = -1
  · subst hn
    rfl
  · simp [PyVal.isNull, hn]

theorem givenTile_get? (hwf : WellFormed action) {k : String}
    (hk : k ∈ numberKeys) :
    givenTile tables (action.get? k) = .ok (tileNumber (action.get? k)) := by
  cases hv : action.get? k with
  | none => rfl
  | some v =>
    obtain ⟨n, rfl⟩ := hwf.number k hk v hv
    exact givenTile_int n

theorem resolve_eq (hwf : WellFormed action) {n : Int}
    (hn : tileOfCoordinates tables civcom (extractTargetCoordinates action)
      = .ok n) :
    resolveTargetTileId tables action civcom
      = .ok ((numberedTile action).getD n) := by
  unfold resolveTargetTileId numberedTile
  rw [givenTile_get? hwf (by decide), givenTile_get? hwf (by decide),
    List.findSome?_cons, List.findSome?_cons, List.findSome?_nil]
  cases tileNumber (action.get? "target_id") with
  | some tile => rfl
  | none =>
    cases tileNumber (action.get? "tile_id") with
    | some tile => rfl
    | none => exact hn

theorem resolve_of_none (h₁ : action.get? "target_id" = none)
    (h₂ : action.get? "tile_id" = none) :
    resolveTargetTileId tables action civcom
      = tileOfCoordinates tables civcom (extractTargetCoordinates action) := by
  unfold resolveTargetTileId
  rw [h₁, h₂]
  rfl

theorem extract_withPlayer :
    extractTargetCoordinates (withPlayer playerId s)
      = extractTargetCoordinates s := by
  have hsame : ∀ k, k ≠ "player_id" →
      (withPlayer playerId s).get? k = s.get? k :=
    fun _ hk => OwnCommands.get?_handedOn (Or.inr rfl) hk
  unfold extractTargetCoordinates
  rw [hsame "target_x" (by decide), hsame "target_y" (by decide),
    hsame "target" (by decide)]

end targets

theorem Passes.targets (h : Passes rt playerId gameState action t b s)
    (civcom : Option Mirror) (hroute : routeOf t = .unit) {rule : TargetRule}
    (hkeys : plainKeys .unit (targetKeys rule) = true) :
    ∃ x y, targetOf rt civcom (withPlayer playerId s) rule = .ok x
      ∧ targetOf rt civcom action rule = .ok y
      ∧ (x = y ↔ SameTarget rt.toCharTables civcom action rule) := by
  cases rule with
  | fields keys =>
    have hplain : plainKeys .unit keys = true := hkeys
    refine ⟨_, _, rfl, rfl, ?_⟩
    rw [h.firstOf_sent hroute hplain]
    exact eq_comm
  | tile =>
    obtain ⟨n, hn⟩ : ∃ n, tileOfCoordinates rt.toCharTables civcom
        (extractTargetCoordinates action) = .ok n :=
      tileOfCoordinates_ok h.wellFormed
    have hdropped : ∀ k ∈ ["target_id", "tile_id"],
        (withPlayer playerId s).get? k = none := by
      intro k hk
      refine h.get?_dropped ?_ ?_ ?_
      · revert k
        decide
      · revert k
        decide
      · rw [hroute]
        revert k
        decide
    have hsent : resolveTargetTileId rt.toCharTables
        (withPlayer playerId s) civcom = .ok n := by
      rw [resolve_of_none (hdropped _ (by decide)) (hdropped _ (by decide)),
        extract_withPlayer, extract_sanitized h.wellFormed h.sanitized
          h.actionType_eq hroute, hn]
    refine ⟨.int n, .int ((numberedTile action).getD n), ?_, ?_, ?_⟩
    · unfold targetOf
      rw [hsent]
      rfl
    · unfold targetOf
      rw [resolve_eq h.wellFormed hn]
      rfl
    · unfold SameTarget
      rw [hn]
      cases numberedTile action with
      | none => simp
      | some m => simp

-- ==== orders to units

def doActionPacket (action : Int) (actor target sub : PyVal) : Fields :=
  [("pid", .int 84), ("actor_id", actor), ("target_id", target),
    ("sub_tgt_id", sub), ("sub_target", sub), ("name", .str ""),
    ("action_type", .int action)]

theorem convertDoAction_eq {x : PyDict} {spec : ActionSpec}
    {target u : PyVal} (ht : targetOf rt civcom x spec.target = .ok target)
    (hu : x.get? "unit_id" = some u) :
    convertBranch rt civcom x (.doAction spec)
      = .ok (doActionPacket spec.action (firstOf x spec.actorKeys u) target
        (firstOf x spec.subKeys (spec.subDefault.elim .null .int))) := by
  simp only [convertBranch, convertDoAction, ht, OwnCommands.need_eq_ok.mpr hu]
  rfl

theorem doActionPacket_sent {n : Int} {a a' x x' c c' : PyVal} :
    packetSent rt found (doActionPacket n a x c)
        = packetSent rt found (doActionPacket n a' x' c')
      ↔ a = a' ∧ x = x' ∧ c = c' := by
  constructor
  · intro h
    have ha := lookup_eq_of_sent (k := "actor_id") h rfl rfl (by decide)
    have hx := lookup_eq_of_sent (k := "target_id") h rfl rfl (by decide)
    have hc := lookup_eq_of_sent (k := "sub_tgt_id") h rfl rfl (by decide)
    exact ⟨Option.some.inj ha, Option.some.inj hx, Option.some.inj hc⟩
  · rintro ⟨rfl, rfl, rfl⟩
    rfl

theorem plainKeys_append {route : Route} {keys keys' : List String} :
    plainKeys route (keys ++ keys') = true
      ↔ plainKeys route keys = true ∧ plainKeys route keys' = true := by
  unfold plainKeys
  rw [List.all_append, Bool.and_eq_true]

section unitOrders

variable (h : Passes rt playerId gameState action t b s)

include h

theorem Passes.unit_there {type : ActionType}
    (hby : validateByType rt (withPlayer playerId s) type playerId gameState
      = .ok ()) (hchecked : checkedUnit type = true) :
    ∃ v, (withPlayer playerId s).get? "unit_id" = some v := by
  unfold checkedUnit at hchecked
  rw [Bool.and_eq_true, Bool.not_eq_true'] at hchecked
  have hactor : (withPlayer playerId s).get? "actor_id" = none := by
    refine h.get?_dropped (by decide) (by decide) ?_
    cases routeOf t <;> decide
  exact unit_of_valid hby (List.contains_iff_mem.mp hchecked.1)
    (by simpa using hchecked.2) hactor

theorem Passes.unit_not_dropped {type : ActionType}
    (hby : validateByType rt (withPlayer playerId s) type playerId gameState
      = .ok ()) (hchecked : checkedUnit type = true) :
    routeOf t ≠ .nothing := by
  intro hroute
  obtain ⟨v, hv⟩ := h.unit_there hby hchecked
  rw [h.get?_dropped (by decide) (by decide) (by rw [hroute]; decide)] at hv
  cases hv

theorem Passes.unit_sent (hroute : routeOf t = .unit) :
    (withPlayer playerId s).get? "unit_id" = action.get? "unit_id" :=
  h.get?_number (by decide) (by decide) (by decide) (by rw [hroute]; decide)

end unitOrders

/-- PACKET_UNIT_DO_ACTION stays the same when its actor, its target and
its sub target are read from kept fields. -/
theorem doAction_iff {spec : ActionSpec}
    (h : Passes rt playerId gameState action t (.doAction spec) s) :
    SamePacket rt found civcom playerId action s
      ↔ KeepsReads rt civcom playerId action (.doAction spec) := by
  obtain ⟨type, hvalue, hb, hby⟩ := h.known
  have hagree := routesAgree_of_type hb
  simp only [routesAgree, hvalue] at hagree
  by_cases hroute : routeOf t = .unit
  · rw [if_pos hroute, plainKeys_append, plainKeys_append] at hagree
    obtain ⟨⟨hactor, htarget⟩, hsub⟩ := hagree
    obtain ⟨x, y, hx, hy, hxy⟩ := h.targets civcom hroute htarget
    cases hu : action.get? "unit_id" with
    | none =>
      have herror : convertBranch rt civcom action (.doAction spec)
          = .error (.keyError "unit_id") := by
        simp only [convertBranch, convertDoAction, hy, need, hu]
        rfl
      refine ⟨fun hsame => absurd hsame (not_samePacket_of_error h herror),
        ?_⟩
      rintro ⟨hc, _⟩
      obtain ⟨v, hv⟩ := Dict.contains_iff.mp hc
      rw [hu] at hv
      cases hv
    | some u =>
      have hs := h.unit_sent hroute
      rw [hu] at hs
      rw [samePacket_iff_of_ok h (convertDoAction_eq hx hs)
        (convertDoAction_eq hy hu), doActionPacket_sent,
        h.firstOf_sent hroute hactor, h.firstOf_sent hroute hsub]
      constructor
      · rintro ⟨ha, ht, hc⟩
        refine ⟨Dict.contains_iff.mpr ⟨u, hu⟩, ?_, hxy.mp ht, hc.symm⟩
        intro v hv
        rw [hu] at hv
        cases hv
        exact ha.symm
      · rintro ⟨_, ha, ht, hc⟩
        exact ⟨(ha u hu).symm, hxy.mpr ht, hc.symm⟩
  · rw [if_neg hroute, Bool.and_eq_true] at hagree
    exact absurd (eq_of_beq hagree.2) (h.unit_not_dropped hby hagree.1)

def changeActivityPacket (activity : Int) (unitId target : PyVal) : Fields :=
  [("pid", .int 222), ("unit_id", unitId), ("activity", .int activity),
    ("target", target)]

theorem convertChangeActivity_eq {x : PyDict} {activity : Int}
    {keys : List String} {u : PyVal} (hu : x.get? "unit_id" = some u) :
    convertBranch rt civcom x (.changeActivity activity true keys)
      = .ok (changeActivityPacket activity u (firstOf x keys (.int (-1)))) := by
  simp only [convertBranch, convertChangeActivity, changedUnit,
    OwnCommands.need_eq_ok.mpr hu]
  rfl

/-- A change of activity stays the same when its target is read from
kept fields. -/
theorem changeActivity_iff {activity : Int} {required : Bool}
    {keys : List String} (h : Passes rt playerId gameState action t
      (.changeActivity activity required keys) s) :
    SamePacket rt found civcom playerId action s
      ↔ KeepsReads rt civcom playerId action
        (.changeActivity activity required keys) := by
  obtain ⟨type, hvalue, hb, hby⟩ := h.known
  have hagree := routesAgree_of_type hb
  simp only [routesAgree, hvalue, Bool.and_eq_true, beq_iff_eq] at hagree
  obtain ⟨⟨⟨hchecked, hroute⟩, rfl⟩, hkeys⟩ := hagree
  obtain ⟨u, hs⟩ := h.unit_there hby hchecked
  have hu : action.get? "unit_id" = some u := by
    rw [← h.unit_sent hroute, hs]
  rw [samePacket_iff_of_ok h (convertChangeActivity_eq hs)
    (convertChangeActivity_eq hu), h.firstOf_sent hroute hkeys]
  constructor
  · intro hsent
    have htarget := lookup_eq_of_sent (k := "target") hsent rfl rfl (by decide)
    exact (Option.some.inj htarget).symm
  · intro hsame
    have hsame' : firstOf action keys (.int (-1)) = _ := hsame
    rw [hsame']

theorem serverSideAgent_same
    (h : Passes rt playerId gameState action t .serverSideAgent s) :
    SamePacket rt found civcom playerId action s := by
  obtain ⟨type, hvalue, hb, hby⟩ := h.known
  have hagree := routesAgree_of_type hb
  simp only [routesAgree, hvalue, Bool.and_eq_true, beq_iff_eq] at hagree
  obtain ⟨u, hs⟩ := h.unit_there hby hagree.1
  have hu : action.get? "unit_id" = some u := by
    rw [← h.unit_sent hagree.2, hs]
  have hpacket : ∀ x : PyDict, x.get? "unit_id" = some u →
      convertBranch rt civcom x .serverSideAgent
        = .ok [("pid", .int 74), ("unit_id", u), ("agent", .int 1)] := by
    intro x hx
    simp only [convertBranch, OwnCommands.need_eq_ok.mpr hx]
    rfl
  rw [samePacket_iff_of_ok h (hpacket _ hs) (hpacket _ hu)]

def foundCityPacket (unitId tile name : PyVal) : Fields :=
  [("pid", .int 84), ("action_type", .int 27), ("actor_id", unitId),
    ("target_id", tile), ("sub_tgt_id", .int 0), ("sub_target", .int 0),
    ("name", name)]

theorem convertUnitBuildCity_eq {x : PyDict} {u : PyVal}
    (hu : x.get? "unit_id" = some u) :
    convertBranch rt civcom x .unitBuildCity
      = .ok (foundCityPacket u (.int (unitTile civcom u))
        ((x.get? "name").getD (.str ("City" ++ u.toStr rt)))) := by
  simp only [convertBranch, convertUnitBuildCity, OwnCommands.need_eq_ok.mpr hu]
  rfl

theorem unitBuildCity_iff
    (h : Passes rt playerId gameState action t .unitBuildCity s) :
    SamePacket rt found civcom playerId action s
      ↔ KeepsReads rt civcom playerId action .unitBuildCity := by
  obtain ⟨type, hvalue, hb, hby⟩ := h.known
  have hagree := routesAgree_of_type hb
  simp only [routesAgree, beq_iff_eq] at hagree
  subst hagree
  have hroute : routeOf t = .unitBuildCity := by
    rw [← hvalue]
    decide
  obtain ⟨u, hs⟩ := h.unit_there hby (by decide)
  have hu : action.get? "unit_id" = some u := by
    rw [← h.get?_number (by decide) (by decide) (by decide)
      (by rw [hroute]; decide), hs]
  have hname : (withPlayer playerId s).get? "name"
      = (action.get? "name").map (cleaned "name") := by
    rw [h.get?_sent (by decide) (by decide), hroute]
    rfl
  rw [samePacket_iff_of_ok h (convertUnitBuildCity_eq hs)
    (convertUnitBuildCity_eq hu), hname]
  cases hn : action.get? "name" with
  | none =>
    refine ⟨fun _ name hname => ?_, fun _ => rfl⟩
    rw [hn] at hname
    cases hname
  | some v =>
    obtain ⟨name, rfl⟩ := h.wellFormed.text "name" (by decide) v hn
    constructor
    · intro hsent name' hname'
      rw [hn] at hname'
      cases hname'
      have heq := lookup_eq_of_sent (k := "name") hsent rfl rfl (by decide)
      exact clean_eq_self_iff.mp (PyVal.str.inj (Option.some.inj heq))
    · intro htidy
      have hclean : clean name = name := clean_eq_self_iff.mpr (htidy name hn)
      have hcleaned : cleaned "name" (.str name) = .str name :=
        congrArg PyVal.str hclean
      rw [Option.map_some, hcleaned]

-- ==== moves

theorem convertUnitMove_eq {x : PyDict} {u : PyVal} {m n : Int}
    (hd : moveDestination x = .ok (.int m, .int n))
    (hu : x.get? "unit_id" = some u) :
    convertBranch rt civcom x .unitMove
      = .ok (unitOrders u (unitTile civcom u)
        (m + n * moveMapWidth civcom)
        (PacketConverter.moveDirection (moveMapWidth civcom)
          (unitTile civcom u) (m, n))) := by
  simp only [convertBranch, convertUnitMove, hd, OwnCommands.need_eq_ok.mpr hu,
    hu]
  rfl

theorem unitOrders_sent {u : PyVal} {src d e q r : Int} :
    packetSent rt found (unitOrders u src d q)
        = packetSent rt found (unitOrders u src e r) ↔ d = e ∧ q = r := by
  constructor
  · intro h
    have hd := lookup_eq_of_sent (k := "dest_tile") h rfl rfl (by decide)
    have hq := lookup_eq_of_sent (k := "orders") h rfl rfl (by decide)
    have hd' : PyVal.int d = .int e := Option.some.inj hd
    refine ⟨PyVal.int.inj hd', ?_⟩
    have hq' := PyVal.list.inj (Option.some.inj hq)
    simp at hq'
    exact hq'
  · rintro ⟨rfl, rfl⟩
    rfl

/-- A move goes where it was sent unless a nested target, which wins in
the original, says something else. -/
theorem unitMove_iff (h : Passes rt playerId gameState action t .unitMove s) :
    SamePacket rt found civcom playerId action s
      ↔ KeepsReads rt civcom playerId action .unitMove := by
  obtain ⟨type, hvalue, hb, hby⟩ := h.known
  have hagree := routesAgree_of_type hb
  simp only [routesAgree, beq_iff_eq] at hagree
  subst hagree
  have ht : t = "unit_move" := hvalue.symm
  subst ht
  have hact := h.actionType_eq
  obtain ⟨hflat, htarget⟩ := move_sanitized h.wellFormed h.sanitized hact
  have hsame : ∀ k, k ≠ "player_id" →
      (withPlayer playerId s).get? k = s.get? k :=
    fun _ hk => OwnCommands.get?_handedOn (Or.inr rfl) hk
  have hfields := validateUnitMove_fields hby
  -- the unit and the flat destination are those of the action
  obtain ⟨u, hs⟩ := hfields "unit_id" (by decide)
  have hu : action.get? "unit_id" = some u := by
    rw [← h.get?_number (by decide) (by decide) (by decide) (by decide), hs]
  obtain ⟨vx, hx⟩ := hfields "dest_x" (by decide)
  obtain ⟨vy, hy⟩ := hfields "dest_y" (by decide)
  have hax := hflat "dest_x" (by decide) vx
    (by rw [← hsame _ (by decide), hx])
  have hay := hflat "dest_y" (by decide) vy
    (by rw [← hsame _ (by decide), hy])
  obtain ⟨m, rfl⟩ := h.wellFormed.number _ (by decide) _ hax
  obtain ⟨n, rfl⟩ := h.wellFormed.number _ (by decide) _ hay
  have hsent : moveDestination (withPlayer playerId s)
      = .ok (.int m, .int n) := by
    have hnested : nestedTarget (withPlayer playerId s) = none := by
      refine nestedTarget_of_not_dict ?_
      intro e he
      rw [hsame _ (by decide), htarget] at he
      cases he
    unfold moveDestination
    rw [hnested, hx, hy]
  cases hnested : nestedTarget action with
  | none =>
    have hdest : moveDestination action = .ok (.int m, .int n) := by
      unfold moveDestination
      rw [hnested, hax, hay]
    rw [samePacket_iff_of_ok h (convertUnitMove_eq hsent hs)
      (convertUnitMove_eq hdest hu)]
    refine ⟨fun _ u' x y m' n' _ hxy => ?_, fun _ => rfl⟩
    rw [hnested] at hxy
    cases hxy
  | some xy =>
    obtain ⟨x, y⟩ := xy
    obtain ⟨p, q, rfl, rfl⟩ := nestedTarget_int h.wellFormed hnested
    have hdest : moveDestination action = .ok (.int p, .int q) := by
      unfold moveDestination
      rw [hnested]
    rw [samePacket_iff_of_ok h (convertUnitMove_eq hsent hs)
      (convertUnitMove_eq hdest hu), unitOrders_sent]
    constructor
    · rintro ⟨htile, hdirection⟩ u' x y m' n' hu' hxy hx' hy'
      rw [hu] at hu'
      rw [hnested] at hxy
      rw [hax] at hx'
      rw [hay] at hy'
      cases hu'
      cases hxy
      cases hx'
      cases hy'
      exact ⟨htile.symm, hdirection.symm⟩
    · intro hkeeps
      obtain ⟨htile, hdirection⟩ := hkeeps u p q m n hu hnested hax hay
      exact ⟨htile.symm, hdirection.symm⟩

-- ==== names in the ruleset

/-- A branch that looks a name up: the packets are the same when both
names are found and mean the same. -/
theorem samePacket_iff_of_lookups {α : Type} {packet : α → Fields}
    {x y : Option α} {e e' : PyError}
    (h : Passes rt playerId gameState action t b s)
    (hp : convertBranch rt civcom (withPlayer playerId s) b
      = x.elim (.error e) fun a => .ok (packet a))
    (hq : convertBranch rt civcom action b
      = y.elim (.error e') fun a => .ok (packet a))
    (hinj : ∀ a a', packetSent rt found (packet a)
      = packetSent rt found (packet a') → a = a') :
    SamePacket rt found civcom playerId action s
      ↔ ∃ a, y = some a ∧ x = some a := by
  cases y with
  | none =>
    refine ⟨fun hsame => absurd hsame (not_samePacket_of_error h hq), ?_⟩
    rintro ⟨a, ha, _⟩
    cases ha
  | some a =>
    cases x with
    | none =>
      refine ⟨fun hsame =>
        absurd hsame (not_samePacket_of_sent_error h hp), ?_⟩
      rintro ⟨a', _, ha'⟩
      cases ha'
    | some a' =>
      rw [samePacket_iff_of_ok h hp hq]
      constructor
      · intro hsent
        exact ⟨a, rfl, by rw [hinj a' a hsent]⟩
      · rintro ⟨a'', ha, ha'⟩
        cases ha
        cases ha'
        rfl

def cityChangePacket (cityId kind value : PyVal) : Fields :=
  [("pid", .int 35), ("city_id", cityId), ("production_kind", kind),
    ("production_value", value)]

theorem cityChangePacket_sent {c k k' v v' : PyVal} :
    packetSent rt found (cityChangePacket c k v)
        = packetSent rt found (cityChangePacket c k' v')
      ↔ k = k' ∧ v = v' := by
  constructor
  · intro h
    have hk := lookup_eq_of_sent (k := "production_kind") h rfl rfl (by decide)
    have hv := lookup_eq_of_sent (k := "production_value") h rfl rfl (by decide)
    exact ⟨Option.some.inj hk, Option.some.inj hv⟩
  · rintro ⟨rfl, rfl⟩
    rfl

theorem productionName_eq {x : PyDict} {name : String}
    (h : x.get? "production_type" = some (.str name)) (hne : name ≠ "") :
    productionName x = .ok (.str name) := by
  have hfirst : firstOf x ["production_type"] (.str "") = .str name := by
    unfold firstOf
    rw [List.findSome?_cons, h]
    rfl
  have htrue : (PyVal.str name).truthy = true := by
    simp [PyVal.truthy, hne]
  unfold productionName
  rw [hfirst]
  exact if_pos htrue

theorem convertCityProduction_none {x : PyDict} {name : String} {c : PyVal}
    (h : x.get? "production_type" = some (.str name)) (hne : name ≠ "")
    (hc : x.get? "city_id" = some c) :
    convertBranch rt none x .cityProduction
      = .ok (cityChangePacket c ((x.get? "production_kind").getD .null)
        ((x.get? "production_value").getD .null)) := by
  simp only [convertBranch, convertCityProduction, productionName_eq h hne,
    OwnCommands.need_eq_ok.mpr hc]
  rfl

theorem convertCityProduction_some (rt : PyRuntime) (m : Mirror)
    {x : PyDict} {name : String} {c : PyVal}
    (h : x.get? "production_type" = some (.str name))
    (hne : name ≠ "") (hc : x.get? "city_id" = some c) :
    convertBranch rt (some m) x .cityProduction
      = (((RulesetMapper.load rt m).mapProductionToKindValue rt name).elim
          (.error (.valueError ("Unknown production: '" ++ name ++ "'")))
          fun kv => .ok (cityChangePacket c (.int kv.1) (.int kv.2))) := by
  simp only [convertBranch, convertCityProduction, productionName_eq h hne,
    OwnCommands.need_eq_ok.mpr hc, bind, Except.bind, productionKindValue]
  cases (RulesetMapper.load rt m).mapProductionToKindValue rt name with
  | none => rfl
  | some kv => rfl

/-- A production change names the same item when the ruleset knows the
name as it came and as it is cleaned. -/
theorem cityProduction_iff
    (h : Passes rt playerId gameState action t .cityProduction s) :
    SamePacket rt found civcom playerId action s
      ↔ KeepsReads rt civcom playerId action .cityProduction := by
  obtain ⟨type, hvalue, hb, hby⟩ := h.known
  have hagree := routesAgree_of_type hb
  simp only [routesAgree, Bool.or_eq_true, beq_iff_eq] at hagree
  have hroute : routeOf t = .cityProduction := by
    rw [← hvalue]
    rcases hagree with rfl | rfl
    · decide
    · decide
  have hvalid : validateCityProduction rt (withPlayer playerId s) playerId
      gameState = .ok () := by
    rcases hagree with rfl | rfl
    · exact hby
    · exact hby
  obtain ⟨c, production, hcs, hps, htrue⟩ :=
    validateCityProduction_fields hvalid
  have hc : action.get? "city_id" = some c := by
    rw [← h.get?_number (by decide) (by decide) (by decide)
      (by rw [hroute]; decide), hcs]
  have hps' : (withPlayer playerId s).get? "production_type"
      = (action.get? "production_type").map (cleaned "production_type") := by
    rw [h.get?_sent (by decide) (by decide), hroute]
    rfl
  rw [hps] at hps'
  obtain ⟨v, hv, hcleaned⟩ := Option.map_eq_some_iff.mp hps'.symm
  obtain ⟨name, rfl⟩ := h.wellFormed.text _ (by decide) v hv
  have hproduction : production = .str (clean name) := hcleaned.symm
  subst hproduction
  have hclean : clean name ≠ "" := by
    simpa [PyVal.truthy] using htrue
  have hname : name ≠ "" := by
    rintro rfl
    exact hclean (by decide)
  cases civcom with
  | none =>
    have hdropped : ∀ k ∈ ["production_kind", "production_value"],
        (withPlayer playerId s).get? k = none := by
      intro k hk
      refine h.get?_dropped ?_ ?_ ?_
      · revert k
        decide
      · revert k
        decide
      · rw [hroute]
        revert k
        decide
    rw [samePacket_iff_of_ok h (convertCityProduction_none hps hclean hcs)
      (convertCityProduction_none hv hname hc), cityChangePacket_sent,
      hdropped _ (by decide), hdropped _ (by decide)]
    constructor
    · rintro ⟨hk, hvalue⟩ k hmem
      rcases List.mem_pair.mp hmem with rfl | rfl
      · exact hk.symm
      · exact hvalue.symm
    · intro hkeeps
      exact ⟨(hkeeps _ (by decide)).symm, (hkeeps _ (by decide)).symm⟩
  | some m =>
    rw [samePacket_iff_of_lookups h
      (convertCityProduction_some rt m hps hclean hcs)
      (convertCityProduction_some rt m hv hname hc) (by
        intro kv kv' hsent
        obtain ⟨hk, hv⟩ := cityChangePacket_sent.mp hsent
        exact Prod.ext (PyVal.int.inj hk) (PyVal.int.inj hv))]
    constructor
    · rintro ⟨kv, hraw, hcleaned⟩
      exact ⟨name, kv, hv, hraw, hcleaned⟩
    · rintro ⟨name', kv, hv', hraw, hcleaned⟩
      rw [hv] at hv'
      cases hv'
      exact ⟨kv, hraw, hcleaned⟩

theorem techName_eq {x : PyDict} {name : String}
    (h : x.get? "tech_name" = some (.str name)) (hne : name ≠ "") :
    techName x = .str name := by
  have htrue : (PyVal.str name).truthy = true := by
    simp [PyVal.truthy, hne]
  unfold techName
  rw [h]
  exact if_pos htrue

theorem convertTechResearch_some (rt : PyRuntime) (m : Mirror)
    {x : PyDict} {name : String}
    (h : x.get? "tech_name" = some (.str name)) (hne : name ≠ "") :
    convertBranch rt (some m) x .techResearch
      = (((RulesetMapper.load rt m).getTechId rt name).elim
          (.error (.valueError ("Unknown technology '" ++ name ++ "'")))
          fun tech => .ok [("pid", .int 55), ("tech", .int tech)]) := by
  have htrue : (PyVal.str name).truthy = true := by
    simp [PyVal.truthy, hne]
  simp only [convertBranch, convertTechResearch, techName_eq h hne, htrue]
  cases (RulesetMapper.load rt m).getTechId rt name with
  | none => rfl
  | some tech => rfl

theorem convertTechResearch_none (rt : PyRuntime) (x : PyDict) :
    ∃ e, convertBranch rt none x .techResearch = .error e := by
  simp only [convertBranch, convertTechResearch]
  split
  · exact ⟨_, rfl⟩
  · exact ⟨_, rfl⟩

theorem convertTechResearch_empty (rt : PyRuntime) (civcom : Option Mirror)
    {x : PyDict} (h : x.get? "tech_name" = some (.str ""))
    (ht : x.get? "target" = none) :
    ∃ e, convertBranch rt civcom x .techResearch = .error e := by
  have hname : techName x = .str "" := by
    unfold techName
    rw [h, ht]
    rfl
  simp only [convertBranch, convertTechResearch, hname]
  exact ⟨_, rfl⟩

theorem tech_of_valid
    (h : validateTechResearch rt action = .ok ()) :
    ∃ v, action.get? "tech_name" = some v := by
  unfold validateTechResearch at h
  split at h
  next => cases h
  next v hv => exact ⟨v, hv⟩

/-- A research order names the same technology when the ruleset knows
the name as it came and as it is cleaned. -/
theorem techResearch_iff
    (h : Passes rt playerId gameState action t .techResearch s) :
    SamePacket rt found civcom playerId action s
      ↔ KeepsReads rt civcom playerId action .techResearch := by
  obtain ⟨type, hvalue, hb, hby⟩ := h.known
  have hagree := routesAgree_of_type hb
  simp only [routesAgree, beq_iff_eq] at hagree
  subst hagree
  have ht : t = "tech_research" := hvalue.symm
  subst ht
  obtain ⟨w, hw⟩ := tech_of_valid hby
  have hsent : (withPlayer playerId s).get? "tech_name"
      = (action.get? "tech_name").map (cleaned "tech_name") := by
    rw [h.get?_sent (by decide) (by decide)]
    rfl
  rw [hw] at hsent
  obtain ⟨v, hv, hcleaned⟩ := Option.map_eq_some_iff.mp hsent.symm
  obtain ⟨name, rfl⟩ := h.wellFormed.text _ (by decide) v hv
  have hwclean : w = .str (clean name) := hcleaned.symm
  subst hwclean
  cases civcom with
  | none =>
    obtain ⟨e, he⟩ := convertTechResearch_none rt action
    refine ⟨fun hsame => absurd hsame (not_samePacket_of_error h he), ?_⟩
    rintro ⟨m, _, _, hm, _⟩
    cases hm
  | some m =>
    by_cases hempty : clean name = ""
    · -- nothing is left of the name
      have htarget : (withPlayer playerId s).get? "target" = none := by
        rw [OwnCommands.get?_handedOn (Or.inr rfl) (by decide),
          research_sanitized h.sanitized h.actionType_eq]
      rw [hempty] at hw
      obtain ⟨e, he⟩ := convertTechResearch_empty rt (some m) hw htarget
      refine ⟨fun hsame => absurd hsame (not_samePacket_of_sent_error h he),
        ?_⟩
      rintro ⟨m', name', tech, _, hv', _, htech⟩
      rw [hv] at hv'
      cases hv'
      rw [hempty] at htech
      cases htech
    · have hname : name ≠ "" := by
        rintro rfl
        exact hempty (by decide)
      rw [samePacket_iff_of_lookups h
        (convertTechResearch_some rt m hw hempty)
        (convertTechResearch_some rt m hv hname) (by
          intro tech tech' hsent
          have heq := lookup_eq_of_sent (k := "tech") hsent rfl rfl (by decide)
          exact PyVal.int.inj (Option.some.inj heq))]
      constructor
      · rintro ⟨tech, hraw, hcleaned⟩
        exact ⟨m, name, tech, rfl, hv, hraw, hcleaned⟩
      · rintro ⟨m', name', tech, hm, hv', hraw, hcleaned⟩
        rw [hv] at hv'
        cases hm
        cases hv'
        exact ⟨tech, hraw, hcleaned⟩

-- ==== diplomacy

section diplomacy

variable (h : Passes rt playerId gameState action t b s)

include h

theorem Passes.counterpart {type : ActionType}
    (hby : validateByType rt (withPlayer playerId s) type playerId gameState
      = .ok ()) (hc : type.category = .diplomacy)
    (hroute : routeOf t = .diplomacy) :
    ∃ v, (withPlayer playerId s).get? "target_player_id" = some v
      ∧ action.get? "target_player_id" = some v := by
  obtain ⟨⟨v, hv⟩, _⟩ := counterpart_of_valid hby hc
  refine ⟨v, hv, ?_⟩
  rw [← h.get?_number (by decide) (by decide) (by decide)
    (by rw [hroute]; decide), hv]

end diplomacy

theorem meeting_same {pid : Int}
    (h : Passes rt playerId gameState action t (.meeting pid) s) :
    SamePacket rt found civcom playerId action s := by
  obtain ⟨type, hvalue, hb, hby⟩ := h.known
  have hagree := routesAgree_of_type hb
  simp only [routesAgree, hvalue, Bool.and_eq_true, beq_iff_eq] at hagree
  obtain ⟨v, hs, ha⟩ := h.counterpart hby hagree.1 hagree.2
  have hpacket : ∀ x : PyDict, x.get? "target_player_id" = some v →
      convertBranch rt civcom x (.meeting pid)
        = .ok [("pid", .int pid), ("counterpart", v)] := by
    intro x hx
    simp only [convertBranch, OwnCommands.need_eq_ok.mpr hx]
    rfl
  rw [samePacket_iff_of_ok h (hpacket _ hs) (hpacket _ ha)]

/-- A cancelled pact stays the same when its clause is read from kept
fields. -/
theorem cancelPact_iff {keys : List String} {clause : Int}
    (h : Passes rt playerId gameState action t (.cancelPact keys clause) s) :
    SamePacket rt found civcom playerId action s
      ↔ KeepsReads rt civcom playerId action (.cancelPact keys clause) := by
  obtain ⟨type, hvalue, hb, hby⟩ := h.known
  have hagree := routesAgree_of_type hb
  simp only [routesAgree, hvalue, Bool.and_eq_true, beq_iff_eq] at hagree
  obtain ⟨⟨hc, hroute⟩, hkeys⟩ := hagree
  obtain ⟨v, hs, ha⟩ := h.counterpart hby hc hroute
  have hpacket : ∀ x : PyDict, x.get? "target_player_id" = some v →
      convertBranch rt civcom x (.cancelPact keys clause)
        = .ok [("pid", .int 105), ("other_player_id", v),
          ("clause", firstOf x keys (.int clause))] := by
    intro x hx
    simp only [convertBranch, OwnCommands.need_eq_ok.mpr hx]
    rfl
  rw [samePacket_iff_of_ok h (hpacket _ hs) (hpacket _ ha),
    h.firstOf_sent hroute hkeys]
  constructor
  · intro hsent
    have heq := lookup_eq_of_sent (k := "clause") hsent rfl rfl (by decide)
    exact (Option.some.inj heq).symm
  · intro hsame
    have hsame' : firstOf action keys (.int clause) = _ := hsame
    rw [hsame']

theorem clause_pid {type : ActionType} {pid n : Int}
    (h : OwnCommands.branchOfType type = some (.clause pid n)) :
    pid = 99 ∨ pid = 101 := by
  have hall : (branches.all fun e => match e.2 with
      | .clause pid _ => pid == 99 || pid == 101
      | _ => true) = true := by decide
  have hclause := List.all_eq_true.mp hall _ (mem_of_lookup h)
  simpa using hclause

/-- A clause names the sender as its giver, once the player is filled
in. -/
theorem clause_iff {pid n : Int}
    (h : Passes rt playerId gameState action t (.clause pid n) s) :
    SamePacket rt found civcom playerId action s
      ↔ KeepsReads rt civcom playerId action (.clause pid n) := by
  obtain ⟨type, hvalue, hb, hby⟩ := h.known
  have hagree := routesAgree_of_type hb
  simp only [routesAgree, hvalue, Bool.and_eq_true, beq_iff_eq] at hagree
  obtain ⟨v, hs, ha⟩ := h.counterpart hby hagree.1 hagree.2
  have hgiver : firstOf (withPlayer playerId s) ["giver", "player_id"]
      (.int (-1)) = .int playerId := by
    have hdropped : (withPlayer playerId s).get? "giver" = none :=
      h.get?_dropped (by decide) (by decide) (by rw [hagree.2]; decide)
    unfold firstOf
    rw [List.findSome?_cons, hdropped, List.findSome?_cons, h.player_sent]
    rfl
  have hpacket : ∀ x : PyDict, x.get? "target_player_id" = some v →
      convertBranch rt civcom x (.clause pid n)
        = .ok [("pid", .int pid), ("counterpart", v),
          ("giver", firstOf x ["giver", "player_id"] (.int (-1))),
          ("type", .int n), ("value", .int 0)] := by
    intro x hx
    simp only [convertBranch, convertClause, OwnCommands.need_eq_ok.mpr hx]
    rfl
  rw [samePacket_iff_of_ok h (hpacket _ hs) (hpacket _ ha), hgiver]
  constructor
  · intro hsent
    have heq : some (PyVal.int playerId)
        = some (firstOf action ["giver", "player_id"] (.int (-1))) := by
      refine lookup_eq_of_sent (k := "giver") hsent rfl rfl ?_
      rcases clause_pid hb with rfl | rfl
      · decide
      · decide
    exact (Option.some.inj heq).symm
  · intro hsame
    have hsame' : firstOf action ["giver", "player_id"] (.int (-1))
        = .int playerId := hsame
    rw [hsame']

/-- The text of a message: addressed, when there is somebody. -/
def messageText (n : Int) (message : String) : String :=
  if 0 ≤ n then "/msg " ++ toString n ++ " " ++ message else message

theorem messageText_inj {n : Int} {m m' : String}
    (h : messageText n m = messageText n m') : m = m' := by
  unfold messageText at h
  split at h
  · exact (String.append_right_inj _).mp h
  · exact h

theorem convertMessage_eq {x : PyDict} {n : Int} {message : String}
    (hm : x.get? "message" = some (.str message))
    (hn : x.get? "target_player_id" = some (.int n)) :
    convertBranch rt civcom x .message
      = .ok [("pid", .int 26), ("message", .str (messageText n message))] := by
  have hm' : firstOf x ["message"] (.str "") = .str message := by
    unfold firstOf
    rw [List.findSome?_cons, hm]
    rfl
  have hn' : firstOf x ["target_player_id"] (.int (-1)) = .int n := by
    unfold firstOf
    rw [List.findSome?_cons, hn]
    rfl
  have hge : (PyVal.int n).ge 0 = .ok (decide (0 ≤ n)) := by
    simp [PyVal.ge]
  simp only [convertBranch, convertMessage, hm', hn', hge, bind, Except.bind]
  unfold messageText
  by_cases hn : 0 ≤ n
  · simp [hn, PyVal.toStr]
    rfl
  · simp [hn]
    rfl

theorem message_iff (h : Passes rt playerId gameState action t .message s) :
    SamePacket rt found civcom playerId action s
      ↔ KeepsReads rt civcom playerId action .message := by
  obtain ⟨type, hvalue, hb, hby⟩ := h.known
  have hagree := routesAgree_of_type hb
  simp only [routesAgree, beq_iff_eq] at hagree
  subst hagree
  have hroute : routeOf t = .diplomacy := by
    rw [← hvalue]
    decide
  obtain ⟨v, hs, ha⟩ := h.counterpart hby rfl hroute
  obtain ⟨n, rfl⟩ := h.wellFormed.number _ (by decide) _ ha
  obtain ⟨w, hw⟩ := (counterpart_of_valid hby rfl).2 rfl
  have hsent : (withPlayer playerId s).get? "message"
      = (action.get? "message").map (cleaned "message") := by
    rw [h.get?_sent (by decide) (by decide), hroute]
    rfl
  rw [hw] at hsent
  obtain ⟨m, hm, hcleaned⟩ := Option.map_eq_some_iff.mp hsent.symm
  obtain ⟨message, rfl⟩ := h.wellFormed.text _ (by decide) m hm
  have hwclean : w = .str (cleanMessage message) := hcleaned.symm
  subst hwclean
  rw [samePacket_iff_of_ok h (convertMessage_eq hw hs)
    (convertMessage_eq hm ha)]
  constructor
  · intro hpq message' hm'
    rw [hm] at hm'
    cases hm'
    have heq := lookup_eq_of_sent (k := "message") hpq rfl rfl (by decide)
    exact cleanMessage_eq_self_iff.mp
      (messageText_inj (PyVal.str.inj (Option.some.inj heq)))
  · intro htidy
    rw [cleanMessage_eq_self_iff.mpr (htidy message hm)]

-- ==== the whole converter

theorem city_not_dropped {type : ActionType}
    (h : Passes rt playerId gameState action t b s)
    (hby : validateByType rt (withPlayer playerId s) type playerId gameState
      = .ok ()) (hc : type.category = .cityManagement) :
    routeOf t ≠ .nothing := by
  intro hroute
  obtain ⟨v, hv⟩ := city_of_valid hby hc
  rw [h.get?_dropped (by decide) (by decide) (by rw [hroute]; decide)] at hv
  cases hv

/-- The sanitised action becomes the packet of the original one exactly
when the converter reads nothing the sanitizer drops or changes. -/
theorem same_packet_iff
    (h : Passes rt playerId gameState action t b s) :
    SamePacket rt found civcom playerId action s
      ↔ KeepsReads rt civcom playerId action b := by
  obtain ⟨type, hvalue, hb, hby⟩ := h.known
  have hagree := routesAgree_of_type hb
  cases b with
  | unitMove => exact unitMove_iff h
  | cityProduction => exact cityProduction_iff h
  | techResearch => exact techResearch_iff h
  | endTurn =>
    rw [samePacket_iff_of_ok h rfl rfl]
    exact ⟨fun _ => trivial, fun _ => rfl⟩
  | unitBuildCity => exact unitBuildCity_iff h
  | serverSideAgent =>
    exact ⟨fun _ => trivial, fun _ => serverSideAgent_same h⟩
  | changeActivity activity unitRequired targetKeys =>
    exact changeActivity_iff h
  | doAction spec => exact doAction_iff h
  | meeting pid => exact ⟨fun _ => trivial, fun _ => meeting_same h⟩
  | cancelPact clauseKeys clause => exact cancelPact_iff h
  | clause pid n => exact clause_iff h
  | message => exact message_iff h
  | cityBuy | citySellImprovement | cityRename | cityWorklist =>
    simp only [routesAgree, hvalue, Bool.and_eq_true, beq_iff_eq] at hagree
    exact absurd hagree.2 (city_not_dropped h hby hagree.1)

def unitSeven : StateDict :=
  [(.str "units", .dict [(.str "7", .dict [(.str "id", .int 7),
    (.str "owner", .int 1), (.str "moves_left", .int 3)])])]

def fortify : PyDict :=
  Dict.ofList [("type", .str "unit_fortify"), ("unit_id", .int 7)]

/-- A dict without coordinates, texts and target is well formed when its
numbers are integers. -/
theorem wellFormed_of_entries {x : PyDict}
    (h : ∀ e ∈ x.entries, e.1 = "type" ∨ (∃ n, e.2 = .int n)
      ∧ e.1 ∉ "target" :: textKeys) : WellFormed x where
  number k hk v hv := by
    rcases h _ (Dict.mem_entries_iff.mpr hv) with htype | ⟨hint, _⟩
    · have hk' : k = "type" := htype
      subst hk'
      exact absurd hk (by decide)
    · exact hint
  text k hk v hv := by
    rcases h _ (Dict.mem_entries_iff.mpr hv) with htype | ⟨_, hno⟩
    · have hk' : k = "type" := htype
      subst hk'
      exact absurd hk (by decide)
    · exact absurd (List.mem_cons_of_mem _ hk) hno
  target e he := by
    rcases h _ (Dict.mem_entries_iff.mpr he) with htype | ⟨_, hno⟩
    · have hne : "target" = "type" := htype
      exact absurd hne (by decide)
    · exact absurd List.mem_cons_self hno

theorem fortify_passes : Passes .ascii 1 (some unitSeven) fortify
    "unit_fortify" (.changeActivity 10 true []) fortify where
  wellFormed := by
    refine wellFormed_of_entries ?_
    intro e he
    rcases List.mem_pair.mp he with rfl | rfl
    · exact Or.inl rfl
    · exact Or.inr ⟨⟨7, rfl⟩, by decide⟩
  type := rfl
  supported := by decide +kernel
  sanitized := by rfl
  valid := by decide +kernel

/-- The fortify order goes through unchanged. -/
theorem fortify_same_packet : SamePacket .ascii true none 1 fortify fortify :=
  (same_packet_iff fortify_passes).mpr rfl

/-- A pillage order names its tile by a field the sanitizer drops. -/
def pillage : PyDict :=
  Dict.ofList [("type", .str "unit_pillage"), ("unit_id", .int 7),
    ("tile_id", .int 130)]

def pillageSent : PyDict :=
  Dict.ofList [("type", .str "unit_pillage"), ("unit_id", .int 7)]

/-- The pillage order is accepted, and sent with -1 for its tile. -/
theorem pillage_loses_its_tile :
    Passes .ascii 1 (some unitSeven) pillage "unit_pillage"
        (.doAction ⟨65, [], .fields ["tile_id", "target_id"], combatSub,
          some (-1)⟩) pillageSent
      ∧ ¬ SamePacket .ascii true none 1 pillage pillageSent := by
  have hpasses : Passes .ascii 1 (some unitSeven) pillage "unit_pillage"
      (.doAction ⟨65, [], .fields ["tile_id", "target_id"], combatSub,
        some (-1)⟩) pillageSent :=
    { wellFormed := by
        refine wellFormed_of_entries ?_
        intro e he
        rcases List.mem_cons.mp he with rfl | he
        · exact Or.inl rfl
        rcases List.mem_pair.mp he with rfl | rfl
        · exact Or.inr ⟨⟨7, rfl⟩, by decide⟩
        · exact Or.inr ⟨⟨130, rfl⟩, by decide⟩
      type := rfl
      supported := by decide +kernel
      sanitized := by rfl
      valid := by decide +kernel }
  refine ⟨hpasses, ?_⟩
  intro hsame
  obtain ⟨_, _, htarget, _⟩ := (doAction_iff hpasses).mp hsame
  -- the tile the original names, and the default that stands in for it
  have hlost : PyVal.int 130 = .int (-1) := htarget
  exact absurd (PyVal.int.inj hlost) (by decide)

end SamePackets

end Freeciv3d.Proxy
