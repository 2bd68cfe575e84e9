/-
Which changes the packets' handlers notice: of a unit its tile, and
nothing else; of a city none at all.

# After the merge

`$.extend` merges a packet into the object that is in the table, so what
is compared with the packet after that is equal to it. `handle_city_info`
compares the production and the shield stock then, and
`handle_unit_packet_common` compares `done_moving`. That the owner has
changed is to be seen from a look-up that finds the unit whatever its
owner.
-/
import Freeciv3d.Web.ActionReplies
import Freeciv3d.Web.Proofs.UnitIndex

namespace Freeciv3d.Web

open Lib

-- ==== the statement

/-- Production or shield stock differ from what the city had. -/
def CityPacket.Changes (packet : CityPacket) (city : CityRecord) : Prop :=
  city.productionKind ≠ some packet.productionKind
    ∨ city.productionValue ≠ some packet.productionValue
    ∨ city.shieldStock ≠ some packet.shieldStock

instance (packet : CityPacket) (city : CityRecord) :
    Decidable (packet.Changes city) :=
  inferInstanceAs (Decidable (_ ∨ _))

/-- A packet that has every field: a `PACKET_UNIT_INFO`. -/
structure UnitPacket.Full (packet : UnitPacket) : Prop where
  homecity : packet.homecity.isSome = true
  movesleft : packet.movesleft.isSome = true
  doneMoving : packet.doneMoving.isSome = true
  ssaController : packet.ssaController.isSome = true
  hasOrders : packet.hasOrders.isSome = true
  actionDecisionWant : packet.actionDecisionWant.isSome = true
  actionDecisionTile : packet.actionDecisionTile.isSome = true

def UnitPacket.Changes (packet old : UnitPacket) : UnitChange → Prop
  | .position => packet.tile ≠ old.tile
  | .owner => packet.owner ≠ old.owner
  | .doneMoving => packet.doneMoving ≠ old.doneMoving

instance (packet old : UnitPacket) : DecidablePred (packet.Changes old)
  | .position | .owner | .doneMoving => inferInstanceAs (Decidable (_ ≠ _))

namespace UnitClient

/-- The refresh requests for a unit that were sent. -/
def refreshes (c : UnitClient) (actor : Nat) : Nat :=
  c.requests.countP fun request =>
    match request with
    | .getActions unit _ _ _ .backgroundRefresh => unit == actor
    | _ => false

/-- One refresh is requested for the actor of the open action selection if
the packet changes its target, and none else. -/
def RefreshExact (c : UnitClient) (packet : CityPacket)
    (city : CityRecord) : Prop :=
  (settle (c.handleCityInfo packet)).refreshes c.inProgressFor
    = c.refreshes c.inProgressFor + if packet.Changes city then 1 else 0

/-- The code for a change runs once if the packet makes it, and not
else. -/
def NoticeExact (c : UnitClient) (packet : UnitPacket) (best : Option Nat)
    (old : UnitRecord) : Prop :=
  ∀ change, (settle (c.handleUnitInfo packet best)).noticed.count change
    = c.noticed.count change
      + if packet.Changes old.toUnitPacket change then 1 else 0

variable {c : UnitClient}

-- ==== the cities

theorem handleCityInfo_eq (c : UnitClient) (packet : CityPacket) :
    c.handleCityInfo packet
      = .ok { c with cities := c.cities.set packet.id packet.record } := by
  unfold handleCityInfo
  simp only [Dict.get?_set_self]
  split
  case h_1 pcity targets hcity _ =>
    obtain rfl := Option.some.inj hcity
    have hsame : ¬ ((packet.record.productionKind ≠ some packet.productionKind
        ∨ packet.record.productionValue ≠ some packet.productionValue)
          ∨ packet.record.shieldStock ≠ some packet.shieldStock) := by
      simp [CityPacket.record]
    rw [if_neg fun h => hsame h.1]
  case h_2 => rfl

theorem refreshExact_iff (c : UnitClient) (packet : CityPacket)
    (city : CityRecord) :
    c.RefreshExact packet city ↔ ¬ packet.Changes city := by
  unfold RefreshExact
  rw [handleCityInfo_eq]
  show c.refreshes c.inProgressFor = _ ↔ _
  split
  case isTrue h => simp [h]
  case isFalse h => simp [h]

-- ==== the units

@[simp] theorem noticed_askServerForActions (c : UnitClient)
    (punit : UnitPacket) :
    (c.askServerForActions punit).noticed = c.noticed := by
  unfold askServerForActions
  split <;> rfl

@[simp] theorem noticed_actionDecisionHandle (c : UnitClient)
    (punit : UnitPacket) :
    (c.actionDecisionHandle punit).noticed = c.noticed := by
  unfold actionDecisionHandle actionDecisionRequest unitFocusUrgent
  split
  · rfl
  · split
    · rfl
    · split <;> simp

theorem noticed_settle_updateUnitPosition (c : UnitClient) (tile : Nat) :
    (settle (c.updateUnitPosition tile)).noticed = c.noticed := by
  unfold updateUnitPosition
  split <;> rfl

/-- Once a unit is merged with a packet that has `done_moving`, nothing
more is noticed. -/
theorem noticed_unitPacketMerged {packet : UnitPacket} {u : UnitRecord}
    (hunit : c.units.get? packet.id = some u)
    (hdone : u.doneMoving = packet.doneMoving)
    (oldTile best : Option Nat) :
    (settle (c.unitPacketMerged packet oldTile best)).noticed
      = c.noticed := by
  have hfound : (c.updateTileUnit packet).gameFindUnitByNumber packet.id
      = some u := hunit
  unfold unitPacketMerged
  simp only [hfound, Option.bind_some, hdone, ne_eq, not_true_eq_false,
    and_false, if_false]
  cases oldTile with
  | none => exact noticed_settle_updateUnitPosition _ _
  | some tile =>
    show (settle (((c.updateTileUnit packet).updateUnitPosition tile).bind
      fun c => c.updateUnitPosition packet.tile)).noticed = _
    unfold updateUnitPosition
    split
    · exact noticed_settle_updateUnitPosition _ _
    · rfl

/-- What is noticed of a known unit: a new tile, unless the handler throws
because of the owner. -/
theorem noticed_handleUnitInfo {packet : UnitPacket} {old : UnitRecord}
    (hfull : packet.Full) (hold : c.units.get? packet.id = some old)
    (best : Option Nat) :
    (settle (c.handleUnitInfo packet best)).noticed
      = c.noticed ++
        if (c.players.contains packet.owner
            || !c.players.contains old.owner) = true
          ∧ packet.tile ≠ old.tile then [.position] else [] := by
  unfold handleUnitInfo handleUnitPacketCommon playerFindUnitById
  simp only [hold]
  by_cases hplayers : (c.players.contains packet.owner
      || !c.players.contains old.owner) = true
  · have hfound : (c.clearTileUnit old.toUnitPacket).gameFindUnitByNumber
        packet.id = some old := hold
    simp only [hplayers, if_true, hfound, true_and]
    obtain ⟨done, hdone⟩ := Option.isSome_iff_exists.mp hfull.doneMoving
    rw [noticed_unitPacketMerged (Dict.get?_set_self ..) (by
      show packet.doneMoving.or old.doneMoving = packet.doneMoving
      rw [hdone]
      rfl)]
    split <;> split <;> simp [notice, clearTileUnit]
  · have hnot : ¬ ((c.players.contains packet.owner
        || !c.players.contains old.owner) = true
          ∧ packet.tile ≠ old.tile) := fun h => hplayers h.1
    rw [if_neg hplayers, if_neg hnot, List.append_nil]
    rfl

/-- The handler of a unit packet notices exactly what changes if and only
if neither owner nor `done_moving` do. -/
theorem noticeExact_iff {packet : UnitPacket} {old : UnitRecord}
    (hfull : packet.Full) (hold : c.units.get? packet.id = some old)
    (best : Option Nat) :
    c.NoticeExact packet best old
      ↔ packet.owner = old.owner ∧ packet.doneMoving = old.doneMoving := by
  unfold NoticeExact
  simp only [noticed_handleUnitInfo hfull hold best, List.count_append,
    Nat.add_left_cancel_iff]
  have hother : ∀ change, change ≠ .position →
      List.count change
        (if (c.players.contains packet.owner
            || !c.players.contains old.owner) = true
          ∧ packet.tile ≠ old.tile then [UnitChange.position] else [])
        = 0 := by
    intro change hchange
    split
    · exact List.count_eq_zero.mpr fun hmem =>
        hchange (List.mem_singleton.mp hmem)
    · rfl
  constructor
  · intro h
    have hunchanged : ∀ change, change ≠ .position →
        ¬ packet.Changes old.toUnitPacket change := by
      intro change hne hchange
      have hcount := h change
      rw [hother change hne, if_pos hchange] at hcount
      cases hcount
    exact ⟨not_not.mp (hunchanged .owner UnitChange.noConfusion),
      not_not.mp (hunchanged .doneMoving UnitChange.noConfusion)⟩
  · rintro ⟨howner, hdone⟩ change
    have hplayers : (c.players.contains packet.owner
        || !c.players.contains old.owner) = true := by
      rw [howner]
      cases c.players.contains old.owner <;> rfl
    cases change with
    | position =>
      by_cases htile : packet.tile = old.tile
      · rw [if_neg fun h => h.2 htile,
          if_neg fun h : packet.Changes old.toUnitPacket .position =>
            h htile]
        rfl
      · rw [if_pos ⟨hplayers, htile⟩,
          if_pos (show packet.Changes old.toUnitPacket .position
            from htile)]
        rfl
    | owner =>
      rw [hother .owner UnitChange.noConfusion,
        if_neg fun h : packet.Changes old.toUnitPacket .owner => h howner]
    | doneMoving =>
      rw [hother .doneMoving UnitChange.noConfusion,
        if_neg fun h : packet.Changes old.toUnitPacket .doneMoving =>
          h hdone]

-- ==== no code at all

-- ==== the claim

/-- A unit that wants a decision about the tile of a city, on its way to
the action selection dialog. -/
def caravanArrives : List SelectionAct :=
  [.units (.mapInfo 2 2), .cityInfo ⟨3, 1, 0, 5, 10⟩,
    .units (.unitInfo { unitSeven 0 0 with
      actionDecisionWant := some .active
      actionDecisionTile := some 1 } none),
    .units (.setUnitFocus (some 7)),
    .unitActions
      { actorUnitId := 7, targetUnitId := 0, targetCityId := 3
        targetTileId := 1, targetExtra := none
        requestKind := .playerInitiated, possible := true
        attackPossible := false }]

def caravanClient : UnitClient :=
  (selectionRuns.exec (init twoPlayers) caravanArrives).getD (init twoPlayers)

theorem unitSeven_full (owner tile : Nat) : (unitSeven owner tile).Full :=
  ⟨rfl, rfl, rfl, rfl, rfl, rfl, rfl⟩

end UnitClient

end Freeciv3d.Web
