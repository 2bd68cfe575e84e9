/-
Whole runs of the action selection: every event in turn keeps it orderly
and leaves the lock of another unit where it is; and the runs that break
the lock.
-/
import Freeciv3d.Web.Proofs.SelectionDialogs
import Freeciv3d.Web.Proofs.SelectionFocus
import Freeciv3d.Web.Proofs.NoticedChanges

namespace Freeciv3d.Web

open Lib

namespace UnitClient

variable {c c' : UnitClient}

-- ==== one event

theorem orderly_unitsStep (h : c.toSelection.Orderly) {act : UnitAct}
    (hc : c.UnitsInTurn act) (hs : c.step act = some c') :
    c'.toSelection.Orderly := by
  cases act with
  | mapInfo xsize ysize | settings settings =>
    cases hs
    exact h
  | unitInfo packet best | unitShortInfo packet best =>
    cases hs
    exact orderly_unitPacket h hc best
  | unitRemove unitId best =>
    cases hs
    cases hfind : c.gameFindUnitByNumber unitId with
    | none =>
      unfold handleUnitRemove
      simp only [hfind]
      exact h
    | some punit => exact orderly_unitRemove h hfind (hc punit hfind)
  | setUnitFocus unitId =>
    cases unitId with
    | none =>
      cases hs
      exact h
    | some id =>
      obtain ⟨punit, hfind, rfl⟩ := Option.map_eq_some_iff.mp hs
      rw [selection_setUnitFocus]
      exact orderly_next (c := c.focusOn punit) h (hc punit hfind)
  | advanceUnitFocus best =>
    cases hs
    exact orderly_advanceUnitFocus h hc
  | focusTile index =>
    obtain ⟨-, hs'⟩ := Option.ite_none_right_eq_some.mp hs
    cases hs'
    exact h

/-- An event that addresses a request or a dialog finds one of its
kind. -/
theorem selectionStep_inv {act : SelectionAct}
    (hs : c.selectionStep act = some c') :
    match act with
    | .actionAnswer i actionType => ∃ actor target action,
        c.requests[i]? = some (.actionQuery actor target action)
          ∧ c' = (c.withoutRequest i).handleUnitActionAnswer actor target
            actionType
    | .sabotageList i => ∃ actor target action,
        c.requests[i]? = some (.actionQuery actor target action)
          ∧ c' = settle ((c.withoutRequest i).handleCitySabotageList actor)
    | .nameSuggestion i => ∃ actor,
        c.requests[i]? = some (.cityNameSuggestion actor)
          ∧ c' = (c.withoutRequest i).openDialog (.cityName actor)
    | .click i button => ∃ actor targets,
        c.dialogs[i]? = some (.actionSelection actor targets)
          ∧ c' = settle (c.actionSelectionClick actor targets button)
    | .followUpDone i => ∃ kind actor,
        c.dialogs[i]? = some (.followUp kind actor)
          ∧ c' = c.followUpDone kind actor
    | .chooseTarget i targetUnit targetExtra => ∃ kind actor tile,
        c.dialogs[i]? = some (.selectTarget kind actor tile)
          ∧ c' = c.chooseTarget kind actor targetUnit tile targetExtra
    | .closeTarget i => ∃ kind actor tile,
        c.dialogs[i]? = some (.selectTarget kind actor tile)
          ∧ c' = c.closeTarget kind actor
    | .cityNameDone i => ∃ actor,
        c.dialogs[i]? = some (.cityName actor) ∧ c' = c.cityNameDone actor
    | _ => True := by
  cases act with
  | actionAnswer i actionType | sabotageList i
  | chooseTarget i targetUnit targetExtra | closeTarget i =>
    simp only [selectionStep] at hs
    split at hs
    case h_1 hi => exact ⟨_, _, _, hi, (Option.some.inj hs).symm⟩
    case h_2 => cases hs
  | nameSuggestion i =>
    simp only [selectionStep] at hs
    split at hs
    case h_1 hi => exact ⟨_, hi, (Option.some.inj hs).symm⟩
    case h_2 => cases hs
  | click i button =>
    simp only [selectionStep] at hs
    split at hs
    case h_1 hi => exact ⟨_, _, hi, (Option.some.inj hs).symm⟩
    case h_2 => cases hs
  | followUpDone i =>
    simp only [selectionStep] at hs
    split at hs
    case h_1 hi => exact ⟨_, _, hi, (Option.some.inj hs).symm⟩
    case h_2 => cases hs
  | cityNameDone i =>
    simp only [selectionStep] at hs
    split at hs
    case h_1 hi => exact ⟨_, hi, (Option.some.inj hs).symm⟩
    case h_2 => cases hs
  | _ => trivial

theorem orderly_step (h : c.toSelection.Orderly) {act : SelectionAct}
    (hc : c.InTurn act) (hs : c.selectionStep act = some c') :
    c'.toSelection.Orderly := by
  cases act with
  | units act => exact orderly_unitsStep h hc hs
  | selectUnits ids =>
    obtain ⟨-, hs'⟩ := Option.ite_none_right_eq_some.mp hs
    cases hs'
    exact orderly_next (c := { c with currentFocus := .own ids }) h hc
  | cityInfo packet =>
    cases hs
    rw [handleCityInfo_eq]
    exact h
  | unitActions packet =>
    cases hs
    exact orderly_unitActions h hc
  | actionAnswer i actionType =>
    obtain ⟨actor, target, action, hi, rfl⟩ := selectionStep_inv hs
    exact orderly_actionAnswer h hi (hc _ hi)
  | sabotageList i =>
    obtain ⟨actor, target, action, hi, rfl⟩ := selectionStep_inv hs
    exact orderly_sabotageList h hi (hc _ hi)
  | nameSuggestion i =>
    obtain ⟨actor, hi, rfl⟩ := selectionStep_inv hs
    exact orderly_answerDialog h hi rfl rfl rfl
  | click i button =>
    obtain ⟨actor, targets, hi, rfl⟩ := selectionStep_inv hs
    exact orderly_click h hi (hc _ hi)
  | followUpDone i =>
    obtain ⟨kind, actor, hi, rfl⟩ := selectionStep_inv hs
    exact orderly_dialogDone h (hc _ hi)
  | chooseTarget i targetUnit targetExtra =>
    obtain ⟨kind, actor, tile, hi, rfl⟩ := selectionStep_inv hs
    exact orderly_chooseTarget h hi
  | closeTarget i =>
    obtain ⟨kind, actor, tile, hi, rfl⟩ := selectionStep_inv hs
    exact orderly_closeTarget h (hc _ hi)
  | cityNameDone i =>
    obtain ⟨actor, hi, rfl⟩ := selectionStep_inv hs
    exact orderly_dialogDone h (hc _ hi)

-- ==== whose lock it is

theorem kept_of_mem (h : c.toSelection.Locked) {act : SelectionAct}
    (hmem : ∀ unit ∈ c.concerns act, unit ∈ c.underWay) : c.Kept act c' :=
  fun unit hunit hlock hother =>
    absurd (h.eq_of_mem (hmem unit hunit) hlock) hother

/-- A dialog for the unit of the lock, or while it is free, does not
move the lock. -/
theorem lock_popup {actorUnit : UnitRecord} (hfree : c.FreeOrOf actorUnit.id)
    {targetTile targetExtra targetUnit targetCity : Option Nat} :
    (settle (c.popupActionSelection actorUnit targetTile targetExtra
      targetUnit targetCity)).inProgressFor = c.inProgressFor := by
  unfold popupActionSelection
  simp only [if_neg (not_closes hfree _)]
  split <;> rfl

theorem kept_unitActions {packet : UnitActions}
    (hc : c.ReplyInTurn packet) : c.Kept (.unitActions packet)
      (settle ((c.answered packet).handleUnitActions packet)) := by
  intro unit hunit hlock hother
  obtain rfl : packet.actorUnitId = unit := Option.some.inj hunit
  unfold ReplyInTurn at hc
  cases hkind : packet.requestKind with
  | playerInitiated =>
    simp only [hkind] at hc
    split at hc
    case isTrue hactions =>
      have hthere := hactions
      simp only [hasActions, Bool.and_eq_true] at hthere
      obtain ⟨actorUnit, hfind⟩ :=
        Option.isSome_iff_exists.mp hthere.1.1
      obtain ⟨targetUnit, targetCity, heq⟩ :=
        handleUnitActions_popup (c := c.answered packet) hkind hfind hactions
      rw [heq]
      exact lock_popup (c := c.answered packet) (hc actorUnit hfind).1
    case isFalse =>
      rcases hc.1 with hfree | hsame
      · exact absurd hfree hlock
      · exact absurd hsame hother
  | backgroundRefresh =>
    simp only [hkind] at hc
    unfold handleUnitActions
    simp only [hkind]
    cases hfind : (c.answered packet).gameFindUnitByNumber
        packet.actorUnitId with
    | none => rfl
    | some actorUnit =>
      exact lock_popup (c := (c.answered packet).removeElement
        (.actionSelection actorUnit.id)) (hc actorUnit hfind).1
  | backgroundFastAutoAttack =>
    unfold handleUnitActions
    simp only [hkind]
    unfold actionDecisionMaybeAuto
    split
    · split <;> rfl
    · split
      · exact lock_actionDecisionRequest (c := c.answered packet) hlock _
      · rfl

theorem kept_unitRemove (h : c.toSelection.Locked) {unitId : Nat}
    {best : Option Nat} (hc : c.UnitsInTurn (.unitRemove unitId best)) :
    c.Kept (.units (.unitRemove unitId best))
      (settle (c.handleUnitRemove unitId best)) := by
  intro unit hunit hlock hother
  obtain ⟨punit, hfind, rfl⟩ := Option.map_eq_some_iff.mp hunit
  obtain ⟨-, hadvance, -⟩ := hc punit hfind
  have hdismissed : c.dismissed punit = c := if_neg hother
  have hwithout : c.selectionWithout punit = c.toSelection := if_neg hother
  rw [selection_handleUnitRemove hfind, hdismissed]
  cases hnext : c.askedOnAdvance punit best with
  | none => rfl
  | some next =>
    have henter := hadvance next hnext
    rw [hwithout] at henter
    exact lock_ask (c := c.clearTileUnit punit.toUnitPacket) h
      (fun _ hu => hu) (henter.of_tiles (List.length_modify ..) rfl) hlock

theorem kept_step (h : c.toSelection.Orderly) {act : SelectionAct}
    (hc : c.InTurn act) (hs : c.selectionStep act = some c') :
    c.Kept act c' := by
  have hdialog : ∀ {i : Nat} {dialog : Dialog},
      c.dialogs[i]? = some dialog →
        ∀ unit ∈ c.dialogs[i]?.map Dialog.actor, unit ∈ c.underWay := by
    intro i dialog hi unit hunit
    rw [hi] at hunit
    obtain rfl : dialog.actor = unit := Option.some.inj hunit
    exact mem_underWay_of_dialog hi
  have hrequest : ∀ {i : Nat} {request : Request},
      c.requests[i]? = some request → request.foreground = true →
        ∀ unit ∈ c.requests[i]?.map Request.actor, unit ∈ c.underWay := by
    intro i request hi hforeground unit hunit
    rw [hi] at hunit
    obtain rfl : request.actor = unit := Option.some.inj hunit
    exact mem_underWay_of_request hi hforeground
  cases act with
  | units act =>
    cases act with
    | unitRemove unitId best =>
      cases hs
      exact kept_unitRemove h.toLocked hc
    | _ => exact fun unit hunit => nomatch hunit
  | selectUnits ids | cityInfo packet => exact fun unit hunit => nomatch hunit
  | unitActions packet =>
    cases hs
    exact kept_unitActions hc
  | actionAnswer i actionType | sabotageList i =>
    obtain ⟨actor, target, action, hi, -⟩ := selectionStep_inv hs
    exact kept_of_mem h.toLocked (hrequest hi rfl)
  | nameSuggestion i =>
    obtain ⟨actor, hi, -⟩ := selectionStep_inv hs
    exact kept_of_mem h.toLocked (hrequest hi rfl)
  | click i button =>
    obtain ⟨actor, targets, hi, -⟩ := selectionStep_inv hs
    exact kept_of_mem h.toLocked (hdialog hi)
  | followUpDone i =>
    obtain ⟨kind, actor, hi, -⟩ := selectionStep_inv hs
    exact kept_of_mem h.toLocked (hdialog hi)
  | chooseTarget i targetUnit targetExtra | closeTarget i =>
    obtain ⟨kind, actor, tile, hi, -⟩ := selectionStep_inv hs
    exact kept_of_mem h.toLocked (hdialog hi)
  | cityNameDone i =>
    obtain ⟨actor, hi, -⟩ := selectionStep_inv hs
    exact kept_of_mem h.toLocked (hdialog hi)

-- ==== runs

theorem orderly_init (settings : ClientSettings) :
    (init settings).toSelection.Orderly where
  one _ hu := nomatch hu
  live hlock := absurd rfl hlock
  restart := rfl
  decided := rfl
  waiting hmore := nomatch hmore
  noMenu hmore := nomatch hmore

theorem orderly_of_inTurn (h : selectionRuns.ReachVia InTurn c) :
    c.toSelection.Orderly := by
  refine h.invariant (I := fun c => c.toSelection.Orderly) ?_ ?_
  · rintro c ⟨settings, rfl⟩
    exact orderly_init settings
  · exact fun c act c' horderly hc hs => orderly_step horderly hc hs

/-- In a run whose events all come in turn, at most one unit is in action
selection, whoever has the lock is in it, and no event about another unit
takes it away. -/
theorem locked_of_inTurn (h : selectionRuns.ReachVia InTurn c) :
    c.toSelection.Locked
      ∧ ∀ act c', c.InTurn act → c.selectionStep act = some c' →
        c.Kept act c' :=
  ⟨(orderly_of_inTurn h).toLocked,
    fun _ _ hc hs => kept_step (orderly_of_inTurn h) hc hs⟩

/-- The dialog of the caravan is open. -/
theorem locked_caravan :
    caravanClient.inProgressFor = 7
      ∧ caravanClient.toSelection.Locked
      ∧ ∀ act c', caravanClient.InTurn act →
        caravanClient.selectionStep act = some c' →
          caravanClient.Kept act c' :=
  ⟨by decide, locked_of_inTurn (Lts.ReachVia.exec (.init ⟨twoPlayers, rfl⟩)
    (show selectionRuns.Along InTurn (init twoPlayers) caravanArrives by
      decide) (by decide))⟩

/-- A unit that wants a decision about a tile, or about none. -/
def undecided (id : Nat) (tile : Option Int) : SelectionAct :=
  .units (.unitInfo { unitSeven 0 0 with
    id
    actionDecisionWant := some .active
    actionDecisionTile := tile } none)

/-- Two units that want a decision; first 8 is in focus and then 7. -/
def twoInFocus : List SelectionAct :=
  [.units (.mapInfo 2 2), undecided 7 (some 1), undecided 8 (some 1),
    .units (.setUnitFocus (some 8)), .units (.setUnitFocus (some 7))]

def nothingToDo (actor : Nat) : UnitActions where
  actorUnitId := actor
  targetUnitId := 0
  targetCityId := 0
  targetTileId := 1
  targetExtra := none
  requestKind := .playerInitiated
  possible := false
  attackPossible := false

/-- Both units are asked about. With the focus gone, the reply for unit 8
takes the lock from unit 7. And a unit without a tile to ask about takes
the lock and nothing will give it back. -/
theorem selection_not_locked :
    (¬ ∀ c, selectionRuns.Reach c → ∀ u ∈ c.underWay, c.OnlyFor u)
      ∧ (¬ ∀ c act c', selectionRuns.Reach c →
        c.selectionStep act = some c' → c.Kept act c')
      ∧ ¬ ∀ c, selectionRuns.Reach c → c.inProgressFor ≠ 0 →
        c.inProgressFor ∈ c.underWay := by
  have hreach := fun acts => Lts.Reach.exec_getD (T := selectionRuns)
    (.init ⟨twoPlayers, rfl⟩) acts
  refine ⟨fun hall => ?_, fun hall => ?_, fun hall => ?_⟩
  · exact absurd (hall _ (hreach twoInFocus)) (by decide)
  · have hkept := hall _ (.unitActions (nothingToDo 8)) _
      (hreach (twoInFocus ++ [.units (.setUnitFocus none)])) rfl 8 rfl
    exact absurd hkept (by decide)
  · have hlive := hall _ (hreach [.units (.mapInfo 2 2), undecided 7 none,
      .units (.setUnitFocus (some 7))])
    exact absurd hlive (by decide)

end UnitClient

end Freeciv3d.Web
