/-
The answers to the follow-up requests and the events of the dialogs, one
by one: each leaves an orderly action selection.

# The only one

Whatever is open or asked for is about one unit, and the lock is free or
that unit's (`freeOrOf_of_mem`). So a click or an answer is never about
another unit than the one with the lock.
-/
import Freeciv3d.Web.Proofs.SelectionLock

namespace Freeciv3d.Web

namespace UnitClient

variable {c c' : UnitClient}

-- ==== the only unit

theorem mem_underWay_of_dialog {i : Nat} {dialog : Dialog}
    (hi : c.dialogs[i]? = some dialog) : dialog.actor ∈ c.underWay :=
  Selection.mem_underWay.mpr
    (Or.inl ⟨dialog, List.mem_of_getElem? hi, rfl⟩)

theorem mem_underWay_of_request {i : Nat} {request : Request}
    (hi : c.requests[i]? = some request)
    (hforeground : request.foreground = true) :
    request.actor ∈ c.underWay :=
  Selection.mem_underWay.mpr
    (Or.inr ⟨request, List.mem_of_getElem? hi, hforeground, rfl⟩)

theorem freeOrOf_of_mem (h : c.toSelection.Locked) {u : Nat}
    (hu : u ∈ c.underWay) : c.FreeOrOf u :=
  or_iff_not_imp_left.mpr (h.eq_of_mem hu)

-- ==== the answers

theorem underWay_withoutRequest (c : UnitClient) (i : Nat) :
    ∀ u ∈ (c.withoutRequest i).underWay, u ∈ c.underWay :=
  Selection.underWay_mono (fun _ hd => hd)
    (fun _ hr _ => List.mem_of_mem_eraseIdx hr)

theorem one_withoutRequest (h : c.toSelection.Locked) (i : Nat) :
    ∀ u ∈ (c.withoutRequest i).underWay, (c.withoutRequest i).OnlyFor u :=
  fun u hu => (h.one u (underWay_withoutRequest c i u hu)).mono
    (underWay_withoutRequest c i)

theorem orderly_answerDialog (h : c.toSelection.Orderly) {i : Nat}
    {request : Request} (hi : c.requests[i]? = some request)
    (hforeground : request.foreground = true) {dialog : Dialog}
    (hactor : dialog.actor = request.actor)
    (hfollows : dialog.followsUp = true) :
    ((c.withoutRequest i).openDialog dialog).toSelection.Orderly := by
  have hmem : dialog.actor ∈ c.underWay := by
    rw [hactor]
    exact mem_underWay_of_request hi hforeground
  exact orderly_openDialog (c := c.withoutRequest i) h.restart h.decided
    hfollows ((h.one _ hmem).mono (underWay_withoutRequest c i))
    (freeOrOf_of_mem h.toLocked hmem) h.noMenu

/-- `handle_unit_action_answer`: a dialog is opened, or the unit is
done. -/
theorem handleUnitActionAnswer_cases (c : UnitClient) (actor target : Nat)
    (actionType : Option QueriedAction) :
    (c.answerOpens actor target actionType = true
      ∧ ∃ kind, c.handleUnitActionAnswer actor target actionType
        = c.openDialog (.followUp kind actor))
      ∨ (c.answerOpens actor target actionType = false
        ∧ c.handleUnitActionAnswer actor target actionType
          = c.actSelQueueDone actor) := by
  unfold handleUnitActionAnswer answerOpens
  cases hactor : c.gameFindUnitByNumber actor with
  | none =>
    refine Or.inr ⟨?_, rfl⟩
    cases actionType with
    | none => rfl
    | some action => cases action <;> rfl
  | some actorUnit =>
    cases actionType with
    | none => exact Or.inr ⟨rfl, rfl⟩
    | some action =>
      cases action with
      | bribe =>
        cases (c.gameFindUnitByNumber target).isSome with
        | true => exact Or.inl ⟨rfl, .bribe, rfl⟩
        | false => exact Or.inr ⟨rfl, rfl⟩
      | incite =>
        cases c.cities.contains target with
        | true => exact Or.inl ⟨rfl, .incite, rfl⟩
        | false => exact Or.inr ⟨rfl, rfl⟩
      | upgrade =>
        cases c.cities.contains target with
        | true => exact Or.inl ⟨rfl, .upgrade, rfl⟩
        | false => exact Or.inr ⟨rfl, rfl⟩
      | sabotage => exact Or.inr ⟨rfl, rfl⟩

theorem orderly_actionAnswer (h : c.toSelection.Orderly) {i : Nat}
    {actor target : Nat} {action : QueriedAction}
    (hi : c.requests[i]? = some (.actionQuery actor target action))
    {actionType : Option QueriedAction}
    (hc : c.answerOpens actor target actionType = false →
      c.NextMayEnter (c.withoutRequest i).toSelection actor) :
    ((c.withoutRequest i).handleUnitActionAnswer actor target
      actionType).toSelection.Orderly := by
  rcases handleUnitActionAnswer_cases (c.withoutRequest i) actor target
    actionType with ⟨-, kind, heq⟩ | ⟨hopens, heq⟩
  · rw [heq]
    exact orderly_answerDialog h hi rfl rfl rfl
  · rw [heq]
    exact orderly_actSelQueueDone (one_withoutRequest h.toLocked i) h.restart
      h.decided (hc hopens)

theorem orderly_sabotageList (h : c.toSelection.Orderly) {i : Nat}
    {actor target : Nat} {action : QueriedAction}
    (hi : c.requests[i]? = some (.actionQuery actor target action))
    (hactor : (c.gameFindUnitByNumber actor).isSome = true) :
    (settle ((c.withoutRequest i).handleCitySabotageList
      actor)).toSelection.Orderly := by
  have hthere : ((c.withoutRequest i).gameFindUnitByNumber actor).isSome
      = true := hactor
  unfold handleCitySabotageList
  rw [if_pos hthere]
  exact orderly_answerDialog h hi rfl rfl rfl

-- ==== the menu

theorem noInput_of_menu (h : c.toSelection.Orderly) {i : Nat}
    {dialog : Dialog} (hi : c.dialogs[i]? = some dialog)
    (hmenu : dialog.menu = true) : c.isMoreUserInputNeeded = false := by
  cases hmore : c.isMoreUserInputNeeded with
  | false => rfl
  | true =>
    have hnone := h.noMenu hmore dialog (List.mem_of_getElem? hi)
    rw [hmenu] at hnone
    cases hnone

theorem noMenu_removeElement {actor : Nat} (honly : c.OnlyFor actor) :
    ∀ dialog ∈ (c.removeElement (.actionSelection actor)).dialogs,
      dialog.menu = false := by
  intro dialog hdialog
  obtain ⟨hmem, helement⟩ := List.mem_filter.mp hdialog
  cases dialog with
  | actionSelection unit targets =>
    have hunit : unit = actor := honly unit
      (Selection.mem_underWay.mpr (Or.inl ⟨_, hmem, rfl⟩))
    rw [hunit] at helement
    simp [Dialog.elementId] at helement
  | followUp kind unit => rfl
  | selectTarget kind unit tile => rfl
  | cityName unit => rfl

theorem orderly_followUpRequest (h : c.toSelection.Orderly) {actor : Nat}
    (hmem : actor ∈ c.underWay) {request : Request}
    (hactor : request.actor = actor) (hfollows : request.followsUp = true) :
    ({ c.removeElement (.actionSelection actor) with
        requests := c.requests ++ [request]
        isMoreUserInputNeeded := true } : UnitClient).toSelection.Orderly := by
  have honly : c.OnlyFor actor := h.one actor hmem
  have hforeground : request.foreground = true :=
    Request.foreground_of_followsUp hfollows
  have honly' : ({ c.removeElement (.actionSelection actor) with
      requests := c.requests ++ [request]
      isMoreUserInputNeeded := true } : UnitClient).OnlyFor actor := by
    rw [← hactor] at honly ⊢
    exact onlyFor_request
      (s := { (c.removeElement (.actionSelection
        request.actor)).toSelection with isMoreUserInputNeeded := true })
      request (onlyFor_removeElement honly _)
  have hlast : request ∈ c.requests ++ [request] :=
    List.mem_append_right _ (List.mem_singleton_self _)
  exact
    { one := fun u hu v hv => by rw [honly' u hu, honly' v hv]
      live := fun hlock => Selection.mem_underWay.mpr (Or.inr
        ⟨request, hlast, hforeground, by
          rw [hactor]
          exact (h.eq_of_mem hmem hlock).symm⟩)
      restart := h.restart
      decided := h.decided
      waiting := fun _ => Or.inl ⟨request, hlast, hfollows⟩
      noMenu := fun _ => noMenu_removeElement honly }

theorem orderly_wait (h : c.toSelection.Orderly) {element : DialogId}
    {actor : Nat} (hmore : c.isMoreUserInputNeeded = false) :
    ((({ c with didNotDecide := true } : UnitClient).removeElement
      element).actSelQueueMayBeDone actor).toSelection.Orderly := by
  have hqueue : ((({ c with didNotDecide := true } :
        UnitClient).removeElement element).actSelQueueMayBeDone
          actor).toSelection
      = (c.removeElement
          element).actionSelectionNoLongerInProgress.toSelection := by
    unfold actSelQueueMayBeDone actionSelectionNoLongerInProgress
      removeElement
    simp [hmore, h.restart, h.decided]
  rw [hqueue]
  exact orderly_noLonger (one_removeElement h.toLocked element) h.restart
    h.decided

/-- Another target is to be chosen: the unit stays in action selection,
and nobody else is asked about. -/
theorem orderly_changeTarget (h : c.toSelection.Orderly) {actor : Nat}
    (hmem : actor ∈ c.underWay) (hmore : c.isMoreUserInputNeeded = false)
    {kind : TargetKind} {tile : Option Nat}
    (hc : ∀ _ ∈ c.nextInFocus actor, c.observing = true) :
    ((({ c.openDialog (.selectTarget kind actor tile) with
        actionSelectionRestart := true } : UnitClient).removeElement
          (.actionSelection actor)).actSelQueueMayBeDone
            actor).toSelection.Orderly := by
  let opened : UnitClient :=
    (c.openDialog (.selectTarget kind actor tile)).removeElement
      (.actionSelection actor)
  have hqueue : (({ c.openDialog (.selectTarget kind actor tile) with
        actionSelectionRestart := true } : UnitClient).removeElement
          (.actionSelection actor)).actSelQueueMayBeDone actor
      = opened.actionSelectionNextInFocus actor := by
    unfold actSelQueueMayBeDone
    simp [opened, openDialog, removeElement, hmore, h.restart, h.decided]
  have hsame : opened.actionSelectionNextInFocus actor = opened := by
    unfold actionSelectionNextInFocus
    cases hnext : opened.nextInFocus actor with
    | none => rfl
    | some funit =>
      have hobserving : opened.observing = true := hc funit hnext
      dsimp only
      unfold askServerForActions
      rw [if_pos hobserving]
  rw [hqueue, hsame]
  have hlocked := locked_dialog
    (c.removeElement (.selectTarget kind actor)).toSelection
    (.selectTarget kind actor tile)
    (onlyFor_removeElement (h.one actor hmem) _)
    (freeOrOf_of_mem h.toLocked hmem)
  refine { one := one_removeElement hlocked _, live := ?_,
           restart := h.restart, decided := h.decided,
           waiting := ?_, noMenu := ?_ }
  · intro hlock
    have hlast : Dialog.selectTarget kind actor tile ∈ opened.dialogs :=
      List.mem_filter.mpr ⟨List.mem_append_right _
        (List.mem_singleton_self _), by simp [Dialog.elementId]⟩
    exact Selection.mem_underWay.mpr
      (Or.inl ⟨_, hlast, (h.eq_of_mem hmem hlock).symm⟩)
  · intro hneeded
    exact absurd (hmore.symm.trans hneeded) Bool.false_ne_true
  · intro hneeded
    exact absurd (hmore.symm.trans hneeded) Bool.false_ne_true

theorem orderly_stealTech (h : c.toSelection.Orderly) {actor : Nat}
    (hmem : actor ∈ c.underWay) :
    ({ (c.openDialog (.followUp .stealTech actor)).removeElement
        (.actionSelection actor) with
      isMoreUserInputNeeded := true } : UnitClient).toSelection.Orderly := by
  let dialog : Dialog := .followUp .stealTech actor
  have hlocked := locked_dialog
    (c.removeElement dialog.elementId).toSelection dialog
    (onlyFor_removeElement (h.one actor hmem) _)
    (freeOrOf_of_mem h.toLocked hmem)
  have hopened : (c.openDialog dialog).OnlyFor actor :=
    onlyFor_dialog (c.removeElement dialog.elementId).toSelection
      (onlyFor_removeElement (h.one actor hmem) _)
  have hlast : dialog ∈ ((c.openDialog dialog).removeElement
      (.actionSelection actor)).dialogs :=
    List.mem_filter.mpr ⟨List.mem_append_right _
      (List.mem_singleton_self _), by simp [dialog, Dialog.elementId]⟩
  exact
    { one := one_removeElement (c := c.openDialog dialog) hlocked _
      live := fun hlock => Selection.mem_underWay.mpr
        (Or.inl ⟨dialog, hlast, (h.eq_of_mem hmem hlock).symm⟩)
      restart := h.restart
      decided := h.decided
      waiting := fun _ => Or.inr ⟨dialog, hlast, rfl⟩
      noMenu := fun _ => noMenu_removeElement hopened }

theorem orderly_click (h : c.toSelection.Orderly) {i actor : Nat}
    {targets : Targets}
    (hi : c.dialogs[i]? = some (.actionSelection actor targets))
    {button : ActionButton}
    (hc : c.ClickInTurn (.actionSelection actor targets) button) :
    (settle (c.actionSelectionClick actor targets
      button)).toSelection.Orderly := by
  have hmore : c.isMoreUserInputNeeded = false := noInput_of_menu h hi rfl
  have hmem : actor ∈ c.underWay := mem_underWay_of_dialog hi
  have hdone : c.NextMayEnter
      (c.removeElement (.actionSelection actor)).toSelection actor →
      ((c.removeElement (.actionSelection actor)).actSelQueueMayBeDone
        actor).toSelection.Orderly := fun hnext =>
    orderly_actSelQueueMayBeDone (one_removeElement h.toLocked _) h.restart
      h.decided hmore hnext
  cases button with
  | perform | cancel | close => exact hdone hc
  | autoAttack =>
    exact orderly_actSelQueueMayBeDone
      (c := ({ c with autoAttack := true } : UnitClient).removeElement
        (.actionSelection actor))
      (one_removeElement h.toLocked _) h.restart h.decided hmore hc
  | stealTech =>
    show (settle (if _ then _ else _)).toSelection.Orderly
    split
    · exact orderly_stealTech h hmem
    · exact h
  | query target actionType =>
    exact orderly_followUpRequest h hmem rfl rfl
  | foundCity => exact orderly_followUpRequest h hmem rfl rfl
  | changeTarget kind => exact orderly_changeTarget h hmem hmore hc
  | wait => exact orderly_wait h hmore

-- ==== the other dialogs

theorem waiting_removeTarget (h : c.toSelection.Waiting) (kind : TargetKind)
    (actor : Nat) :
    (c.removeElement (.selectTarget kind actor)).toSelection.Waiting := by
  rcases h with hrequest | ⟨dialog, hdialog, hfollows⟩
  · exact Or.inl hrequest
  · have hother : dialog.elementId ≠ .selectTarget kind actor := by
      cases dialog with
      | actionSelection _ _ | selectTarget _ _ _ => cases hfollows
      | followUp _ _ | cityName _ => exact DialogId.noConfusion
    exact Or.inr ⟨dialog,
      List.mem_filter.mpr ⟨hdialog, bne_iff_ne.mpr hother⟩, hfollows⟩

theorem mem_underWay_of_waiting {s : Selection} (h : s.Waiting) :
    ∃ u, u ∈ s.underWay := by
  rcases h with ⟨request, hrequest, hfollows⟩ | ⟨dialog, hdialog, -⟩
  · exact ⟨request.actor, Selection.mem_underWay.mpr (Or.inr
      ⟨request, hrequest, Request.foreground_of_followsUp hfollows, rfl⟩)⟩
  · exact ⟨dialog.actor,
      Selection.mem_underWay.mpr (Or.inl ⟨dialog, hdialog, rfl⟩)⟩

theorem orderly_chooseTarget (h : c.toSelection.Orderly) {i : Nat}
    {kind : TargetKind} {actor : Nat} {tile : Option Nat}
    (hi : c.dialogs[i]? = some (.selectTarget kind actor tile))
    {targetUnit : Nat} {targetExtra : Option Nat} :
    (c.chooseTarget kind actor targetUnit tile
      targetExtra).toSelection.Orderly := by
  have hmem : actor ∈ c.underWay := mem_underWay_of_dialog hi
  have honly : (c.chooseTarget kind actor targetUnit tile
      targetExtra).OnlyFor actor :=
    onlyFor_request
      (s := (c.removeElement (.selectTarget kind actor)).toSelection)
      (.getActions actor targetUnit (tile.map fun tile => (tile : Int))
        targetExtra .playerInitiated)
      (onlyFor_removeElement (h.one actor hmem) _)
  have hlast : Request.getActions actor targetUnit
        (tile.map fun tile => (tile : Int)) targetExtra .playerInitiated
      ∈ (c.chooseTarget kind actor targetUnit tile targetExtra).requests :=
    List.mem_append_right _ (List.mem_singleton_self _)
  refine { one := ?_, live := ?_, restart := h.restart,
           decided := h.decided, waiting := ?_, noMenu := ?_ }
  · intro u hu v hv
    rw [honly u hu, honly v hv]
  · intro hlock
    exact Selection.mem_underWay.mpr
      (Or.inr ⟨_, hlast, rfl, (h.eq_of_mem hmem hlock).symm⟩)
  · intro hmore
    rcases waiting_removeTarget (h.waiting hmore) kind actor with
      ⟨r, hr, hfollows⟩ | hdialog
    · exact Or.inl ⟨r, List.mem_append_left _ hr, hfollows⟩
    · exact Or.inr hdialog
  · exact fun hmore d hd => h.noMenu hmore d (List.mem_of_mem_filter hd)

/-- The choice of a target is closed. If other input of the unit is
waited for, that is what keeps it in action selection. -/
theorem orderly_closeTarget (h : c.toSelection.Orderly)
    {kind : TargetKind} {actor : Nat}
    (hc : c.isMoreUserInputNeeded = false →
      c.NextMayEnter (c.removeElement (.selectTarget kind actor)).toSelection
        actor) :
    (c.closeTarget kind actor).toSelection.Orderly := by
  have hone := one_removeElement h.toLocked (.selectTarget kind actor)
  cases hmore : c.isMoreUserInputNeeded with
  | false =>
    exact orderly_actSelQueueMayBeDone hone h.restart h.decided hmore
      (hc hmore)
  | true =>
    have hsame : c.closeTarget kind actor
        = c.removeElement (.selectTarget kind actor) := by
      unfold closeTarget actSelQueueMayBeDone
      exact if_pos hmore
    rw [hsame]
    have hwaiting := waiting_removeTarget (h.waiting hmore) kind actor
    refine { one := hone, live := ?_, restart := h.restart,
             decided := h.decided, waiting := fun _ => hwaiting,
             noMenu := fun hmore d hd =>
               h.noMenu hmore d (List.mem_of_mem_filter hd) }
    intro hlock
    obtain ⟨u, hleft⟩ := mem_underWay_of_waiting hwaiting
    have hu : u ∈ c.underWay := underWay_removeElement c _ u hleft
    have heq : c.inProgressFor = u := h.eq_of_mem hu hlock
    exact heq ▸ hleft

end UnitClient

end Freeciv3d.Web
