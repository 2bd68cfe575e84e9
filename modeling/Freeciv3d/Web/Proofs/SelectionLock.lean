/-
At most one unit is in action selection, no event about another unit
moves the lock, and whoever holds it is in action selection, as long as
units enter one at a time and with a tile to ask about.

# In action selection

A unit is in action selection while a dialog of it is open or a request
the player waits for is not answered (`Selection.underWay`). The lock
says less: asking takes it from whoever has it, a reply opens a dialog
without it, and it is given back for any unit.

# The condition

Nothing is asked for a unit, and no dialog is opened, while another one
is in action selection (`OnlyFor`); what is asked about is a tile
(`MayEnter`); and a reply of the server is about the unit that has the
lock. What an event ends is not counted any more: the condition is
about the client without it.
-/
import Freeciv3d.Web.ActionReplies

namespace Freeciv3d.Web

-- ==== what is under way

def Dialog.actor : Dialog → Nat
  | actionSelection actor _ => actor
  | followUp _ actor => actor
  | selectTarget _ actor _ => actor
  | cityName actor => actor

def Request.actor : Request → Nat
  | getActions actor _ _ _ _ => actor
  | actionQuery actor _ _ => actor
  | cityNameSuggestion unit => unit

def Request.foreground : Request → Bool
  | getActions _ _ _ _ kind => kind == .playerInitiated
  | _ => true

def Request.target : Request → Nat
  | actionQuery _ target _ => target
  | _ => 0

/-- The request is about an action that was chosen. -/
def Request.followsUp : Request → Bool
  | getActions _ _ _ _ _ => false
  | _ => true

theorem Request.foreground_of_followsUp {request : Request}
    (h : request.followsUp = true) : request.foreground = true := by
  cases request with
  | getActions _ _ _ _ _ => cases h
  | actionQuery _ _ _ => rfl
  | cityNameSuggestion _ => rfl

def Dialog.followsUp : Dialog → Bool
  | followUp _ _ => true
  | cityName _ => true
  | _ => false

def Dialog.menu : Dialog → Bool
  | actionSelection _ _ => true
  | _ => false

namespace Selection

def underWay (s : Selection) : List Nat :=
  s.dialogs.map Dialog.actor
    ++ (s.requests.filter Request.foreground).map Request.actor

/-- No other unit is in action selection. -/
def OnlyFor (s : Selection) (unit : Nat) : Prop :=
  ∀ u ∈ s.underWay, u = unit

instance (s : Selection) : DecidablePred s.OnlyFor := fun _ =>
  inferInstanceAs (Decidable (∀ _ ∈ _, _))

/-- At most one unit is in action selection, and whoever holds the lock
is. -/
structure Locked (s : Selection) : Prop where
  one : ∀ u ∈ s.underWay, s.OnlyFor u
  live : s.inProgressFor ≠ 0 → s.inProgressFor ∈ s.underWay

end Selection

namespace UnitClient

-- ==== the condition

/-- The server may be asked about a unit when the selection is `s`. -/
def MayEnter (c : UnitClient) (s : Selection) (punit : UnitPacket) : Prop :=
  c.observing = true
    ∨ (s.OnlyFor punit.id
      ∧ (punit.actionDecisionTile.bind c.indexToTile).isSome = true)

instance (c : UnitClient) (s : Selection) (punit : UnitPacket) :
    Decidable (c.MayEnter s punit) :=
  inferInstanceAs (Decidable (_ ∨ _))

def NextMayEnter (c : UnitClient) (s : Selection) (oldActor : Nat) : Prop :=
  ∀ funit ∈ c.nextInFocus oldActor, c.MayEnter s funit.toUnitPacket

instance (c : UnitClient) (s : Selection) (oldActor : Nat) :
    Decidable (c.NextMayEnter s oldActor) :=
  inferInstanceAs (Decidable (∀ _ ∈ _, _))

/-- The unit that `advanceUnitFocus` puts in focus. -/
def candidate (c : UnitClient) (best : Option Nat) : Option UnitRecord :=
  if c.clientIsObserver || c.nukeActive then none
  else
    match c.scanUrgent
        (c.unitsInFocus.head?.map fun funit : UnitRecord => funit.tile)
        c.urgentFocusQueue none [] with
    | .error _ => none
    | .ok (candidate, _) =>
      candidate.or (best.bind c.gameFindUnitByNumber)

def focusOn (c : UnitClient) (punit : UnitRecord) : UnitClient :=
  { c with currentFocus := .own [punit.id] }

/-- The client with a unit off its tile and out of the queue. -/
def killed (c : UnitClient) (punit : UnitRecord) : UnitClient :=
  { c.clearTileUnit punit.toUnitPacket with
    urgentFocusQueue := c.urgentFocusQueue.filter (· != punit.id) }

/-- The dialogs of the unit with the lock are closed. -/
def closed (c : UnitClient) : UnitClient :=
  (closedElements c.inProgressFor).foldl removeElement c

def selectionWithout (c : UnitClient) (punit : UnitRecord) : Selection :=
  if c.inProgressFor = punit.id then c.closed.toSelection
  else c.toSelection

/-- Who is asked about when the dialogs of a removed unit are closed. -/
def askedOnClose (c : UnitClient) (punit : UnitRecord) :
    Option UnitRecord :=
  if c.inProgressFor = punit.id then c.nextInFocus punit.id else none

/-- Who is asked about when the focus moves on from a removed unit. -/
def askedOnAdvance (c : UnitClient) (punit : UnitRecord)
    (best : Option Nat) : Option UnitRecord :=
  if (c.killed punit).unitIsInFocus punit.id = true
      ∧ (c.killed punit).focusIds.length = 1 then
    ((c.killed punit).candidate best).bind fun next =>
      ((c.killed punit).focusOn next).nextInFocus 0
  else none

def RemovalInTurn (c : UnitClient) (punit : UnitRecord)
    (best : Option Nat) : Prop :=
  (∀ u ∈ c.askedOnClose punit,
      c.MayEnter (c.selectionWithout punit) u.toUnitPacket)
    ∧ (∀ u ∈ c.askedOnAdvance punit best,
      c.MayEnter (c.selectionWithout punit) u.toUnitPacket)
    ∧ ∀ u ∈ c.askedOnClose punit, ∀ v ∈ c.askedOnAdvance punit best,
      u.id = v.id

instance (c : UnitClient) (punit : UnitRecord) (best : Option Nat) :
    Decidable (c.RemovalInTurn punit best) :=
  inferInstanceAs (Decidable (_ ∧ _ ∧ _))

/-- A unit packet. One that has no `done_moving` can move the focus. -/
def PacketInTurn (c : UnitClient) (packet : UnitPacket) : Prop :=
  (c.shouldAskServerForActions packet = true → c.inProgressFor = 0 →
      c.unitIsInFocus packet.id = true → c.canClientIssueOrders = true →
        c.MayEnter c.toSelection packet)
    ∧ (packet.doneMoving = none → c.inProgressFor = 0 →
      c.shouldAskServerForActions packet = false
        ∧ ∀ u ∈ c.units.values,
          c.shouldAskServerForActions u.toUnitPacket = false)

instance (c : UnitClient) (packet : UnitPacket) :
    Decidable (c.PacketInTurn packet) :=
  inferInstanceAs (Decidable (_ ∧ _))

/-- A packet about units, or a change of the focus. -/
def UnitsInTurn (c : UnitClient) : UnitAct → Prop
  | .unitInfo packet _ => c.PacketInTurn packet
  | .unitShortInfo packet _ => c.PacketInTurn packet
  | .unitRemove unitId best =>
    ∀ punit ∈ c.gameFindUnitByNumber unitId, c.RemovalInTurn punit best
  | .setUnitFocus unitId =>
    ∀ punit ∈ unitId.bind c.gameFindUnitByNumber,
      (c.focusOn punit).NextMayEnter c.toSelection 0
  | .advanceUnitFocus best =>
    ∀ punit ∈ c.candidate best,
      (c.focusOn punit).NextMayEnter c.toSelection 0
  | _ => True

instance (c : UnitClient) : DecidablePred c.UnitsInTurn
  | .unitInfo packet _ => inferInstanceAs (Decidable (c.PacketInTurn packet))
  | .unitShortInfo packet _ =>
    inferInstanceAs (Decidable (c.PacketInTurn packet))
  | .unitRemove _ _ => inferInstanceAs (Decidable (∀ _ ∈ _, _))
  | .setUnitFocus _ => inferInstanceAs (Decidable (∀ _ ∈ _, _))
  | .advanceUnitFocus _ => inferInstanceAs (Decidable (∀ _ ∈ _, _))
  | .mapInfo _ _ | .focusTile _ | .settings _ => instDecidableTrue

def hasActions (c : UnitClient) (packet : UnitActions) : Bool :=
  (c.gameFindUnitByNumber packet.actorUnitId).isSome
    && (c.indexToTile packet.targetTileId).isSome && packet.possible

/-- The lock is free or the unit's. -/
def FreeOrOf (c : UnitClient) (unit : Nat) : Prop :=
  c.inProgressFor = 0 ∨ c.inProgressFor = unit

instance (c : UnitClient) : DecidablePred c.FreeOrOf := fun _ =>
  inferInstanceAs (Decidable (_ ∨ _))

def answered (c : UnitClient) (packet : UnitActions) : UnitClient :=
  { c with requests := c.requests.eraseP packet.answers }

def ReplyInTurn (c : UnitClient) (packet : UnitActions) : Prop :=
  match packet.requestKind with
  | .playerInitiated =>
    if c.hasActions packet = true then
      ∀ actorUnit ∈ c.gameFindUnitByNumber packet.actorUnitId,
        c.FreeOrOf actorUnit.id ∧ (c.answered packet).OnlyFor actorUnit.id
    else
      c.FreeOrOf packet.actorUnitId
        ∧ c.NextMayEnter (c.answered packet).toSelection packet.actorUnitId
  | .backgroundRefresh =>
    ∀ actorUnit ∈ c.gameFindUnitByNumber packet.actorUnitId,
      c.FreeOrOf actorUnit.id ∧ c.OnlyFor actorUnit.id
        ∧ (c.indexToTile packet.targetTileId).isSome = true
  | .backgroundFastAutoAttack =>
    ∀ actorUnit ∈ c.gameFindUnitByNumber packet.actorUnitId,
      c.inProgressFor = 0 → c.unitIsInFocus actorUnit.id = true →
        c.canClientIssueOrders = true →
          (packet.attackPossible && c.autoAttack) = false →
            c.MayEnter c.toSelection actorUnit.toUnitPacket

instance (c : UnitClient) : DecidablePred c.ReplyInTurn := by
  intro packet
  unfold ReplyInTurn
  cases packet.requestKind <;> dsimp only <;> infer_instance

def answerOpens (c : UnitClient) (actor target : Nat) :
    Option QueriedAction → Bool
  | some .bribe =>
    (c.gameFindUnitByNumber actor).isSome
      && (c.gameFindUnitByNumber target).isSome
  | some .incite | some .upgrade =>
    (c.gameFindUnitByNumber actor).isSome && c.cities.contains target
  | _ => false

/-- A button of an action selection dialog. -/
def ClickInTurn (c : UnitClient) (dialog : Dialog) : ActionButton → Prop
  | .perform | .autoAttack | .cancel | .close =>
    c.NextMayEnter (c.removeElement dialog.elementId).toSelection
      dialog.actor
  | .changeTarget _ =>
    ∀ _ ∈ c.nextInFocus dialog.actor, c.observing = true
  | _ => True

instance (c : UnitClient) (dialog : Dialog) :
    DecidablePred (c.ClickInTurn dialog)
  | .perform | .autoAttack | .cancel | .close =>
    inferInstanceAs (Decidable (c.NextMayEnter _ _))
  | .changeTarget _ => inferInstanceAs (Decidable (∀ _ ∈ _, _))
  | .stealTech | .query _ _ | .foundCity | .wait => instDecidableTrue

/-- Units enter action selection one at a time and with a tile. -/
def InTurn (c : UnitClient) : SelectionAct → Prop
  | .units act => c.UnitsInTurn act
  | .selectUnits ids =>
    ({ c with currentFocus := .own ids } : UnitClient).NextMayEnter
      c.toSelection 0
  | .cityInfo _ => True
  | .unitActions packet => c.ReplyInTurn packet
  | .actionAnswer i actionType => ∀ request ∈ c.requests[i]?,
      c.answerOpens request.actor request.target actionType = false →
        c.NextMayEnter (c.withoutRequest i).toSelection request.actor
  | .sabotageList i => ∀ request ∈ c.requests[i]?,
      (c.gameFindUnitByNumber request.actor).isSome = true
  | .nameSuggestion _ => True
  | .click i button => ∀ dialog ∈ c.dialogs[i]?, c.ClickInTurn dialog button
  | .chooseTarget _ _ _ => True
  | .closeTarget i => ∀ dialog ∈ c.dialogs[i]?,
      c.isMoreUserInputNeeded = false →
        c.NextMayEnter (c.removeElement dialog.elementId).toSelection
          dialog.actor
  | .followUpDone i | .cityNameDone i => ∀ dialog ∈ c.dialogs[i]?,
      c.NextMayEnter (c.removeElement dialog.elementId).toSelection
        dialog.actor

instance : DecidableRel InTurn
  | c, .units act => inferInstanceAs (Decidable (c.UnitsInTurn act))
  | _, .selectUnits _ => inferInstanceAs (Decidable (NextMayEnter _ _ _))
  | c, .unitActions packet =>
    inferInstanceAs (Decidable (c.ReplyInTurn packet))
  | _, .actionAnswer _ _ | _, .sabotageList _ | _, .click _ _
  | _, .closeTarget _ | _, .followUpDone _ | _, .cityNameDone _ =>
    inferInstanceAs (Decidable (∀ _ ∈ _, _))
  | _, .cityInfo _ | _, .nameSuggestion _ | _, .chooseTarget _ _ _ =>
    instDecidableTrue

/-- The unit an event is about: a reply, a removal or an event of a
dialog. -/
def concerns (c : UnitClient) : SelectionAct → Option Nat
  | .units (.unitRemove unitId _) =>
    (c.gameFindUnitByNumber unitId).map fun punit => punit.id
  | .unitActions packet => some packet.actorUnitId
  | .actionAnswer i _ | .sabotageList i | .nameSuggestion i =>
    c.requests[i]?.map Request.actor
  | .click i _ | .followUpDone i | .chooseTarget i _ _ | .closeTarget i
  | .cityNameDone i => c.dialogs[i]?.map Dialog.actor
  | _ => none

/-- An event about another unit leaves the lock where it is. -/
def Kept (c : UnitClient) (act : SelectionAct) (c' : UnitClient) : Prop :=
  ∀ unit ∈ c.concerns act, c.inProgressFor ≠ 0 → c.inProgressFor ≠ unit →
    c'.inProgressFor = c.inProgressFor

end UnitClient

-- ==== the invariant

namespace Selection

/-- What the player was asked for is under way. -/
def Waiting (s : Selection) : Prop :=
  (∃ request ∈ s.requests, request.followsUp = true)
    ∨ ∃ dialog ∈ s.dialogs, dialog.followsUp = true

/-- The run invariant: between events the flags of the queue are down,
and while more input is needed something waits for it, and it is not the
dialog with the actions. -/
structure Orderly (s : Selection) : Prop extends s.Locked where
  restart : s.actionSelectionRestart = false
  decided : s.didNotDecide = false
  waiting : s.isMoreUserInputNeeded = true → s.Waiting
  noMenu : s.isMoreUserInputNeeded = true →
    ∀ dialog ∈ s.dialogs, dialog.menu = false

variable {s s' : Selection}

theorem mem_underWay {u : Nat} : u ∈ s.underWay ↔
    (∃ dialog ∈ s.dialogs, dialog.actor = u)
      ∨ ∃ request ∈ s.requests,
        request.foreground = true ∧ request.actor = u := by
  unfold underWay
  simp only [List.mem_append, List.mem_map, List.mem_filter, and_assoc]

theorem underWay_mono (hd : ∀ d ∈ s'.dialogs, d ∈ s.dialogs)
    (hr : ∀ r ∈ s'.requests, r.foreground = true → r ∈ s.requests) :
    ∀ u ∈ s'.underWay, u ∈ s.underWay := by
  intro u hu
  rcases mem_underWay.mp hu with ⟨d, hmem, hactor⟩ | ⟨r, hmem, hfg, hactor⟩
  · exact mem_underWay.mpr (Or.inl ⟨d, hd d hmem, hactor⟩)
  · exact mem_underWay.mpr (Or.inr ⟨r, hr r hmem hfg, hfg, hactor⟩)

theorem OnlyFor.mono {u : Nat} (h : s.OnlyFor u)
    (hsub : ∀ v ∈ s'.underWay, v ∈ s.underWay) : s'.OnlyFor u :=
  fun v hv => h v (hsub v hv)

theorem Locked.eq_of_mem (h : s.Locked) {u : Nat} (hu : u ∈ s.underWay)
    (hlock : s.inProgressFor ≠ 0) : s.inProgressFor = u :=
  h.one u hu _ (h.live hlock)

end Selection

namespace UnitClient

variable {c c' : UnitClient}

-- ==== asking

theorem selection_askServerForActions (c : UnitClient)
    (punit : UnitPacket) :
    (c.askServerForActions punit).toSelection
      = if c.observing = true then c.toSelection
        else
          { c.toSelection with
            inProgressFor := punit.id
            requests :=
              if (punit.actionDecisionTile.bind c.indexToTile).isSome then
                c.requests ++ [.getActions punit.id 0
                  punit.actionDecisionTile none .playerInitiated]
              else c.requests } := by
  unfold askServerForActions
  split <;> rfl

theorem onlyFor_request {s : Selection} (request : Request)
    (h : s.OnlyFor request.actor) :
    ({ s with requests := s.requests ++ [request] } : Selection).OnlyFor
      request.actor := by
  intro v hv
  rcases Selection.mem_underWay.mp hv with ⟨d, hd, rfl⟩ | ⟨r, hr, hfg, rfl⟩
  · exact h _ (Selection.mem_underWay.mpr (Or.inl ⟨d, hd, rfl⟩))
  · rcases List.mem_append.mp hr with hr | hr
    · exact h _ (Selection.mem_underWay.mpr (Or.inr ⟨r, hr, hfg, rfl⟩))
    · rw [List.mem_singleton.mp hr]

theorem orderly_ask (h : c.toSelection.Orderly) {punit : UnitPacket}
    (hc : c.MayEnter c.toSelection punit) :
    (c.askServerForActions punit).toSelection.Orderly := by
  rw [selection_askServerForActions]
  split
  case isTrue => exact h
  case isFalse hobserving =>
    obtain ⟨honly, htile⟩ := hc.resolve_left hobserving
    rw [if_pos htile]
    have honly' : ({ c.toSelection with
        requests := c.requests ++ [.getActions punit.id 0
          punit.actionDecisionTile none .playerInitiated] } :
            Selection).OnlyFor punit.id :=
      onlyFor_request (.getActions punit.id 0 punit.actionDecisionTile none
        .playerInitiated) honly
    refine { one := ?_, live := ?_, restart := h.restart,
             decided := h.decided, waiting := ?_, noMenu := h.noMenu }
    · intro u hu v hv
      rw [honly' u hu, honly' v hv]
    · intro _
      refine Selection.mem_underWay.mpr (Or.inr
        ⟨_, List.mem_append_right _ (List.mem_singleton_self _), rfl, rfl⟩)
    · intro hmore
      rcases h.waiting hmore with ⟨r, hr, hfollows⟩ | hdialog
      · exact Or.inl ⟨r, List.mem_append_left _ hr, hfollows⟩
      · exact Or.inr hdialog

theorem orderly_next (h : c.toSelection.Orderly) {oldActor : Nat}
    (hc : c.NextMayEnter c.toSelection oldActor) :
    (c.actionSelectionNextInFocus oldActor).toSelection.Orderly := by
  unfold actionSelectionNextInFocus
  cases hnext : c.nextInFocus oldActor with
  | none => exact h
  | some funit => exact orderly_ask h (hc funit hnext)

theorem orderly_noLonger (hone : ∀ u ∈ c.underWay, c.OnlyFor u)
    (hrestart : c.actionSelectionRestart = false)
    (hdecided : c.didNotDecide = false) :
    c.actionSelectionNoLongerInProgress.toSelection.Orderly where
  one := hone
  live hlock := absurd rfl hlock
  restart := hrestart
  decided := hdecided
  waiting hmore := by cases hmore
  noMenu hmore := by cases hmore

theorem orderly_noLonger_next (hone : ∀ u ∈ c.underWay, c.OnlyFor u)
    (hrestart : c.actionSelectionRestart = false)
    (hdecided : c.didNotDecide = false) {actor : Nat}
    (hnext : c.NextMayEnter c.toSelection actor) :
    (c.actionSelectionNoLongerInProgress.actionSelectionNextInFocus
      actor).toSelection.Orderly :=
  orderly_next (orderly_noLonger hone hrestart hdecided) hnext

theorem orderly_flags {s : Selection} (h : s.Orderly) :
    ({ s with actionSelectionRestart := false
              didNotDecide := false } : Selection).Orderly where
  one := h.one
  live := h.live
  restart := rfl
  decided := rfl
  waiting := h.waiting
  noMenu := h.noMenu

/-- `act_sel_queue_done` gives the lock back and asks about the next
unit. -/
theorem selection_actSelQueueDone (hrestart : c.actionSelectionRestart = false)
    (hdecided : c.didNotDecide = false) (actor : Nat) :
    (c.actSelQueueDone actor).toSelection
      = { (c.actionSelectionNoLongerInProgress.actionSelectionNextInFocus
            actor).toSelection with
          actionSelectionRestart := false
          didNotDecide := false } := by
  have hqueue : ({ c with isMoreUserInputNeeded := false } :
      UnitClient).actSelQueueMayBeDone actor
      = ({ c with isMoreUserInputNeeded := false } :
        UnitClient).actionSelectionNoLongerInProgress.actionSelectionNextInFocus
          actor := by
    unfold actSelQueueMayBeDone actionSelectionNoLongerInProgress
    simp [hrestart, hdecided]
  unfold actSelQueueDone
  dsimp only
  rw [hqueue]
  rfl

theorem orderly_actSelQueueDone (hone : ∀ u ∈ c.underWay, c.OnlyFor u)
    (hrestart : c.actionSelectionRestart = false)
    (hdecided : c.didNotDecide = false) {actor : Nat}
    (hnext : c.NextMayEnter c.toSelection actor) :
    (c.actSelQueueDone actor).toSelection.Orderly := by
  rw [selection_actSelQueueDone hrestart hdecided]
  exact orderly_flags (orderly_noLonger_next hone hrestart hdecided hnext)

theorem orderly_actSelQueueMayBeDone
    (hone : ∀ u ∈ c.underWay, c.OnlyFor u)
    (hrestart : c.actionSelectionRestart = false)
    (hdecided : c.didNotDecide = false)
    (hmore : c.isMoreUserInputNeeded = false) {actor : Nat}
    (hnext : c.NextMayEnter c.toSelection actor) :
    (c.actSelQueueMayBeDone actor).toSelection.Orderly := by
  have hqueue : c.actSelQueueMayBeDone actor
      = c.actionSelectionNoLongerInProgress.actionSelectionNextInFocus
          actor := by
    unfold actSelQueueMayBeDone actionSelectionNoLongerInProgress
    simp [hrestart, hdecided, hmore]
  rw [hqueue]
  exact orderly_noLonger_next hone hrestart hdecided hnext

-- ==== dialogs

theorem underWay_removeElement (c : UnitClient) (element : DialogId) :
    ∀ u ∈ (c.removeElement element).underWay, u ∈ c.underWay :=
  Selection.underWay_mono (fun _ hd => List.mem_of_mem_filter hd)
    (fun _ hr _ => hr)

theorem one_removeElement (h : c.toSelection.Locked) (element : DialogId) :
    ∀ u ∈ (c.removeElement element).underWay,
      (c.removeElement element).OnlyFor u :=
  fun u hu => (h.one u (underWay_removeElement c element u hu)).mono
    (underWay_removeElement c element)

theorem orderly_dialogDone (h : c.toSelection.Orderly) {element : DialogId}
    {actor : Nat}
    (hnext : c.NextMayEnter (c.removeElement element).toSelection actor) :
    ((c.removeElement element).actSelQueueDone actor).toSelection.Orderly :=
  orderly_actSelQueueDone (one_removeElement h.toLocked element) h.restart
    h.decided hnext

theorem onlyFor_dialog (s : Selection) {dialog : Dialog}
    (h : s.OnlyFor dialog.actor) :
    ({ s with dialogs := s.dialogs ++ [dialog] } : Selection).OnlyFor
      dialog.actor := by
  intro v hv
  rcases Selection.mem_underWay.mp hv with ⟨d, hd, rfl⟩ | ⟨r, hr, hfg, rfl⟩
  · rcases List.mem_append.mp hd with hd | hd
    · exact h _ (Selection.mem_underWay.mpr (Or.inl ⟨d, hd, rfl⟩))
    · rw [List.mem_singleton.mp hd]
  · exact h _ (Selection.mem_underWay.mpr (Or.inr ⟨r, hr, hfg, rfl⟩))

theorem onlyFor_removeElement {u : Nat} (h : c.OnlyFor u)
    (element : DialogId) : (c.removeElement element).OnlyFor u :=
  h.mono (underWay_removeElement c element)

/-- A dialog is open for the only unit under way, which has the lock or
nobody has. -/
theorem locked_dialog (s : Selection) (dialog : Dialog)
    (honly : s.OnlyFor dialog.actor)
    (hfree : s.inProgressFor = 0 ∨ s.inProgressFor = dialog.actor) :
    ({ s with dialogs := s.dialogs ++ [dialog] } : Selection).Locked where
  one u hu v hv := by
    rw [onlyFor_dialog s honly u hu, onlyFor_dialog s honly v hv]
  live hlock := by
    have hactor : s.inProgressFor = dialog.actor := hfree.resolve_left hlock
    refine Selection.mem_underWay.mpr (Or.inl
      ⟨dialog, List.mem_append_right _ (List.mem_singleton_self _), ?_⟩)
    exact hactor.symm

/-- With the lock free or the unit's, no dialog of another unit is
closed for one of this unit. -/
theorem not_closes {unit : Nat} (hfree : c.FreeOrOf unit)
    (element : DialogId) :
    ¬ ((c.removeElement element).inProgressFor ≠ 0
      ∧ (c.removeElement element).inProgressFor ≠ unit) := by
  rintro ⟨hzero, hother⟩
  rcases hfree with hlock | hlock
  · exact hzero hlock
  · exact hother hlock

theorem orderly_popup (hrestart : c.actionSelectionRestart = false)
    (hdecided : c.didNotDecide = false) {actorUnit : UnitRecord}
    (honly : c.OnlyFor actorUnit.id) (hfree : c.FreeOrOf actorUnit.id)
    {targetTile targetExtra targetUnit targetCity : Option Nat}
    (htile : targetTile.isSome = true) :
    (settle (c.popupActionSelection actorUnit targetTile targetExtra
      targetUnit targetCity)).toSelection.Orderly := by
  have hthrow : (targetUnit.isSome && targetTile.isNone) = false := by
    rw [Option.isSome_iff_exists] at htile
    obtain ⟨tile, rfl⟩ := htile
    simp
  unfold popupActionSelection
  simp only [if_neg (not_closes hfree _), hthrow, Bool.false_eq_true,
    if_false]
  let dialog : Dialog := .actionSelection actorUnit.id
    { city := targetCity.getD 0, unit := targetUnit.getD 0
      tile := targetTile, extra := targetExtra }
  have honly' : (c.removeElement (.actionSelection actorUnit.id)).OnlyFor
      dialog.actor := onlyFor_removeElement honly _
  have hlocked := locked_dialog _ dialog honly' hfree
  exact
    { one := hlocked.one
      live := hlocked.live
      restart := hrestart
      decided := hdecided
      waiting := fun hmore => by cases hmore
      noMenu := fun hmore => by cases hmore }

theorem orderly_openDialog (hrestart : c.actionSelectionRestart = false)
    (hdecided : c.didNotDecide = false) {dialog : Dialog}
    (hfollows : dialog.followsUp = true)
    (honly : c.OnlyFor dialog.actor) (hfree : c.FreeOrOf dialog.actor)
    (hmenu : c.isMoreUserInputNeeded = true →
      ∀ d ∈ c.dialogs, d.menu = false) :
    (c.openDialog dialog).toSelection.Orderly := by
  have hlocked := locked_dialog
    (c.removeElement dialog.elementId).toSelection dialog
    (onlyFor_removeElement honly _) hfree
  refine { one := hlocked.one, live := hlocked.live, restart := hrestart,
           decided := hdecided, waiting := ?_, noMenu := ?_ }
  · intro _
    exact Or.inr ⟨dialog,
      List.mem_append_right _ (List.mem_singleton_self _), hfollows⟩
  · intro hmore d hd
    rcases List.mem_append.mp hd with hd | hd
    · exact hmenu hmore d (List.mem_of_mem_filter hd)
    · rw [List.mem_singleton.mp hd]
      cases dialog <;> first | rfl | cases hfollows

-- ==== the replies

theorem underWay_answered (c : UnitClient) (packet : UnitActions) :
    ∀ u ∈ (c.answered packet).underWay, u ∈ c.underWay :=
  Selection.underWay_mono (fun _ hd => hd)
    (fun _ hr _ => List.mem_of_mem_eraseP hr)

theorem orderly_answered (h : c.toSelection.Orderly) {packet : UnitActions}
    (hkind : packet.requestKind ≠ .playerInitiated) :
    (c.answered packet).toSelection.Orderly := by
  have hkeep : ∀ r : Request, r.foreground = true →
      ¬ packet.answers r = true := by
    intro r hr hanswers
    cases r with
    | getActions actor unit tile extra kind =>
      simp only [UnitActions.answers, Bool.and_eq_true, beq_iff_eq]
        at hanswers
      have hplayer : kind = .playerInitiated := by
        simpa [Request.foreground] using hr
      exact hkind (hanswers.2.symm.trans hplayer)
    | actionQuery actor target action | cityNameSuggestion unit =>
      cases hanswers
  have hsame : ∀ u, u ∈ (c.answered packet).underWay ↔ u ∈ c.underWay := by
    intro u
    refine ⟨underWay_answered c packet u, fun hu => ?_⟩
    rcases Selection.mem_underWay.mp hu with hdialog | ⟨r, hr, hfg, hactor⟩
    · exact Selection.mem_underWay.mpr (Or.inl hdialog)
    · exact Selection.mem_underWay.mpr (Or.inr
        ⟨r, (List.mem_eraseP_of_neg (hkeep r hfg)).mpr hr, hfg, hactor⟩)
  exact
    { one := fun u hu v hv =>
        h.one u ((hsame u).mp hu) v ((hsame v).mp hv)
      live := fun hlock => (hsame _).mpr (h.live hlock)
      restart := h.restart
      decided := h.decided
      waiting := fun hmore => by
        rcases h.waiting hmore with ⟨r, hr, hfollows⟩ | hdialog
        · have hkept := hkeep r (Request.foreground_of_followsUp hfollows)
          exact Or.inl ⟨r, (List.mem_eraseP_of_neg hkept).mpr hr, hfollows⟩
        · exact Or.inr hdialog
      noMenu := h.noMenu }

def replyTile (c : UnitClient) (packet : UnitActions) : Option Nat :=
  (c.indexToTile packet.targetTileId).map fun _ => packet.targetTileId.toNat

theorem isSome_replyTile (c : UnitClient) (packet : UnitActions) :
    (c.replyTile packet).isSome
      = (c.indexToTile packet.targetTileId).isSome := Option.isSome_map

theorem handleUnitActions_popup {packet : UnitActions}
    {actorUnit : UnitRecord} (hkind : packet.requestKind = .playerInitiated)
    (hfind : c.gameFindUnitByNumber packet.actorUnitId = some actorUnit)
    (hactions : c.hasActions packet = true) :
    ∃ targetUnit targetCity, c.handleUnitActions packet
      = c.popupActionSelection actorUnit (c.replyTile packet)
        packet.targetExtra targetUnit targetCity := by
  have hactions' : ((some actorUnit : Option UnitRecord).isSome
      && (c.replyTile packet).isSome && packet.possible) = true := by
    rw [isSome_replyTile, ← hfind]
    exact hactions
  unfold handleUnitActions
  unfold replyTile at hactions' ⊢
  simp only [hkind, hfind, hactions']
  exact ⟨_, _, rfl⟩

theorem handleUnitActions_nothing {packet : UnitActions}
    (hkind : packet.requestKind = .playerInitiated)
    (hactions : c.hasActions packet = false) :
    c.handleUnitActions packet
      = .ok (c.actionSelectionNoLongerInProgress.actionSelectionNextInFocus
        packet.actorUnitId) := by
  unfold handleUnitActions
  cases hfind : c.gameFindUnitByNumber packet.actorUnitId with
  | none => simp only [hkind]
  | some actorUnit =>
    have hactions' : ((some actorUnit : Option UnitRecord).isSome
        && (c.replyTile packet).isSome && packet.possible) = false := by
      rw [isSome_replyTile, ← hfind]
      exact hactions
    unfold replyTile at hactions'
    simp only [hkind, hactions']

theorem orderly_actionDecisionRequest (h : c.toSelection.Orderly)
    {punit : UnitPacket}
    (hc : c.inProgressFor = 0 → c.unitIsInFocus punit.id = true →
      c.canClientIssueOrders = true → c.MayEnter c.toSelection punit) :
    (c.actionDecisionRequest punit).toSelection.Orderly := by
  unfold actionDecisionRequest
  split
  case isTrue => exact h
  case isFalse hfocus =>
    split
    case isFalse => exact h
    case isTrue hask =>
      rw [Bool.and_eq_true] at hask
      have hfree : c.inProgressFor = 0 := by
        simpa [canAskServerForActions] using hask.2
      have hin : c.unitIsInFocus punit.id = true := by simpa using hfocus
      exact orderly_ask h (hc hfree hin hask.1)

theorem orderly_unitActions (h : c.toSelection.Orderly)
    {packet : UnitActions} (hc : c.ReplyInTurn packet) :
    (settle ((c.answered packet).handleUnitActions
      packet)).toSelection.Orderly := by
  have hone : ∀ u ∈ (c.answered packet).underWay,
      (c.answered packet).OnlyFor u := fun u hu v hv =>
    h.one u (underWay_answered c packet u hu) v
      (underWay_answered c packet v hv)
  unfold ReplyInTurn at hc
  cases hkind : packet.requestKind with
  | playerInitiated =>
    simp only [hkind] at hc
    split at hc
    case isTrue hactions =>
      have hthere := hactions
      simp only [hasActions, Bool.and_eq_true] at hthere
      obtain ⟨actorUnit, hfind⟩ :=
        Option.isSome_iff_exists.mp hthere.1.1
      obtain ⟨hfree, honly⟩ := hc actorUnit hfind
      obtain ⟨targetUnit, targetCity, heq⟩ :=
        handleUnitActions_popup (c := c.answered packet) hkind hfind hactions
      rw [heq]
      refine orderly_popup (c := c.answered packet) h.restart h.decided
        honly hfree ?_
      rw [isSome_replyTile]
      exact hthere.1.2
    case isFalse hactions =>
      rw [handleUnitActions_nothing (c := c.answered packet) hkind
        (Bool.eq_false_iff.mpr hactions)]
      exact orderly_noLonger_next hone h.restart h.decided hc.2
  | backgroundRefresh =>
    simp only [hkind] at hc
    have hanswered : (c.answered packet).toSelection.Orderly :=
      orderly_answered h (by rw [hkind]; exact RequestKind.noConfusion)
    unfold handleUnitActions
    simp only [hkind]
    cases hfind : (c.answered packet).gameFindUnitByNumber
        packet.actorUnitId with
    | none => exact hanswered
    | some actorUnit =>
      obtain ⟨hfree, honly, htile⟩ := hc actorUnit hfind
      have honly' : (c.answered packet).OnlyFor actorUnit.id :=
        honly.mono (underWay_answered c packet)
      refine orderly_popup (c := (c.answered packet).removeElement
        (.actionSelection actorUnit.id)) h.restart h.decided
        (onlyFor_removeElement honly' _) hfree ?_
      exact (isSome_replyTile c packet).trans htile
  | backgroundFastAutoAttack =>
    simp only [hkind] at hc
    have hanswered : (c.answered packet).toSelection.Orderly :=
      orderly_answered h (by rw [hkind]; exact RequestKind.noConfusion)
    unfold handleUnitActions
    simp only [hkind]
    unfold actionDecisionMaybeAuto
    split
    case isTrue =>
      split
      · exact hanswered
      · exact hanswered
    case isFalse hattack =>
      cases hfind : (c.answered packet).gameFindUnitByNumber
          packet.actorUnitId with
      | none => exact hanswered
      | some actorUnit =>
        refine orderly_actionDecisionRequest hanswered ?_
        intro hfree hfocus hissue
        refine (hc actorUnit hfind hfree hfocus hissue
          (Bool.eq_false_iff.mpr hattack)).imp id ?_
        rintro ⟨honly, htile⟩
        exact ⟨honly.mono (underWay_answered c packet), htile⟩

end UnitClient

end Freeciv3d.Web
