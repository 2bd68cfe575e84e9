/-
What moves the focus of the action selection: the packets about units,
the removal of a unit, and the focus itself. Each leaves an orderly
action selection.

# Who is asked

All of them end in `action_selection_next_in_focus`, or ask about the
unit of the packet. So for each there is one equation that says who is
asked about (`selection_advanceUnitFocus`, `selection_handleUnitRemove`),
or that nobody is (`selection_unitPacketMerged`).
-/
import Freeciv3d.Web.Proofs.SelectionLock

namespace Freeciv3d.Web

open Lib

namespace UnitClient

variable {c c' : UnitClient}

-- ==== the focus

theorem selection_settle_updateUnitPosition (c : UnitClient) (tile : Nat) :
    (settle (c.updateUnitPosition tile)).toSelection = c.toSelection := by
  unfold updateUnitPosition
  split <;> rfl

theorem selection_settle_bind (r : Except UnitClient UnitClient)
    {f : UnitClient → Except UnitClient UnitClient}
    (hf : ∀ c, (settle (f c)).toSelection = c.toSelection) :
    (settle (r.bind f)).toSelection = (settle r).toSelection := by
  cases r with
  | error c => rfl
  | ok c => exact hf c

theorem selection_setUnitFocus (c : UnitClient) (punit : UnitRecord) :
    (settle (c.setUnitFocus (some punit))).toSelection
      = ((c.focusOn punit).actionSelectionNextInFocus 0).toSelection :=
  selection_settle_updateUnitPosition _ punit.tile

theorem selection_actionSelectionNextInFocus_queue (c : UnitClient)
    (queue : List Nat) (oldActor : Nat) :
    (({ c with urgentFocusQueue := queue } :
        UnitClient).actionSelectionNextInFocus oldActor).toSelection
      = (c.actionSelectionNextInFocus oldActor).toSelection := by
  unfold actionSelectionNextInFocus
  have hsame : ({ c with urgentFocusQueue := queue } :
      UnitClient).nextInFocus oldActor = c.nextInFocus oldActor := rfl
  rw [hsame]
  cases c.nextInFocus oldActor with
  | none => rfl
  | some funit =>
    rw [selection_askServerForActions, selection_askServerForActions]
    rfl

theorem selection_advanceUnitFocus (c : UnitClient) (best : Option Nat) :
    (settle (c.advanceUnitFocus best)).toSelection
      = match c.candidate best with
        | none => c.toSelection
        | some punit =>
          ((c.focusOn punit).actionSelectionNextInFocus 0).toSelection := by
  unfold advanceUnitFocus candidate
  split
  case isTrue => rfl
  case isFalse =>
    cases hscan : c.scanUrgent
        (c.unitsInFocus.head?.map fun funit : UnitRecord => funit.tile)
        c.urgentFocusQueue none [] with
    | error stale =>
      simp only [hscan]
      rfl
    | ok found =>
      obtain ⟨candidate, stale⟩ := found
      simp only [hscan]
      show (settle (setUnitFocus _ (candidate.or
        (best.bind c.gameFindUnitByNumber)))).toSelection = _
      cases candidate.or (best.bind c.gameFindUnitByNumber) with
      | none => rfl
      | some punit =>
        rw [selection_setUnitFocus]
        exact selection_actionSelectionNextInFocus_queue
          (c.focusOn punit) _ 0

theorem orderly_advanceUnitFocus (h : c.toSelection.Orderly)
    {best : Option Nat}
    (hc : ∀ punit ∈ c.candidate best,
      (c.focusOn punit).NextMayEnter c.toSelection 0) :
    (settle (c.advanceUnitFocus best)).toSelection.Orderly := by
  rw [selection_advanceUnitFocus]
  cases hcandidate : c.candidate best with
  | none => exact h
  | some punit =>
    exact orderly_next (c := c.focusOn punit) h (hc punit hcandidate)

-- ==== the packets

/-- No unit wants a decision. -/
def Undemanding (c : UnitClient) : Prop :=
  ∀ id u, c.units.get? id = some u →
    c.shouldAskServerForActions u.toUnitPacket = false

theorem Undemanding.nextInFocus (h : c.Undemanding) (oldActor : Nat) :
    c.nextInFocus oldActor = none := by
  refine List.find?_eq_none.mpr fun funit hfunit => ?_
  obtain ⟨id, -, hid⟩ := List.mem_filterMap.mp hfunit
  simp [h id funit hid]

theorem Undemanding.actionSelectionNextInFocus (h : c.Undemanding)
    (oldActor : Nat) : c.actionSelectionNextInFocus oldActor = c := by
  unfold UnitClient.actionSelectionNextInFocus
  rw [h.nextInFocus]

/-- `update_unit_focus` asks about nobody while the lock is taken for a
unit in focus, and while nobody wants a decision. -/
theorem selection_updateUnitFocus
    (h : (c.inProgressFor ≠ 0 ∧ c.focusIds ≠ []) ∨ c.Undemanding)
    (best : Option Nat) :
    (settle (c.updateUnitFocus best)).toSelection = c.toSelection := by
  unfold updateUnitFocus
  split
  · rfl
  split
  · rfl
  split
  · rfl
  case isFalse hask =>
    split
    · rfl
    rcases h with ⟨hlock, hfocus⟩ | hnobody
    · refine absurd ?_ hask
      simp [canAskServerForActions, hlock, hfocus]
    · rw [selection_advanceUnitFocus]
      cases c.candidate best with
      | none => rfl
      | some punit =>
        have hnobody' : (c.focusOn punit).Undemanding := hnobody
        dsimp only
        rw [hnobody'.actionSelectionNextInFocus]
        rfl

theorem selection_unitPacketMerged {packet : UnitPacket}
    (h : (∃ u, c.units.get? packet.id = some u
        ∧ u.doneMoving = packet.doneMoving)
      ∨ c.inProgressFor ≠ 0 ∨ c.Undemanding) (oldTile best : Option Nat) :
    (settle (c.unitPacketMerged packet oldTile best)).toSelection
      = c.toSelection := by
  unfold unitPacketMerged
  rw [selection_settle_bind]
  · split
    case isFalse => rfl
    case isTrue hmoved =>
      obtain ⟨hfirst, hdone⟩ := hmoved
      have hfocus : (c.updateTileUnit packet).focusIds ≠ [] := by
        intro hempty
        rw [hempty] at hfirst
        cases hfirst
      refine selection_updateUnitFocus ?_ best
      rcases h with ⟨u, hu, hsame⟩ | hlock | hnobody
      · refine absurd ?_ hdone
        have hfound : (c.updateTileUnit packet).gameFindUnitByNumber packet.id
            = some u := hu
        rw [hfound]
        exact hsame
      · exact Or.inl ⟨hlock, hfocus⟩
      · exact Or.inr hnobody
  · intro c
    rw [selection_settle_bind _ fun c =>
      selection_settle_updateUnitPosition c packet.tile]
    cases oldTile with
    | none => rfl
    | some tile => exact selection_settle_updateUnitPosition c tile

theorem mem_focusIds_clearTileUnit {punit : UnitPacket} {id : Nat}
    (hid : id ∈ (c.clearTileUnit punit).focusIds) : id ∈ c.focusIds := by
  unfold UnitTables.focusIds clearTileUnit at hid
  unfold UnitTables.focusIds
  cases hfocus : c.currentFocus with
  | own ids =>
    simp only [hfocus] at hid
    exact hid
  | tile index =>
    simp only [hfocus, List.getElem?_modify] at hid
    dsimp only
    cases hindex : c.tiles[index]? with
    | none =>
      rw [hindex] at hid
      cases hid
    | some ids =>
      rw [hindex] at hid
      have hid' : id ∈ if punit.tile = index then ids.erase punit.id
          else ids := hid
      split at hid'
      · exact List.mem_of_mem_erase hid'
      · exact hid'

theorem isSome_indexToTile (c : UnitClient) (index : Int) :
    (c.indexToTile index).isSome
      = (decide (0 ≤ index) && decide (index.toNat < c.tiles.length)) := by
  unfold indexToTile
  split
  case isTrue h =>
    simp only [h, decide_true, Bool.true_and]
    rw [Bool.eq_iff_iff, decide_eq_true_iff, isSome_getElem?]
  case isFalse h => simp [h]

theorem MayEnter.of_tiles {s : Selection} {punit : UnitPacket}
    (h : c.MayEnter s punit) (htiles : c'.tiles.length = c.tiles.length)
    (hobserving : c'.observing = c.observing) : c'.MayEnter s punit := by
  refine h.imp (fun hobserves => hobserving.trans hobserves) ?_
  rintro ⟨honly, htile⟩
  refine ⟨honly, ?_⟩
  obtain ⟨tiles, hbind⟩ := Option.isSome_iff_exists.mp htile
  obtain ⟨index, hindex, hfound⟩ := Option.bind_eq_some_iff.mp hbind
  have hthere := isSome_indexToTile c index
  rw [hfound, ← htiles, ← isSome_indexToTile] at hthere
  rw [hindex]
  exact hthere.symm

theorem orderly_backgroundRequest (h : c.toSelection.Orderly)
    {request : Request} (hbackground : request.foreground = false) :
    ({ c with requests := c.requests ++ [request] } :
      UnitClient).toSelection.Orderly := by
  have hsame : ∀ u, u ∈ ({ c with requests := c.requests ++ [request] } :
      UnitClient).underWay ↔ u ∈ c.underWay := by
    intro u
    unfold Selection.underWay
    rw [List.filter_append]
    simp [hbackground]
  exact
    { one := fun u hu v hv => h.one u ((hsame u).mp hu) v ((hsame v).mp hv)
      live := fun hlock => (hsame _).mpr (h.live hlock)
      restart := h.restart
      decided := h.decided
      waiting := fun hmore => (h.waiting hmore).imp
        (fun ⟨r, hr, hfollows⟩ => ⟨r, List.mem_append_left _ hr, hfollows⟩)
        id
      noMenu := h.noMenu }

theorem orderly_actionDecisionHandle (h : c.toSelection.Orderly)
    {punit : UnitPacket}
    (hc : c.inProgressFor = 0 → c.unitIsInFocus punit.id = true →
      c.canClientIssueOrders = true → c.MayEnter c.toSelection punit) :
    (c.actionDecisionHandle punit).toSelection.Orderly := by
  unfold actionDecisionHandle
  split
  · exact orderly_backgroundRequest h rfl
  · exact orderly_actionDecisionRequest h hc

theorem lock_actionDecisionRequest (h : c.inProgressFor ≠ 0)
    (punit : UnitPacket) :
    (c.actionDecisionRequest punit).inProgressFor = c.inProgressFor := by
  have hask : c.canAskServerForActions = false := by
    simpa [canAskServerForActions] using h
  unfold actionDecisionRequest unitFocusUrgent
  rw [hask]
  split
  · rfl
  · simp

theorem lock_actionDecisionHandle (h : c.inProgressFor ≠ 0)
    (punit : UnitPacket) :
    (c.actionDecisionHandle punit).inProgressFor = c.inProgressFor := by
  unfold actionDecisionHandle
  split
  · rfl
  · exact lock_actionDecisionRequest h punit

theorem orderly_asked (h : c.toSelection.Orderly) {packet : UnitPacket}
    (hc : c.PacketInTurn packet) (p : Prop) [Decidable p] :
    (if p ∧ c.shouldAskServerForActions packet = true then
      c.actionDecisionHandle packet else c).toSelection.Orderly := by
  split
  case isTrue hask =>
    exact orderly_actionDecisionHandle h fun hfree hfocus hissue =>
      hc.1 hask.2 hfree hfocus hissue
  case isFalse => exact h

theorem PacketInTurn.clearTileUnit {packet : UnitPacket}
    (h : c.PacketInTurn packet) (punit : UnitPacket) :
    (c.clearTileUnit punit).PacketInTurn packet := by
  refine ⟨fun hask hfree hfocus hissue => ?_, h.2⟩
  have hin : c.unitIsInFocus packet.id = true :=
    List.contains_iff_mem.mpr
      (mem_focusIds_clearTileUnit (List.contains_iff_mem.mp hfocus))
  exact (h.1 hask hfree hin hissue).of_tiles (List.length_modify ..) rfl

theorem orderly_set (h : c.toSelection.Orderly) {packet : UnitPacket}
    (hc : c.PacketInTurn packet) (p : Prop) [Decidable p] (asked : UnitClient)
    (hasked : asked = if p ∧ c.shouldAskServerForActions packet = true then
      c.actionDecisionHandle packet else c) {u : UnitRecord}
    (hdone : packet.doneMoving ≠ none → u.doneMoving = packet.doneMoving)
    (hwant : c.shouldAskServerForActions packet = false → c.Undemanding →
      c.shouldAskServerForActions u.toUnitPacket = false)
    (noticed : List UnitChange) (oldTile best : Option Nat) :
    (settle (({ asked with
        noticed, units := asked.units.set packet.id u } :
          UnitClient).unitPacketMerged packet oldTile
            best)).toSelection.Orderly := by
  rw [selection_unitPacketMerged]
  · rw [hasked]
    exact orderly_asked h hc p
  · by_cases hshort : packet.doneMoving = none
    · refine Or.inr ?_
      by_cases hfree : c.inProgressFor = 0
      · obtain ⟨hpacket, hunits⟩ := hc.2 hshort hfree
        have hquiet : c.Undemanding := fun id v hv =>
          hunits v (Dict.mem_values_iff.mpr ⟨id, hv⟩)
        have hsame : asked = c := by
          rw [hasked, if_neg]
          rintro ⟨-, hask⟩
          exact Bool.false_ne_true (hpacket.symm.trans hask)
        refine Or.inr fun id v hv => ?_
        rw [hsame] at hv ⊢
        have hv' : (c.units.set packet.id u).get? id = some v := hv
        rw [Dict.get?_set] at hv'
        split at hv'
        · obtain rfl := Option.some.inj hv'
          exact hwant hpacket hquiet
        · exact hquiet id v hv'
      · refine Or.inl ?_
        show asked.inProgressFor ≠ 0
        rw [hasked]
        split
        · rw [lock_actionDecisionHandle hfree]
          exact hfree
        · exact hfree
    · exact Or.inl ⟨u, Dict.get?_set_self .., hdone hshort⟩

theorem orderly_unitPacket (h : c.toSelection.Orderly) {packet : UnitPacket}
    (hc : c.PacketInTurn packet) (best : Option Nat) :
    (settle (c.handleUnitPacketCommon packet best)).toSelection.Orderly := by
  unfold handleUnitPacketCommon playerFindUnitById
  cases hold : c.units.get? packet.id with
  | none =>
    have hnone : c.gameFindUnitByNumber packet.id = none := hold
    simp only [hnone]
    exact orderly_set h hc True
      (if c.shouldAskServerForActions packet = true then
        c.actionDecisionHandle packet else c)
      (by simp only [true_and]) (u := { packet with animList := [] })
      (fun _ => rfl) (fun hpacket _ => hpacket) _ none best
  | some old =>
    by_cases hplayers : (c.players.contains packet.owner
        || !c.players.contains old.owner) = true
    · have hfound : (c.clearTileUnit old.toUnitPacket).gameFindUnitByNumber
          packet.id = some old := hold
      simp only [hplayers, if_true, hfound]
      have hset := orderly_set (c := c.clearTileUnit old.toUnitPacket) h
        (hc.clearTileUnit old.toUnitPacket)
        (old.actionDecisionWant ≠ packet.actionDecisionWant
          ∨ old.actionDecisionTile ≠ packet.actionDecisionTile) _ rfl
        (u := old.merge packet) ?_ ?_
      · split
        · exact hset _ (some old.tile) best
        · exact hset _ (some old.tile) best
      · intro hdone
        obtain ⟨done, hsome⟩ := Option.ne_none_iff_exists'.mp hdone
        show packet.doneMoving.or old.doneMoving = packet.doneMoving
        rw [hsome]
        rfl
      · intro hpacket hquiet
        have hquietOld := hquiet packet.id old hold
        unfold shouldAskServerForActions at hpacket hquietOld ⊢
        show ((packet.actionDecisionWant.or old.actionDecisionWant)
            == some .active
          || ((packet.actionDecisionWant.or old.actionDecisionWant)
              == some .passive && _)) = false
        cases hwant : packet.actionDecisionWant with
        | none =>
          rw [Option.none_or]
          exact hquietOld
        | some want =>
          rw [hwant] at hpacket
          exact hpacket
    · simp only [hplayers]
      exact h

-- ==== a removal

def Reselected (c c' : UnitClient) : Prop :=
  c' = { c with toSelection := c'.toSelection }

theorem Reselected.trans {c'' : UnitClient} (h : Reselected c c')
    (h' : Reselected c' c'') : Reselected c c'' := by
  unfold Reselected at *
  rw [h', h]

theorem reselected_askServerForActions (c : UnitClient)
    (punit : UnitPacket) : Reselected c (c.askServerForActions punit) := by
  unfold Reselected askServerForActions
  split <;> rfl

theorem reselected_actionSelectionNextInFocus (c : UnitClient)
    (oldActor : Nat) :
    Reselected c (c.actionSelectionNextInFocus oldActor) := by
  unfold actionSelectionNextInFocus
  split
  · exact reselected_askServerForActions c _
  · rfl

theorem reselected_actSelQueueMayBeDone (c : UnitClient)
    (actorUnit : Nat) : Reselected c (c.actSelQueueMayBeDone actorUnit) := by
  have hnext : ∀ c' : UnitClient, Reselected c c' →
      Reselected c (if c'.didNotDecide = true then
        { c' with didNotDecide := false }
        else c'.actionSelectionNextInFocus actorUnit) := by
    intro c' h
    split
    · exact h.trans rfl
    · exact h.trans (reselected_actionSelectionNextInFocus c' actorUnit)
  unfold actSelQueueMayBeDone
  split
  · rfl
  · refine hnext _ ?_
    split <;> rfl

theorem reselected_actSelQueueDone (c : UnitClient) (actorUnit : Nat) :
    Reselected c (c.actSelQueueDone actorUnit) := by
  have hfirst : Reselected c { c with isMoreUserInputNeeded := false } := rfl
  exact (hfirst.trans (reselected_actSelQueueMayBeDone _ actorUnit)).trans rfl

theorem foldl_removeElement (l : List DialogId) (c : UnitClient) :
    ∃ dialogs, (∀ d ∈ dialogs, d ∈ c.dialogs)
      ∧ l.foldl removeElement c = { c with dialogs } := by
  induction l generalizing c with
  | nil => exact ⟨c.dialogs, fun _ => id, rfl⟩
  | cons element rest ih =>
    obtain ⟨dialogs, hsub, heq⟩ := ih (c.removeElement element)
    exact ⟨dialogs, fun d hd => List.mem_of_mem_filter (hsub d hd), heq⟩

/-- The client after the dialogs of a unit that is removed are closed. -/
def dismissed (c : UnitClient) (punit : UnitRecord) : UnitClient :=
  if c.inProgressFor = punit.id then
    c.actionSelectionClose.actionSelectionNextInFocus punit.id
  else c

theorem reselected_dismissed (c : UnitClient) (punit : UnitRecord) :
    Reselected c (c.dismissed punit) := by
  unfold dismissed
  split
  · have hclosed : Reselected c c.closed := by
      obtain ⟨dialogs, -, heq⟩ :=
        foldl_removeElement (closedElements c.inProgressFor) c
      unfold Reselected closed
      rw [heq]
    exact (hclosed.trans (reselected_actSelQueueDone _ _)).trans
      (reselected_actionSelectionNextInFocus _ _)
  · rfl

theorem scanUrgent_selection (c : UnitClient) (s : Selection)
    (focusTile : Option Nat) (queue : List Nat)
    (candidate : Option UnitRecord) (stale : List Nat) :
    ({ c with toSelection := s } : UnitClient).scanUrgent focusTile queue
        candidate stale
      = c.scanUrgent focusTile queue candidate stale := by
  induction queue generalizing candidate stale with
  | nil => rfl
  | cons id rest ih =>
    unfold scanUrgent
    cases c.units.get? id with
    | none => rfl
    | some punit =>
      dsimp only
      rw [ih, ih]
      rfl

theorem candidate_selection (c : UnitClient) (s : Selection)
    (best : Option Nat) :
    ({ c with toSelection := s } : UnitClient).candidate best
      = c.candidate best := by
  unfold candidate
  rw [scanUrgent_selection]
  rfl

theorem askedOnAdvance_selection (c : UnitClient) (s : Selection)
    (punit : UnitRecord) (best : Option Nat) :
    ({ c with toSelection := s } : UnitClient).askedOnAdvance punit best
      = c.askedOnAdvance punit best := by
  unfold askedOnAdvance
  have hcandidate : (({ c with toSelection := s } : UnitClient).killed
      punit).candidate best = (c.killed punit).candidate best :=
    candidate_selection (c.killed punit) s best
  rw [hcandidate]
  rfl

/-- When a unit is killed the focus may move on, and the unit that is next
then is asked about. -/
theorem selection_controlUnitKilled (c : UnitClient) (punit : UnitRecord)
    (best : Option Nat) :
    (settle ((c.clearTileUnit punit.toUnitPacket).controlUnitKilled punit
        best)).toSelection
      = match c.askedOnAdvance punit best with
        | none => c.toSelection
        | some next =>
          ((c.clearTileUnit punit.toUnitPacket).askServerForActions
            next.toUnitPacket).toSelection := by
  have hkilled : ({ c.clearTileUnit punit.toUnitPacket with
      urgentFocusQueue := (c.clearTileUnit
        punit.toUnitPacket).urgentFocusQueue.filter (· != punit.id) } :
          UnitClient) = c.killed punit := rfl
  unfold controlUnitKilled askedOnAdvance
  simp only [hkilled]
  split
  case isFalse hfocus =>
    rw [if_neg fun h => hfocus h.1]
    rfl
  case isTrue hfocus =>
    split
    case isFalse hone =>
      rw [if_neg fun h => hone h.2]
      rfl
    case isTrue hone =>
      rw [if_pos ⟨hfocus, hone⟩, selection_advanceUnitFocus]
      cases (c.killed punit).candidate best with
      | none => rfl
      | some next =>
        rw [Option.bind_some]
        unfold actionSelectionNextInFocus
        dsimp only
        cases ((c.killed punit).focusOn next).nextInFocus 0 with
        | none => rfl
        | some asked =>
          dsimp only
          rw [selection_askServerForActions,
            selection_askServerForActions]
          rfl

theorem selection_handleUnitRemove {unitId : Nat} {punit : UnitRecord}
    (hfind : c.gameFindUnitByNumber unitId = some punit)
    (best : Option Nat) :
    (settle (c.handleUnitRemove unitId best)).toSelection
      = match c.askedOnAdvance punit best with
        | none => (c.dismissed punit).toSelection
        | some next =>
          (((c.dismissed punit).clearTileUnit
            punit.toUnitPacket).askServerForActions
              next.toUnitPacket).toSelection := by
  have hasked : (c.dismissed punit).askedOnAdvance punit best
      = c.askedOnAdvance punit best := by
    rw [show c.dismissed punit = { c with
      toSelection := (c.dismissed punit).toSelection } from
        reselected_dismissed c punit]
    exact askedOnAdvance_selection c _ punit best
  rw [← hasked, ← selection_controlUnitKilled]
  unfold handleUnitRemove clientRemoveUnit
  simp only [hfind]
  rw [selection_settle_bind _ fun c =>
    selection_settle_updateUnitPosition c punit.tile]
  unfold dismissed
  cases ((if c.inProgressFor = punit.id then
      c.actionSelectionClose.actionSelectionNextInFocus punit.id
    else c).clearTileUnit punit.toUnitPacket).controlUnitKilled punit best with
  | ok killed => rfl
  | error killed => rfl

-- ==== who is asked, and when

theorem onlyFor_ask {u : Nat} (h : c.OnlyFor u) {punit : UnitPacket}
    (hid : punit.id = u) : (c.askServerForActions punit).OnlyFor u := by
  rw [selection_askServerForActions]
  split
  · exact h
  split
  · rw [← hid] at h ⊢
    exact onlyFor_request (.getActions punit.id 0 punit.actionDecisionTile
      none .playerInitiated) h
  · exact h

theorem onlyFor_next {u oldActor : Nat} (h : c.OnlyFor u)
    (hnext : ∀ punit ∈ c.nextInFocus oldActor, punit.id = u) :
    (c.actionSelectionNextInFocus oldActor).OnlyFor u := by
  unfold actionSelectionNextInFocus
  cases hfound : c.nextInFocus oldActor with
  | none => exact h
  | some punit => exact onlyFor_ask h (hnext punit hfound)

theorem lock_ask (h : c.toSelection.Locked) {s : Selection}
    (hs : ∀ u ∈ c.underWay, u ∈ s.underWay) {punit : UnitPacket}
    (hc : c.MayEnter s punit) (hlock : c.inProgressFor ≠ 0) :
    (c.askServerForActions punit).inProgressFor = c.inProgressFor := by
  rw [selection_askServerForActions]
  split
  case isTrue => rfl
  case isFalse hobserving =>
    obtain ⟨honly, -⟩ := hc.resolve_left hobserving
    exact (honly _ (hs _ (h.live hlock))).symm

theorem onlyFor_actSelQueueDone (hrestart : c.actionSelectionRestart = false)
    (hdecided : c.didNotDecide = false) {u actor : Nat} (h : c.OnlyFor u)
    (hnext : ∀ punit ∈ c.nextInFocus actor, punit.id = u) :
    (c.actSelQueueDone actor).OnlyFor u := by
  rw [selection_actSelQueueDone hrestart hdecided]
  exact onlyFor_next (c := c.actionSelectionNoLongerInProgress) h hnext

theorem MayEnter.mono {s s' : Selection} {punit : UnitPacket}
    (h : c.MayEnter s punit)
    (hs : s.OnlyFor punit.id → s'.OnlyFor punit.id) :
    c.MayEnter s' punit :=
  h.imp id fun ⟨honly, htile⟩ => ⟨hs honly, htile⟩

/-- `action_selection_close` takes dialogs off the page, and then the
queue moves on. -/
theorem closed_eq (c : UnitClient) :
    ∃ dialogs, (∀ d ∈ dialogs, d ∈ c.dialogs)
      ∧ c.closed = { c with dialogs }
      ∧ c.actionSelectionClose
        = c.closed.actSelQueueDone c.inProgressFor := by
  obtain ⟨dialogs, hsub, heq⟩ :=
    foldl_removeElement (closedElements c.inProgressFor) c
  exact ⟨dialogs, hsub, heq, rfl⟩

/-- Whoever is the only unit without the removed one, and is asked about
then if anybody is, is the only one after that. -/
theorem onlyFor_dismissed (h : c.toSelection.Orderly) {punit : UnitRecord}
    {v : Nat} (honly : (c.selectionWithout punit).OnlyFor v)
    (hasked : ∀ u ∈ c.askedOnClose punit, u.id = v) :
    (c.dismissed punit).OnlyFor v := by
  unfold selectionWithout at honly
  unfold askedOnClose at hasked
  unfold dismissed
  split
  case isFalse hlock =>
    rw [if_neg hlock] at honly
    exact honly
  case isTrue hlock =>
    rw [if_pos hlock] at honly hasked
    obtain ⟨dialogs, -, hclosed, hclose⟩ := closed_eq c
    rw [hclose, hlock]
    have hdone : (c.closed.actSelQueueDone punit.id).OnlyFor v := by
      rw [hclosed] at honly ⊢
      exact onlyFor_actSelQueueDone (c := { c with dialogs }) h.restart
        h.decided honly hasked
    refine onlyFor_next hdone ?_
    rw [show c.closed.actSelQueueDone punit.id = _ from
      reselected_actSelQueueDone c.closed punit.id, hclosed]
    exact hasked

theorem orderly_dismissed (h : c.toSelection.Orderly) {punit : UnitRecord}
    (hc : ∀ u ∈ c.askedOnClose punit,
      c.MayEnter (c.selectionWithout punit) u.toUnitPacket) :
    (c.dismissed punit).toSelection.Orderly := by
  unfold selectionWithout askedOnClose at hc
  unfold dismissed
  split
  case isFalse hlock => exact h
  case isTrue hlock =>
    rw [if_pos hlock, if_pos hlock] at hc
    obtain ⟨dialogs, hsub, hclosed, hclose⟩ := closed_eq c
    have hunder : ∀ u ∈ c.closed.underWay, u ∈ c.underWay := by
      rw [hclosed]
      exact Selection.underWay_mono hsub (fun _ hr _ => hr)
    have hone : ∀ u ∈ c.closed.underWay, c.closed.OnlyFor u := fun u hu =>
      (h.one u (hunder u hu)).mono hunder
    have hdone : (c.closed.actSelQueueDone
        punit.id).toSelection.Orderly := by
      rw [hclosed] at hone hc ⊢
      exact orderly_actSelQueueDone hone h.restart h.decided hc
    rw [hclose, hlock]
    refine orderly_next hdone fun u hu => ?_
    have hsame : c.closed.actSelQueueDone punit.id = _ :=
      reselected_actSelQueueDone c.closed punit.id
    have hu' : c.nextInFocus punit.id = some u := by
      rw [hsame, hclosed] at hu
      exact hu
    have henter : (c.closed.actSelQueueDone punit.id).MayEnter
        c.closed.toSelection u.toUnitPacket := by
      rw [hsame, hclosed]
      rw [hclosed] at hc
      exact hc u hu'
    refine henter.mono fun honly => ?_
    rw [hclosed] at honly ⊢
    refine onlyFor_actSelQueueDone (c := { c with dialogs }) h.restart
      h.decided honly fun w hw => ?_
    have hw' : c.nextInFocus punit.id = some w := hw
    rw [Option.some.inj (hw'.symm.trans hu')]

theorem orderly_unitRemove (h : c.toSelection.Orderly) {unitId : Nat}
    {punit : UnitRecord}
    (hfind : c.gameFindUnitByNumber unitId = some punit) {best : Option Nat}
    (hc : c.RemovalInTurn punit best) :
    (settle (c.handleUnitRemove unitId best)).toSelection.Orderly := by
  obtain ⟨hclose, hadvance, hsame⟩ := hc
  have hdismissed := orderly_dismissed h hclose
  rw [selection_handleUnitRemove hfind]
  cases hnext : c.askedOnAdvance punit best with
  | none => exact hdismissed
  | some next =>
    refine orderly_ask (c := (c.dismissed punit).clearTileUnit
      punit.toUnitPacket) hdismissed ?_
    have henter : c.MayEnter (c.dismissed punit).toSelection
        next.toUnitPacket :=
      (hadvance next hnext).mono fun honly =>
        onlyFor_dismissed h honly fun u hu => hsame u hu next hnext
    refine henter.of_tiles ?_ ?_
    · rw [show c.dismissed punit = _ from reselected_dismissed c punit]
      exact List.length_modify ..
    · rw [show c.dismissed punit = _ from reselected_dismissed c punit]
      rfl

end UnitClient

end Freeciv3d.Web
