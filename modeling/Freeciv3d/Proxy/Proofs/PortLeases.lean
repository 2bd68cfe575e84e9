/-
Ports against sessions: when no two games' sessions have one port, and
no allocation answers a port that was given back.

# Who gives back what

All four release paths ask the metaserver to take the port back while
the session entry is still there, except `remove_session`. The sweep
and the hard terminate drop the entry when the reply has come; the port
block of `on_close` never does. In between the metaserver may hand the
port to another game, and `allocate_civserver_port` still answers it
from the entry. `get_or_create_session` creates an entry from the port
a reconnecting handler remembers, whoever has that port by now.

# What this closes

`ports_exclusive_via`: in the runs whose steps are all `InHand`, ports
are exclusive and no answer is stale. Each step is a list of lease
operations (`Lib/Lease.lean`), careful under that condition.
-/
import Freeciv3d.Lib.Lease
import Freeciv3d.Proxy.GameSessionManager
import Freeciv3d.Proxy.LlmHandler

namespace Freeciv3d.Proxy

open Lib

namespace GameSession

-- ==== methods and the port

@[simp] theorem markGameOver_port (s : GameSession) (now : Int) :
    (s.markGameOver now).civserverPort = s.civserverPort := by
  unfold markGameOver
  split <;> rfl

@[simp] theorem pauseGame_port (s : GameSession) (t : Option Int)
    (sent : Bool) (now : Int) :
    (s.pauseGame t sent now).1.civserverPort = s.civserverPort := by
  unfold pauseGame
  repeat' split
  all_goals rfl

@[simp] theorem resumeGame_port (s : GameSession) (sent : Bool)
    (now : Int) :
    (s.resumeGame sent now).1.civserverPort = s.civserverPort := by
  unfold resumeGame
  repeat' split
  all_goals rfl

@[simp] theorem addPlayer_port (s : GameSession) (agentId : AgentId)
    (playerId : Int) (handler : HandlerId) (now : Int) :
    (s.addPlayer agentId playerId handler now).1.civserverPort
      = s.civserverPort := by
  have hadmit : (s.admitWhileReleasing now).1.civserverPort
      = s.civserverPort := by
    unfold admitWhileReleasing
    repeat' split
    all_goals rfl
  unfold addPlayer
  dsimp only
  repeat' split
  all_goals exact hadmit

@[simp] theorem leave_port (s : GameSession) (agentId : Option AgentId)
    (now : Int) :
    (s.leave agentId now).1.civserverPort = s.civserverPort := by
  unfold leave
  dsimp only
  repeat' split
  all_goals rfl

end GameSession

namespace PortWorld

@[simp] theorem sweepSession_port (now timeoutSecs : Int) (active : Bool)
    (s : GameSession) :
    (sweepSession now timeoutSecs active s).1.civserverPort
      = s.civserverPort := by
  unfold sweepSession
  repeat' split
  all_goals rfl

-- ==== the leases

/-- The port of each game's session, and the ports handed out. -/
def leases (w : PortWorld) : Leases GameId Int where
  table g := (w.sessions.get? g).map GameSession.civserverPort
  out p := w.out.get? p

theorem leases_eq {w w' : PortWorld}
    (hs : ∀ g, (w'.sessions.get? g).map GameSession.civserverPort
      = (w.sessions.get? g).map GameSession.civserverPort)
    (ho : w'.out = w.out) : w'.leases = w.leases := by
  unfold leases
  rw [ho]
  congr 1
  funext g
  exact hs g

theorem modifySession_leases (w : PortWorld) (g : GameId)
    {f : GameSession → GameSession}
    (hf : ∀ s, (f s).civserverPort = s.civserverPort) :
    (w.modifySession g f).leases = w.leases := by
  refine leases_eq (fun g' => ?_) rfl
  show ((w.sessions.modify g f).get? g').map _ = _
  rw [Dict.get?_modify]
  split
  · rw [Option.map_map]
    cases w.sessions.get? g' with
    | none => rfl
    | some s => exact congrArg some (hf s)
  · rfl

theorem set_leases (w : PortWorld) (g : GameId) (s : GameSession) :
    leases { w with sessions := w.sessions.set g s }
      = w.leases.apply (.create g s.civserverPort) := by
  unfold leases Leases.apply
  congr 1
  funext g'
  rw [Dict.get?_set]
  by_cases hg : g' = g
  · subst hg
    simp
  · simp [hg]

theorem erase_leases (w : PortWorld) (g : GameId) :
    leases { w with sessions := w.sessions.erase g }
      = w.leases.apply (.drop g) := by
  unfold leases Leases.apply
  congr 1
  funext g'
  rw [Dict.get?_erase]
  by_cases hg : g' = g
  · subst hg
    simp
  · simp [hg]

-- ==== the invariant

/-- No two games' sessions have one port. -/
def Exclusive (w : PortWorld) : Prop :=
  ∀ g g' s s', w.sessions.get? g = some s → w.sessions.get? g' = some s' →
    s.civserverPort = s'.civserverPort → g = g'

/-- The leases are safe, what was released to the metaserver is not out
to the game that released it, and no answer was stale. -/
structure PortInv (w : PortWorld) : Prop where
  safe : w.leases.Safe
  released : ∀ g p, (g, p) ∈ w.accepted → w.leases.out p ≠ some g
  fresh : w.staleAnswers = []

theorem PortInv.exclusive {w : PortWorld} (h : PortInv w) :
    Exclusive w := by
  intro g g' s s' hs hs' hport
  refine h.safe.exclusive g g' s.civserverPort ?_ ?_
  · show (w.sessions.get? g).map _ = _
    rw [hs]
    rfl
  · show (w.sessions.get? g').map _ = _
    rw [hs', hport]
    rfl

theorem portInv_init : PortInv PortWorld.init where
  safe := Leases.safe_empty
  released := by
    intro g p h
    cases h
  fresh := rfl

theorem PortInv.of_eq {w w' : PortWorld} (h : PortInv w)
    (hl : w'.leases = w.leases) (ha : w'.accepted = w.accepted)
    (hf : w'.staleAnswers = w.staleAnswers) : PortInv w' where
  safe := hl ▸ h.safe
  released := by
    rw [hl, ha]
    exact h.released
  fresh := hf.trans h.fresh

theorem PortInv.of_apply {w w' : PortWorld} (h : PortInv w)
    (op : LeaseOp GameId Int) (hop : w.leases.Careful op)
    (hl : w'.leases = w.leases.apply op)
    (hout : w'.out = w.out) (ha : w'.accepted = w.accepted)
    (hf : w'.staleAnswers = w.staleAnswers) : PortInv w' where
  safe := by
    rw [hl]
    exact h.safe.apply hop
  released := by
    rw [ha]
    show ∀ g p, _ → w'.out.get? p ≠ some g
    rw [hout]
    exact h.released
  fresh := hf.trans h.fresh

theorem answer_fresh {w : PortWorld} (h : PortInv w) {g : GameId}
    {p : Int} (hout : w.out.get? p = some g) : w.answer g p = w := by
  unfold answer
  rw [if_neg]
  exact fun hmem => h.released g p hmem hout

-- ==== the condition

/-- The steps taken with the ports in hand: an allocation is answered
from an entry only while its port is out to the game; an entry is
created only for a port that is out to its game; and the metaserver
hands a port out only when no other game's session still has it. -/
def InHand (w : PortWorld) : PortAct → Prop
  | .allocateBegin g =>
    (w.sessions.get? g).all fun s => w.out.get? s.civserverPort = some g
  | .handOut p =>
    ∀ e ∈ w.sessions.entries, e.2.civserverPort = p →
      w.allocation.all fun a => a.gameId = e.1
  | .allocateReply (.port p) =>
    w.allocation.all fun a => w.out.get? p = some a.gameId
  | .getOrCreateSession g p _ =>
    w.sessions.contains g ∨ w.out.get? p = some g
  | _ => True

instance (w : PortWorld) (a : PortAct) : Decidable (InHand w a) := by
  cases a with
  | allocateReply r => cases r <;> unfold InHand <;> infer_instance
  | _ => unfold InHand; infer_instance

-- ==== the steps

theorem allocateBegin_inv {w w' : PortWorld} (h : PortInv w) {g : GameId}
    (hc : InHand w (.allocateBegin g)) (hs : w.allocateBegin g = some w') :
    PortInv w' := by
  unfold allocateBegin at hs
  split at hs
  · cases hs
  · change (w.sessions.get? g).all (fun s =>
      w.out.get? s.civserverPort = some g) = true at hc
    split at hs
    next s hget =>
      rw [hget] at hc
      cases hs
      rw [answer_fresh h (of_decide_eq_true hc)]
      exact h
    next =>
      cases hs
      exact h.of_eq rfl rfl rfl

theorem handOut_inv {w w' : PortWorld} (h : PortInv w) {p : Int}
    (hc : InHand w (.handOut p)) (hs : w.handOut p = some w') :
    PortInv w' := by
  unfold handOut at hs
  cases ha : w.allocation with
  | none =>
    rw [ha] at hs
    cases hs
  | some a =>
    rw [ha] at hs
    dsimp only at hs
    split at hs
    · cases hs
    · split at hs
      · cases hs
        have hcareful : w.leases.Careful (.handOut p a.gameId) := by
          intro g hg
          obtain ⟨s, hget, hport⟩ := Option.map_eq_some_iff.mp hg
          have := hc (g, s) (Dict.mem_entries_iff.mpr hget) hport
          rw [ha] at this
          exact (of_decide_eq_true this).symm
        have hl : leases { w with
            allocation := some { a with handed := some p }
            out := w.out.set p a.gameId
            accepted := w.accepted.filter (· ≠ (a.gameId, p)) }
            = w.leases.apply (.handOut p a.gameId) := by
          unfold leases Leases.apply
          congr 1
          funext q
          rw [Dict.get?_set]
          by_cases hq : q = p
          · subst hq
            simp
          · simp [hq]
        refine ⟨?_, ?_, h.fresh⟩
        · rw [hl]
          exact h.safe.apply hcareful
        · intro g q hmem
          obtain ⟨hmem, hne⟩ := List.mem_filter.mp hmem
          show (w.out.set p a.gameId).get? q ≠ some g
          rw [Dict.get?_set]
          split
          next hq =>
            subst hq
            intro heq
            cases heq
            simp at hne
          next => exact h.released g q hmem
      · cases hs

theorem allocateReply_inv {w w' : PortWorld} (h : PortInv w)
    {r : AllocateReply} (hc : InHand w (.allocateReply r))
    (hs : w.allocateReply r = some w') : PortInv w' := by
  unfold allocateReply at hs
  cases ha : w.allocation with
  | none =>
    rw [ha] at hs
    cases hs
  | some a =>
    rw [ha] at hs
    cases r with
    | port p =>
      dsimp only at hs
      split at hs
      · cases hs
        have hout : w.out.get? p = some a.gameId := by
          unfold InHand at hc
          rw [ha] at hc
          exact of_decide_eq_true hc
        have hnew : PortInv { w with
            sessions := w.sessions.set a.gameId
              (GameSession.init a.gameId p 2 w.now)
            allocation := none } :=
          h.of_apply (.create a.gameId p) hout
            (set_leases w a.gameId _) rfl rfl rfl
        rw [answer_fresh hnew hout]
        exact hnew
      · cases hs
    | unexpected | failed =>
      cases hs
      exact h.of_eq rfl rfl rfl
    | unavailable | exception =>
      dsimp only at hs
      split at hs <;> cases hs <;> exact h.of_eq rfl rfl rfl

theorem getOrCreateSession_inv {w : PortWorld} (h : PortInv w)
    {g : GameId} {p : Int} {m : Nat}
    (hc : InHand w (.getOrCreateSession g p m)) :
    PortInv (w.getOrCreateSession g p m) := by
  unfold getOrCreateSession
  split
  next => exact h
  next hnot =>
    have hout : w.out.get? p = some g := by
      rcases hc with hc | hc
      · exact absurd hc hnot
      · exact hc
    exact h.of_apply (.create g p) hout (set_leases w g _) rfl rfl rfl

theorem modifySession_inv {w : PortWorld} (h : PortInv w) (g : GameId)
    {f : GameSession → GameSession}
    (hf : ∀ s, (f s).civserverPort = s.civserverPort) :
    PortInv (w.modifySession g f) :=
  h.of_eq (modifySession_leases w g hf) rfl rfl

theorem startRelease_inv {w : PortWorld} (h : PortInv w) (g : GameId)
    (p : Int) (after : AfterRelease) : PortInv (w.startRelease g p after) :=
  h.of_eq rfl rfl rfl

theorem erase_inv {w : PortWorld} (h : PortInv w) (g : GameId) :
    PortInv { w with sessions := w.sessions.erase g } :=
  h.of_apply (.drop g) trivial (erase_leases w g) rfl rfl rfl

theorem disconnect_inv {w : PortWorld} (h : PortInv w) (g : GameId)
    (a : Option AgentId) (port : Option (Option Int)) :
    PortInv (w.disconnect g a port) := by
  unfold disconnect
  dsimp only
  split
  next q s _ hget =>
    have hset : PortInv { w with
        sessions := w.sessions.set g (s.leave a w.now).1 } := by
      refine h.of_eq (leases_eq (fun g' => ?_) rfl) rfl rfl
      show ((w.sessions.set g _).get? g').map _ = _
      rw [Dict.get?_set]
      split
      next hg =>
        subst hg
        rw [hget]
        exact congrArg some (s.leave_port a w.now)
      next => rfl
    split
    · exact startRelease_inv hset g q .detached
    · exact hset
  next => exact h

theorem removeSession_inv {w : PortWorld} (h : PortInv w) (g : GameId)
    (releasePort : Bool) : PortInv (w.removeSession g releasePort) := by
  unfold removeSession
  split
  next => exact h
  next s _ =>
    split
    · exact startRelease_inv (erase_inv h g) g s.civserverPort .detached
    · exact erase_inv h g

theorem sweepBegin_inv {w : PortWorld} (h : PortInv w) (t : Int)
    (active : List GameId) : PortInv (w.sweepBegin t active) := by
  unfold sweepBegin
  split
  next => exact h
  next =>
    have hmap : PortInv { w with
        sessions := w.sessions.mapVals fun g s =>
          (sweepSession w.now t (g ∈ active) s).1 } := by
      refine h.of_eq (leases_eq (fun g => ?_) rfl) rfl rfl
      show ((w.sessions.mapVals _).get? g).map _ = _
      rw [Dict.get?_mapVals]
      cases w.sessions.get? g with
      | none => rfl
      | some s => exact congrArg some (sweepSession_port w.now t _ s)
    dsimp only
    split
    · exact hmap
    · exact startRelease_inv hmap _ _ _

theorem terminate_inv {w : PortWorld} (h : PortInv w) (g : GameId) :
    PortInv (w.terminate g) := by
  unfold terminate
  split
  next => exact h
  next s _ =>
    exact startRelease_inv
      (modifySession_inv h g fun s => s.markGameOver_port w.now) g _ _

theorem releaseDone_inv {w : PortWorld} (h : PortInv w) (i : Nat)
    (t : ReleaseTask) (released : Bool) :
    PortInv (w.releaseDone i t released) := by
  have hreset : ∀ {w : PortWorld}, PortInv w →
      PortInv (w.modifySession t.gameId GameSession.resetPortReleasingFlag) :=
    fun h => modifySession_inv h t.gameId fun _ => rfl
  unfold releaseDone
  dsimp only
  split
  next => exact (hreset h).of_eq rfl rfl rfl
  next => exact (erase_inv (hreset h) t.gameId).of_eq rfl rfl rfl
  next rest cleaned _ =>
    have hdrop : PortInv
        (if released then
          { w.modifySession t.gameId GameSession.resetPortReleasingFlag with
            sessions := (w.modifySession t.gameId
              GameSession.resetPortReleasingFlag).sessions.erase t.gameId }
        else (w.modifySession t.gameId
          GameSession.resetPortReleasingFlag).modifySession t.gameId
            GameSession.resetPortReleasingFlag) := by
      split
      · exact erase_inv (hreset h) t.gameId
      · exact hreset (hreset h)
    split
    · exact hdrop.of_eq rfl rfl rfl
    · exact hdrop.of_eq rfl rfl rfl

theorem releaseSend_inv {w w' : PortWorld} (h : PortInv w) {i : Nat}
    (hs : w.releaseSend i = some w') : PortInv w' := by
  unfold releaseSend at hs
  split at hs
  · split at hs
    · cases hs
      exact h.of_eq rfl rfl rfl
    · cases hs
  · cases hs

/-- A port that comes back is out to nobody, so an accepted release is
one of a port that is not out to the game. -/
theorem releaseReceive_inv {w w' : PortWorld} (h : PortInv w) {i : Nat}
    {accepted : Bool} (hs : w.releaseReceive i accepted = some w') :
    PortInv w' := by
  unfold releaseReceive at hs
  split at hs
  next t _ =>
    split at hs
    · cases hs
      have hl : leases { w with
          releases := w.releases.set i { t with phase := .received accepted }
          out := w.out.erase t.port
          accepted := if accepted then (t.gameId, t.port) :: w.accepted
            else w.accepted }
          = w.leases.apply (.giveBack t.port) := by
        unfold leases Leases.apply
        congr 1
        funext q
        rw [Dict.get?_erase]
        by_cases hq : q = t.port
        · subst hq
          simp
        · simp [hq]
      refine ⟨?_, ?_, h.fresh⟩
      · rw [hl]
        exact h.safe.apply trivial
      · intro g q hmem
        show (w.out.erase t.port).get? q ≠ some g
        rw [Dict.get?_erase]
        split
        next => exact Option.some_ne_none g |>.symm
        next hq =>
          have hold : (g, q) ∈ w.accepted := by
            revert hmem
            show (g, q) ∈ (if accepted then (t.gameId, t.port) :: w.accepted
              else w.accepted) → _
            split
            · intro hmem
              rcases List.mem_cons.mp hmem with heq | hmem
              · exact absurd (Prod.mk.inj heq).2 hq
              · exact hmem
            · exact id
          exact h.released g q hold
    · cases hs
  next => cases hs

theorem releaseReply_inv {w w' : PortWorld} (h : PortInv w) {i : Nat}
    {r : ReleaseReply} (hs : w.releaseReply i r = some w') :
    PortInv w' := by
  unfold releaseReply at hs
  split at hs
  next t _ =>
    split at hs
    · cases r with
      | success | notFound =>
        cases hs
        exact releaseDone_inv h i t true
      | nonSuccess =>
        cases hs
        exact releaseDone_inv h i t false
      | serverError | exception =>
        dsimp only at hs
        split at hs
        · cases hs
          exact h.of_eq rfl rfl rfl
        · cases hs
          exact releaseDone_inv h i t false
    · cases hs
  next => cases hs

/-- One step in hand keeps the invariant. -/
theorem apply_inv {w w' : PortWorld} (h : PortInv w) {a : PortAct}
    (hc : InHand w a) (hs : w.apply a = some w') : PortInv w' := by
  cases a with
  | tick n =>
    cases hs
    exact h.of_eq rfl rfl rfl
  | allocateBegin g => exact allocateBegin_inv h hc hs
  | handOut p => exact handOut_inv h hc hs
  | allocateReply r => exact allocateReply_inv h hc hs
  | getOrCreateSession g p m =>
    cases hs
    exact getOrCreateSession_inv h hc
  | addPlayer g a pid handler =>
    cases hs
    exact modifySession_inv h g fun s => s.addPlayer_port a pid handler w.now
  | pause g t sent =>
    cases hs
    exact modifySession_inv h g fun s => s.pauseGame_port t sent w.now
  | resume g sent =>
    cases hs
    exact modifySession_inv h g fun s => s.resumeGame_port sent w.now
  | markGameOver g =>
    cases hs
    exact modifySession_inv h g fun s => s.markGameOver_port w.now
  | disconnect g a port =>
    cases hs
    exact disconnect_inv h g a port
  | removeSession g r =>
    cases hs
    exact removeSession_inv h g r
  | sweepBegin t active =>
    cases hs
    exact sweepBegin_inv h t active
  | terminate g =>
    cases hs
    exact terminate_inv h g
  | releaseSend i => exact releaseSend_inv h hs
  | releaseReceive i accepted => exact releaseReceive_inv h hs
  | releaseReply i r => exact releaseReply_inv h hs

/-- In every run whose steps are taken with the ports in hand, no two
games' sessions have one port, and `allocate_civserver_port` has never
answered a port whose release for that game the metaserver had
accepted. -/
theorem ports_exclusive_via {w : PortWorld}
    (h : portRuns.ReachVia InHand w) :
    w.Exclusive ∧ w.staleAnswers = [] := by
  have hI : PortInv w :=
    h.invariant (fun w hw => hw ▸ portInv_init)
      fun _ _ _ hI hc hs => apply_inv hI hc hs
  exact ⟨hI.exclusive, hI.fresh⟩

namespace Shared

def play : List PortAct :=
  [.allocateBegin "a", .handOut 6001, .allocateReply (.port 6001),
    .getOrCreateSession "a" 6001 2, .addPlayer "a" "alice" 0 0]

/-- Then the session is removed, its port released, and game b gets
it. -/
def removed : List PortAct :=
  play ++ [.removeSession "a" true, .releaseSend 0,
    .releaseReceive 0 true, .releaseReply 0 .success,
    .allocateBegin "b", .handOut 6001, .allocateReply (.port 6001),
    .allocateBegin "b"]

/-- Or alice's `on_close` schedules the release, and game b gets the
port; then a is asked for again. -/
def closed : List PortAct :=
  play ++ [.disconnect "a" (some "alice") (some (some 6001)),
    .releaseSend 0, .releaseReceive 0 true, .releaseReply 0 .success,
    .allocateBegin "b", .handOut 6001, .allocateReply (.port 6001),
    .allocateBegin "a"]

end Shared

/-- The theorem at a run that removes the session before the port is
handed out again. -/
theorem ports_exclusive_via_removed :
    ∃ w, portRuns.exec PortWorld.init Shared.removed = some w
      ∧ portRuns.ReachVia InHand w
      ∧ w.Exclusive ∧ w.staleAnswers = [] := by
  obtain ⟨w, hw⟩ : ∃ w,
      portRuns.exec PortWorld.init Shared.removed = some w := ⟨_, rfl⟩
  have hvia : portRuns.ReachVia InHand w :=
    Lts.ReachVia.exec (.init rfl)
      (by decide : portRuns.Along InHand PortWorld.init Shared.removed) hw
  exact ⟨w, hw, hvia, ports_exclusive_via hvia⟩

/-- After alice's `on_close`, games a and b both have port 6001, and a
is answered 6001 although its release was accepted. -/
theorem ports_shared_after_close :
    ∃ w, portRuns.exec PortWorld.init Shared.closed = some w
      ∧ portRuns.Reach w
      ∧ ¬ w.Exclusive ∧ w.staleAnswers = [("a", 6001)] := by
  refine ⟨_, rfl, Lts.Reach.exec (l := Shared.closed) (.init rfl) rfl, ?_,
    by decide⟩
  intro h
  have := h "a" "b" _ _ rfl rfl rfl
  exact absurd this (by decide)

end PortWorld

end Freeciv3d.Proxy
