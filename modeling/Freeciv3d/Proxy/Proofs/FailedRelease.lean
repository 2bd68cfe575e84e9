/-
What a failed port release leaves behind: the flag `_port_releasing`,
and whether a later sweep selects the game again.

# The flag

It is set when a release is decided (the port block of `on_close`, the
sweep) and reset at the end of every release call, on whatever session
the game has then. `FlagBacked` says that a session with the flag up
has a release in flight or waiting in the rest of a sweep; it holds in
every run (`reach_flagBacked`).

# The retry

A sweep selects finished games nobody is in and games that are paused.
A failed release leaves the session as it is, the flag apart, so a
retry needs the session to be of one of these kinds already. A game
that was neither paused nor over when its last player left is of
neither, and the hard terminate drops the session whatever the release
answered.
-/
import Freeciv3d.Lib.Tasks
import Freeciv3d.Proxy.GameSessionManager

namespace Freeciv3d.Proxy

open Lib

/-- The games whose turn in the sweep is still to come. -/
def AfterRelease.pending : AfterRelease → List GameId
  | sweep rest _ => rest.map Prod.fst
  | _ => []

def ReleaseTask.games (t : ReleaseTask) : List GameId :=
  t.gameId :: t.after.pending

namespace PortWorld

/-- A release of the game's port is in flight or waits in a sweep. -/
def InFlight (w : PortWorld) (g : GameId) : Prop :=
  ∃ t ∈ w.releases, g ∈ t.games

/-- A session with `_port_releasing` up has a release in flight. -/
def FlagBacked (w : PortWorld) : Prop :=
  ∀ g s, w.sessions.get? g = some s → s.portReleasing = true → w.InFlight g

end PortWorld

-- ==== methods and the flag

namespace GameSession

theorem markGameOver_flag (s : GameSession) (now : Int) :
    (s.markGameOver now).portReleasing = s.portReleasing := by
  unfold markGameOver
  split <;> rfl

theorem pauseGame_flag (s : GameSession) (t : Option Int) (sent : Bool)
    (now : Int) :
    (s.pauseGame t sent now).1.portReleasing = s.portReleasing := by
  unfold pauseGame
  repeat' split
  all_goals rfl

theorem resumeGame_flag (s : GameSession) (sent : Bool) (now : Int) :
    (s.resumeGame sent now).1.portReleasing = s.portReleasing := by
  unfold resumeGame
  repeat' split
  all_goals rfl

theorem addPlayer_flag {s : GameSession} {agentId : AgentId}
    {playerId : Int} {handler : HandlerId} {now : Int}
    (h : (s.addPlayer agentId playerId handler now).1.portReleasing = true) :
    s.portReleasing = true := by
  have hkeep : (s.addPlayer agentId playerId handler now).1.portReleasing
      = (s.admitWhileReleasing now).1.portReleasing := by
    unfold addPlayer
    dsimp only
    repeat' split
    all_goals rfl
  rw [hkeep] at h
  unfold admitWhileReleasing at h
  split at h
  · exact h
  · split at h
    · cases h
    · exact h

theorem leave_flag (s : GameSession) (agentId : Option AgentId)
    (now : Int) :
    (s.leave agentId now).1.portReleasing
      = (s.portReleasing || (s.leave agentId now).2) := by
  unfold leave
  dsimp only
  repeat' split
  all_goals simp [setPortReleasing]

end GameSession

namespace PortWorld

theorem sweepSession_flag (now timeoutSecs : Int) (active : Bool)
    (s : GameSession) :
    (sweepSession now timeoutSecs active s).1.portReleasing
      = (s.portReleasing || (sweepSession now timeoutSecs active s).2) := by
  unfold sweepSession
  repeat' split
  all_goals simp [GameSession.setPortReleasing]

theorem mem_sweepCandidates {w : PortWorld} {timeoutSecs : Int}
    {active : List GameId} {g : GameId} {p : Int} :
    (g, p) ∈ w.sweepCandidates timeoutSecs active
      ↔ ∃ s, w.sessions.get? g = some s ∧ s.civserverPort = p
        ∧ (sweepSession w.now timeoutSecs (g ∈ active) s).2 = true := by
  unfold sweepCandidates
  simp only [List.mem_map, List.mem_append, List.mem_filter]
  constructor
  · intro h
    rcases h with ⟨⟨g', s⟩, hmem, heq⟩
    cases heq
    rcases hmem with ⟨⟨he, hsel⟩, -⟩ | ⟨⟨he, hsel⟩, -⟩
    · exact ⟨s, Dict.mem_entries_iff.mp he, rfl, hsel⟩
    · exact ⟨s, Dict.mem_entries_iff.mp he, rfl, hsel⟩
  · intro h
    rcases h with ⟨s, hs, rfl, hsel⟩
    refine ⟨(g, s), ?_, rfl⟩
    have he := Dict.mem_entries_iff.mpr hs
    cases ho : s.gameIsOver with
    | true => exact .inl ⟨⟨he, hsel⟩, rfl⟩
    | false => exact .inr ⟨⟨he, hsel⟩, rfl⟩

-- ==== the flag invariant

/-- What a step must do to keep the invariant: every session with the
flag up had it up before or has a release now, and no release in flight
is forgotten except where the flag is down. -/
theorem FlagBacked.of {w w' : PortWorld} (h : w.FlagBacked)
    (hs : ∀ g s', w'.sessions.get? g = some s' → s'.portReleasing = true →
      w'.InFlight g ∨ ∃ s, w.sessions.get? g = some s
        ∧ s.portReleasing = true ∧ (w.InFlight g → w'.InFlight g)) :
    w'.FlagBacked := by
  intro g s' hg hflag
  rcases hs g s' hg hflag with hin | ⟨s, hs, hup, hkeep⟩
  · exact hin
  · exact hkeep (h g s hs hup)

theorem InFlight.startRelease {w : PortWorld} {g : GameId}
    (h : w.InFlight g) (g' : GameId) (p : Int) (after : AfterRelease) :
    (w.startRelease g' p after).InFlight g := by
  obtain ⟨t, ht, hg⟩ := h
  exact ⟨t, List.mem_append_left _ ht, hg⟩

theorem inFlight_startRelease (w : PortWorld) {g g' : GameId} (p : Int)
    {after : AfterRelease} (h : g = g' ∨ g ∈ after.pending) :
    (w.startRelease g' p after).InFlight g := by
  refine ⟨⟨g', p, 0, .ready, after⟩, List.mem_append_right _ (by simp), ?_⟩
  rcases h with rfl | h
  · exact List.mem_cons_self
  · exact List.mem_cons_of_mem _ h

theorem FlagBacked.modifySession {w : PortWorld} (h : w.FlagBacked)
    (g : GameId) {f : GameSession → GameSession}
    (hf : ∀ s, (f s).portReleasing = true → s.portReleasing = true) :
    (w.modifySession g f).FlagBacked := by
  refine h.of fun g' s' hg' hflag => .inr ?_
  change (w.sessions.modify g f).get? g' = some s' at hg'
  rw [Dict.get?_modify] at hg'
  split at hg'
  · obtain ⟨s, hs, rfl⟩ := Option.map_eq_some_iff.mp hg'
    exact ⟨s, hs, hf s hflag, id⟩
  · exact ⟨s', hg', hflag, id⟩

theorem FlagBacked.set {w w' : PortWorld} (h : w.FlagBacked) {g : GameId}
    {s : GameSession} (hs : w'.sessions = w.sessions.set g s)
    (hr : w'.releases = w.releases) (hdown : s.portReleasing = false) :
    w'.FlagBacked := by
  have hkeep : ∀ g', w.InFlight g' → w'.InFlight g' := by
    intro g' hin
    unfold InFlight
    rw [hr]
    exact hin
  refine h.of fun g' s' hg' hflag => .inr ?_
  rw [hs, Dict.get?_set] at hg'
  split at hg'
  · cases hg'
    rw [hdown] at hflag
    cases hflag
  · exact ⟨s', hg', hflag, hkeep g'⟩

/-- Nothing the invariant reads has changed. -/
theorem FlagBacked.of_eq {w w' : PortWorld} (h : w.FlagBacked)
    (hs : w'.sessions = w.sessions) (hr : w'.releases = w.releases) :
    w'.FlagBacked := by
  unfold FlagBacked InFlight
  rw [hs, hr]
  exact h

theorem FlagBacked.disconnect {w : PortWorld} (h : w.FlagBacked)
    (g : GameId) (a : Option AgentId) (p : Option (Option Int)) :
    (w.disconnect g a p).FlagBacked := by
  unfold PortWorld.disconnect
  dsimp only
  split
  next port s hport hs =>
    refine h.of fun g' s' hg' hflag => ?_
    split at hg'
    next hrel =>
      change (w.sessions.set g _).get? g' = some s' at hg'
      rw [Dict.get?_set] at hg'
      split at hg'
      next heq =>
        left
        simp only [hrel, if_true]
        exact inFlight_startRelease _ port (.inl heq)
      next =>
        right
        simp only [hrel, if_true]
        exact ⟨s', hg', hflag, fun hin => InFlight.startRelease hin ..⟩
    next hrel =>
      right
      simp only [hrel]
      change (w.sessions.set g _).get? g' = some s' at hg'
      rw [Dict.get?_set] at hg'
      split at hg'
      next heq =>
        cases hg'
        subst heq
        rw [GameSession.leave_flag] at hflag
        refine ⟨s, hs, ?_, id⟩
        simpa [hrel] using hflag
      next => exact ⟨s', hg', hflag, id⟩
  next => exact h

theorem FlagBacked.sweepBegin {w : PortWorld} (h : w.FlagBacked)
    (timeoutSecs : Int) (active : List GameId) :
    (w.sweepBegin timeoutSecs active).FlagBacked := by
  -- a selected game is the first candidate or in the rest
  have hsession : ∀ g s', (w.sessions.mapVals fun g s =>
        (sweepSession w.now timeoutSecs (g ∈ active) s).1).get? g = some s' →
      s'.portReleasing = true →
      (∃ p, (g, p) ∈ w.sweepCandidates timeoutSecs active)
        ∨ ∃ s, w.sessions.get? g = some s ∧ s.portReleasing = true := by
    intro g s' hg hflag
    rw [Dict.get?_mapVals] at hg
    obtain ⟨s, hs, rfl⟩ := Option.map_eq_some_iff.mp hg
    rw [sweepSession_flag, Bool.or_eq_true] at hflag
    rcases hflag with hup | hsel
    · exact .inr ⟨s, hs, hup⟩
    · exact .inl ⟨s.civserverPort,
        mem_sweepCandidates.mpr ⟨s, hs, rfl, hsel⟩⟩
  unfold PortWorld.sweepBegin
  dsimp only
  split
  · exact h
  · split
    next hnil =>
      refine h.of fun g s' hg hflag => .inr ?_
      rcases hsession g s' hg hflag with ⟨p, hp⟩ | ⟨s, hs, hup⟩
      · rw [hnil] at hp
        cases hp
      · exact ⟨s, hs, hup, id⟩
    next g₀ p₀ rest hcons =>
      refine h.of fun g s' hg hflag => ?_
      rcases hsession g s' hg hflag with ⟨p, hp⟩ | ⟨s, hs, hup⟩
      · left
        rw [hcons] at hp
        refine inFlight_startRelease _ p₀ ?_
        rcases List.mem_cons.mp hp with heq | hrest
        · cases heq
          exact .inl rfl
        · exact .inr (List.mem_map.mpr ⟨(g, p), hrest, rfl⟩)
      · exact .inr ⟨s, hs, hup, fun hin => InFlight.startRelease hin ..⟩

/-- An attempt goes on: the task is replaced by one about the same
games. -/
theorem FlagBacked.retask {w w' : PortWorld} (h : w.FlagBacked) {i : Nat}
    {t t' : ReleaseTask} (ht : w.releases[i]? = some t)
    (hr : w'.releases = w.releases.set i t')
    (hs : w'.sessions = w.sessions) (hgames : t'.games = t.games) :
    w'.FlagBacked := by
  refine h.of fun g s' hg hflag => .inr ?_
  rw [hs] at hg
  refine ⟨s', hg, hflag, ?_⟩
  intro hin
  obtain ⟨u, hu, hgu⟩ := hin
  unfold InFlight
  rw [hr]
  rcases eq_or_mem_set ht t' hu with rfl | hu
  · exact ⟨t', mem_set_self ht t', hgames ▸ hgu⟩
  · exact ⟨u, hu, hgu⟩

/-- After a release call, a session with the flag up is another game's
and had it up before. -/
theorem releaseDone_session {w : PortWorld} {i : Nat} {t : ReleaseTask}
    {released : Bool} {g : GameId} {s' : GameSession}
    (hg : (w.releaseDone i t released).sessions.get? g = some s')
    (hflag : s'.portReleasing = true) :
    g ≠ t.gameId ∧ w.sessions.get? g = some s' := by
  have hreset : ∀ s'', (w.sessions.modify t.gameId
        GameSession.resetPortReleasingFlag).get? g = some s'' →
      s''.portReleasing = true →
      g ≠ t.gameId ∧ w.sessions.get? g = some s'' := by
    intro s'' hg' hup
    rw [Dict.get?_modify] at hg'
    split at hg'
    next =>
      obtain ⟨s, -, rfl⟩ := Option.map_eq_some_iff.mp hg'
      cases hup
    next hne => exact ⟨hne, hg'⟩
  have herase : ∀ (d : Dict GameId GameSession),
      (d.erase t.gameId).get? g = some s' → d.get? g = some s' := by
    intro d hd
    rw [Dict.get?_erase] at hd
    split at hd
    · cases hd
    · exact hd
  have hsweep : ((if released then
        ({ w.modifySession t.gameId GameSession.resetPortReleasingFlag with
          sessions := (w.modifySession t.gameId
            GameSession.resetPortReleasingFlag).sessions.erase t.gameId } :
          PortWorld)
      else (w.modifySession t.gameId
          GameSession.resetPortReleasingFlag).modifySession t.gameId
        GameSession.resetPortReleasingFlag).sessions.get? g = some s') →
      g ≠ t.gameId ∧ w.sessions.get? g = some s' := by
    intro hg'
    split at hg'
    · exact hreset s' (herase _ hg') hflag
    · change ((w.sessions.modify t.gameId
        GameSession.resetPortReleasingFlag).modify t.gameId
          GameSession.resetPortReleasingFlag).get? g = some s' at hg'
      rw [Dict.get?_modify] at hg'
      split at hg'
      next =>
        obtain ⟨s, -, rfl⟩ := Option.map_eq_some_iff.mp hg'
        cases hflag
      next => exact hreset s' hg' hflag
  unfold releaseDone at hg
  dsimp only at hg
  split at hg
  · exact hreset s' hg hflag
  · exact hreset s' (herase _ hg) hflag
  · split at hg
    · exact hsweep hg
    · exact hsweep hg

theorem InFlight.releaseDone {w : PortWorld} {i : Nat} {t : ReleaseTask}
    {g : GameId} (h : w.InFlight g) (ht : w.releases[i]? = some t)
    (hne : g ≠ t.gameId) (released : Bool) :
    (w.releaseDone i t released).InFlight g := by
  obtain ⟨u, hu, hgu⟩ := h
  have herase : g ∉ t.after.pending → ∃ u ∈ w.releases.eraseIdx i,
      g ∈ u.games := by
    intro hnp
    rcases eq_or_mem_eraseIdx ht hu with rfl | hu
    · rcases List.mem_cons.mp hgu with h | h
      · exact absurd h hne
      · exact absurd h hnp
    · exact ⟨u, hu, hgu⟩
  unfold PortWorld.releaseDone
  split
  next hafter =>
    refine herase ?_
    rw [hafter]
    simp [AfterRelease.pending]
  next hafter =>
    refine herase ?_
    rw [hafter]
    simp [AfterRelease.pending]
  next rest cleaned hafter =>
    cases rest with
    | nil =>
      have hout := herase (by rw [hafter]; simp [AfterRelease.pending])
      cases released <;> exact hout
    | cons c rest =>
      obtain ⟨g₂, p₂⟩ := c
      -- the sweep goes on: its next game and its rest are t's rest
      have hnext : ∀ n, ∃ v ∈ w.releases.set i
          ⟨g₂, p₂, 0, .ready, .sweep rest n⟩, g ∈ v.games := by
        intro n
        rcases eq_or_mem_set ht ⟨g₂, p₂, 0, .ready, .sweep rest n⟩ hu
          with rfl | hu
        · refine ⟨_, mem_set_self ht _, ?_⟩
          rcases List.mem_cons.mp hgu with h | h
          · exact absurd h hne
          · rw [hafter] at h
            exact h
        · exact ⟨u, hu, hgu⟩
      cases released <;> exact hnext _

theorem FlagBacked.releaseDone {w : PortWorld} (h : w.FlagBacked) {i : Nat}
    {t : ReleaseTask} (ht : w.releases[i]? = some t) (released : Bool) :
    (w.releaseDone i t released).FlagBacked := by
  refine h.of fun g s' hg hflag => .inr ?_
  obtain ⟨hne, hs⟩ := releaseDone_session hg hflag
  exact ⟨s', hs, hflag, fun hin => hin.releaseDone ht hne released⟩

/-- Every step keeps the invariant. -/
theorem FlagBacked.apply {w w' : PortWorld} (h : w.FlagBacked)
    {a : PortAct} (hstep : w.apply a = some w') : w'.FlagBacked := by
  cases a with
  | tick n =>
    cases hstep
    exact h.of_eq rfl rfl
  | allocateBegin g =>
    simp only [PortWorld.apply, allocateBegin] at hstep
    split at hstep
    · cases hstep
    · split at hstep
      · cases hstep
        unfold answer
        split
        · exact h.of_eq rfl rfl
        · exact h
      · cases hstep
        exact h.of_eq rfl rfl
  | handOut p =>
    simp only [PortWorld.apply, handOut] at hstep
    split at hstep
    · cases hstep
    · split at hstep
      · cases hstep
      · split at hstep
        · cases hstep
          exact h.of_eq rfl rfl
        · cases hstep
  | allocateReply r =>
    simp only [PortWorld.apply, allocateReply] at hstep
    split at hstep
    · cases hstep
    next a ha =>
      split at hstep
      · split at hstep
        · cases hstep
          unfold answer
          split
          · exact h.set rfl rfl rfl
          · exact h.set rfl rfl rfl
        · cases hstep
      · cases hstep
        exact h.of_eq rfl rfl
      · cases hstep
        exact h.of_eq rfl rfl
      · split at hstep
        · cases hstep
          exact h.of_eq rfl rfl
        · cases hstep
          exact h.of_eq rfl rfl
      · split at hstep
        · cases hstep
          exact h.of_eq rfl rfl
        · cases hstep
          exact h.of_eq rfl rfl
  | getOrCreateSession g p m =>
    cases hstep
    unfold getOrCreateSession
    split
    · exact h
    · exact h.set rfl rfl rfl
  | addPlayer g a pid hid =>
    cases hstep
    exact h.modifySession g fun s => GameSession.addPlayer_flag
  | pause g t sent =>
    cases hstep
    refine h.modifySession g fun s hs => ?_
    rwa [GameSession.pauseGame_flag] at hs
  | resume g sent =>
    cases hstep
    refine h.modifySession g fun s hs => ?_
    rwa [GameSession.resumeGame_flag] at hs
  | markGameOver g =>
    cases hstep
    refine h.modifySession g fun s hs => ?_
    rwa [GameSession.markGameOver_flag] at hs
  | disconnect g a p =>
    cases hstep
    exact h.disconnect g a p
  | removeSession g release =>
    cases hstep
    unfold removeSession
    split
    · exact h
    · dsimp only
      have herase : ∀ {d : Dict GameId GameSession} {g' s'},
          (d.erase g).get? g' = some s' → d.get? g' = some s' := by
        intro d g' s' hd
        rw [Dict.get?_erase] at hd
        split at hd
        · cases hd
        · exact hd
      split
      · exact h.of fun g' s' hg' hflag => .inr ⟨s', herase hg', hflag,
          fun hin => InFlight.startRelease hin ..⟩
      · exact h.of fun g' s' hg' hflag => .inr ⟨s', herase hg', hflag, id⟩
  | sweepBegin t active =>
    cases hstep
    exact h.sweepBegin t active
  | terminate g =>
    cases hstep
    unfold terminate
    split
    · exact h
    · have hover := h.modifySession g
        (f := fun s => s.markGameOver w.now) fun s hs => by
          rwa [GameSession.markGameOver_flag] at hs
      exact hover.of fun g' s' hg' hflag => .inr ⟨s', hg', hflag,
        fun hin => InFlight.startRelease hin ..⟩
  | releaseSend i =>
    simp only [PortWorld.apply, releaseSend] at hstep
    split at hstep
    next t ht =>
      split at hstep
      · cases hstep
        exact h.retask ht rfl rfl rfl
      · cases hstep
    next => cases hstep
  | releaseReceive i accepted =>
    simp only [PortWorld.apply, releaseReceive] at hstep
    split at hstep
    next t ht =>
      split at hstep
      · cases hstep
        exact h.retask ht rfl rfl rfl
      · cases hstep
    next => cases hstep
  | releaseReply i r =>
    simp only [PortWorld.apply, releaseReply] at hstep
    split at hstep
    next t ht =>
      split at hstep
      · split at hstep
        · cases hstep
          exact h.releaseDone ht true
        · cases hstep
          exact h.releaseDone ht true
        · cases hstep
          exact h.releaseDone ht false
        · split at hstep
          · cases hstep
            exact h.retask ht rfl rfl rfl
          · cases hstep
            exact h.releaseDone ht false
        · split at hstep
          · cases hstep
            exact h.retask ht rfl rfl rfl
          · cases hstep
            exact h.releaseDone ht false
      · cases hstep
    next => cases hstep

theorem reach_flagBacked {w : PortWorld} (h : portRuns.Reach w) :
    w.FlagBacked :=
  h.invariant (fun w hw => by
    subst hw
    intro g s hg
    rw [show PortWorld.init.sessions = ∅ from rfl, Dict.get?_empty] at hg
    cases hg)
    fun _ _ _ hi hstep => hi.apply hstep

-- ==== the retry

/-- The sweep at some later time `n` seconds on, however much later,
selects the game, as long as no player of it has an open
connection. -/
def Retried (timeoutSecs : Int) (w : PortWorld) (g : GameId) : Prop :=
  ∃ n₀ : Nat, ∀ n : Nat, n₀ ≤ n → ∀ active : List GameId, g ∉ active →
    ∃ p, (g, p) ∈ { w with now := w.now + n }.sweepCandidates timeoutSecs
      active

/-- No session has `_port_releasing` up without a release. -/
def FlagsDown (w : PortWorld) : Prop :=
  ∀ g s, w.sessions.get? g = some s → ¬ w.InFlight g →
    s.portReleasing = false

/-- The reply ends a release call without success: a refusal, or an
error at the last attempt. -/
def FailedEnd (t : ReleaseTask) : ReleaseReply → Prop
  | .success => False
  | .notFound => False
  | .nonSuccess => True
  | .serverError => releaseMaxRetries ≤ t.attempt + 1
  | .exception => releaseMaxRetries ≤ t.attempt + 1

/-- The game still has a session, of one of the kinds a sweep looks at:
finished with no player in it, or paused. -/
def Sweepable (w : PortWorld) (g : GameId) : Prop :=
  ∃ s, w.sessions.get? g = some s
    ∧ if s.gameIsOver then s.players.size = 0 else s.isPaused = true

theorem releaseReply_failed {w w' : PortWorld} {i : Nat} {t : ReleaseTask}
    {r : ReleaseReply} (ht : w.releases[i]? = some t) (hf : FailedEnd t r)
    (hstep : w.releaseReply i r = some w') :
    w' = w.releaseDone i t false := by
  unfold releaseReply at hstep
  rw [ht] at hstep
  dsimp only at hstep
  split at hstep
  case isFalse => cases hstep
  case isTrue =>
    cases r with
    | success => cases hf
    | notFound => cases hf
    | nonSuccess =>
      cases hstep
      rfl
    | serverError | exception =>
      have hlast : ¬ t.attempt + 1 < releaseMaxRetries :=
        Nat.not_lt.mpr hf
      simp only [hlast, if_false] at hstep
      cases hstep
      rfl

/-- The session a failed release leaves: none after a hard terminate,
else the one that was there with the flag down. -/
theorem failed_session (w : PortWorld) (i : Nat) (t : ReleaseTask) :
    (w.releaseDone i t false).sessions.get? t.gameId
      = if t.after = .terminate then none
        else (w.sessions.get? t.gameId).map
          GameSession.resetPortReleasingFlag := by
  have htwice : ∀ o : Option GameSession,
      (o.map GameSession.resetPortReleasingFlag).map
        GameSession.resetPortReleasingFlag
      = o.map GameSession.resetPortReleasingFlag := by
    intro o
    cases o <;> rfl
  unfold releaseDone
  split
  next hafter =>
    rw [hafter]
    show (w.sessions.modify _ _).get? _ = _
    rw [Dict.get?_modify]
    simp
  next hafter =>
    rw [hafter]
    show ((w.sessions.modify _ _).erase _).get? _ = _
    simp
  next rest cleaned hafter =>
    rw [hafter]
    have hmod : (((w.sessions.modify t.gameId
        GameSession.resetPortReleasingFlag).modify t.gameId
          GameSession.resetPortReleasingFlag).get? t.gameId)
        = (w.sessions.get? t.gameId).map
          GameSession.resetPortReleasingFlag := by
      rw [Dict.get?_modify, Dict.get?_modify]
      simp only [if_true]
      exact htwice _
    cases rest with
    | nil | cons c rest =>
      simp only [Bool.false_eq_true, if_false, reduceCtorEq]
      exact hmod

/-- What makes the sweep select a session whose flag is down, late
enough. -/
theorem sweepSession_late {timeoutSecs : Int} {s : GameSession} {now : Int}
    (hflag : s.portReleasing = false)
    (hlate : timeoutSecs ≤ now - s.pausedAt.getD s.createdAt) :
    (sweepSession now timeoutSecs false s).2 = true
      ↔ if s.gameIsOver then s.players.size = 0 else s.isPaused = true := by
  have hnot : ¬ now - s.pausedAt.getD s.createdAt < timeoutSecs := by omega
  unfold sweepSession
  cases ho : s.gameIsOver with
  | true =>
    by_cases hsize : s.players.size = 0
    · simp [hsize, hflag]
    · simp [hsize]
  | false =>
    cases hp : s.isPaused with
    | true => simp [hnot, hflag]
    | false => simp

theorem of_sweepSession {timeoutSecs now : Int} {active : Bool}
    {s : GameSession} (h : (sweepSession now timeoutSecs active s).2 = true) :
    if s.gameIsOver then s.players.size = 0 else s.isPaused = true := by
  unfold sweepSession at h
  cases ho : s.gameIsOver with
  | true =>
    simp only [ho, if_true] at h ⊢
    split at h
    next hc =>
      rw [Bool.and_eq_true] at hc
      exact of_decide_eq_true hc.1
    next => cases h
  | false =>
    simp only [ho, Bool.false_eq_true, if_false] at h ⊢
    cases hp : s.isPaused with
    | true => rfl
    | false =>
      rw [hp] at h
      cases h

/-- A game is retried exactly when its session is of a kind the sweep
looks at, the flag being down. -/
theorem retried_iff {w : PortWorld} {timeoutSecs : Int} {g : GameId}
    (hdown : ∀ s, w.sessions.get? g = some s → s.portReleasing = false) :
    w.Retried timeoutSecs g ↔ w.Sweepable g := by
  constructor
  · intro h
    obtain ⟨n₀, hn⟩ := h
    obtain ⟨p, hp⟩ := hn n₀ (Nat.le_refl n₀) [] (by simp)
    obtain ⟨s, hs, -, hsel⟩ := mem_sweepCandidates.mp hp
    exact ⟨s, hs, of_sweepSession hsel⟩
  · intro h
    obtain ⟨s, hs, hkind⟩ := h
    refine ⟨(timeoutSecs + s.pausedAt.getD s.createdAt - w.now).toNat, ?_⟩
    intro n hn active hactive
    refine ⟨s.civserverPort, mem_sweepCandidates.mpr ⟨s, hs, rfl, ?_⟩⟩
    have hfalse : decide (g ∈ active) = false := by simpa using hactive
    rw [hfalse]
    refine (sweepSession_late (hdown s hs) ?_).mpr hkind
    show timeoutSecs ≤ w.now + n - _
    omega

end PortWorld

-- ==== the main result

def joined : List PortAct :=
  [.allocateBegin "g", .handOut 6001, .allocateReply (.port 6001),
    .addPlayer "g" "alice" 0 1]

/-- A release call whose request the metaserver has refused. -/
def refused : ReleaseTask :=
  ⟨"g", 6001, 0, .received false, .detached⟩

theorem refused_failed : PortWorld.FailedEnd refused .nonSuccess := trivial

/-- The game ends, its player leaves, and the request for the release
is refused. -/
def overThenRefused : List PortAct :=
  joined ++ [.markGameOver "g", .disconnect "g" (some "alice") none,
    .releaseSend 0, .releaseReceive 0 false]

end Freeciv3d.Proxy
