/-
A late close: `on_close` of a handler whose agent has already
reconnected through another handler.

# What it can still tell

The old handler has the agent id, the session id, the game and the
`CivCom` of its successor, and `on_close` looks everything up by these.
`_pause_and_suspend_partner` compares handlers before it closes one and
the registry is only cleared if it holds the handler's own `CivCom`;
the agent table, the session and the `CivCom`'s handler are not
compared with anything.

# What this closes

A resuming reconnection ends in `Reconnected`
(`resumeConnect_reconnected`). From there `late_close_effect` computes
what a late close leaves of the new connection, for every branch;
`late_close_not_intact` concludes that it is never left intact.
-/
import Freeciv3d.Proxy.LlmHandler

namespace Freeciv3d.Proxy

open Lib

variable {σ : Type}

def SessionTables.Open (t : SessionTables) (sessionId : String) : Prop :=
  ∃ s, t.sessions.get? sessionId = some s
    ∧ (s.state = .active ∨ s.state = .suspended)

theorem SessionTables.Open.suspendSession {t : SessionTables}
    {sessionId : String} (h : t.Open sessionId) (other : String)
    (now : Int) : (t.suspendSession other now).1.Open sessionId := by
  obtain ⟨s, hs, hstate⟩ := h
  unfold SessionTables.suspendSession
  cases ho : t.sessions.get? other with
  | none => exact ⟨s, hs, hstate⟩
  | some s' =>
    dsimp only
    split
    · by_cases heq : sessionId = other
      · subst heq
        exact ⟨_, Dict.get?_set_self .., Or.inr rfl⟩
      · refine ⟨s, ?_, hstate⟩
        show (t.sessions.set other _).get? sessionId = some s
        rw [Dict.get?_set_of_ne _ _ heq]
        exact hs
    · exact ⟨s, hs, hstate⟩

theorem SessionTables.Open.suspended {t : SessionTables}
    {sessionId : String} (h : t.Open sessionId) (now : Int) :
    (t.suspendSession sessionId now).2 = true
      ∧ ∃ s, (t.suspendSession sessionId now).1.sessions.get? sessionId
          = some s ∧ s.state = .suspended := by
  obtain ⟨s, hs, hstate⟩ := h
  unfold SessionTables.suspendSession
  rw [hs]
  dsimp only
  rw [if_pos hstate]
  exact ⟨rfl, _, Dict.get?_set_self .., rfl⟩

/-- A session that is resumed is the agent's, and active in the
tables. -/
theorem SessionTables.resumed {t t' : SessionTables} {agentId : AgentId}
    {gameId : Option GameId} {tokenMatches : String → Bool} {now : Int}
    {s : SessionInfo}
    (h : t.tryResumeSessionForAgent agentId gameId tokenMatches now
      = (t', some s)) :
    ∃ sessionId, t.agentToSession.get? agentId = some sessionId
      ∧ t'.sessions.get? sessionId = some s ∧ s.state = .active := by
  unfold SessionTables.tryResumeSessionForAgent at h
  cases hid : t.agentToSession.get? agentId with
  | none =>
    rw [hid] at h
    cases h
  | some sessionId =>
    rw [hid] at h
    dsimp only at h
    refine ⟨sessionId, rfl, ?_⟩
    cases hs : t.sessions.get? sessionId with
    | none =>
      rw [hs] at h
      cases h
    | some s₀ =>
      rw [hs] at h
      dsimp only at h
      split at h
      · cases h
      · split at h
        · cases h
        · split at h
          · cases h
          · split at h
            · cases h
            · cases h
              exact ⟨Dict.get?_set_self .., rfl⟩

namespace ProxyWorld

-- ==== closing the partners

/-- What suspending partners leaves alone: everything but the sessions,
which stay open if they were, and the `closing` flags. -/
structure PartnersFrame (w w' : ProxyWorld σ) : Prop where
  civcoms : w'.civcoms = w.civcoms
  registry : w'.registry = w.registry
  llmAgents : w'.llmAgents = w.llmAgents
  games : w'.games = w.games
  handlers : ∀ h, { w'.handlers h with closing := false }
    = { w.handlers h with closing := false }
  sessions : ∀ sessionId, w.sessions.Open sessionId →
    w'.sessions.Open sessionId

theorem PartnersFrame.refl (w : ProxyWorld σ) : PartnersFrame w w :=
  ⟨rfl, rfl, rfl, rfl, fun _ => rfl, fun _ h => h⟩

theorem PartnersFrame.trans {w w' w'' : ProxyWorld σ}
    (h : PartnersFrame w w') (h' : PartnersFrame w' w'') :
    PartnersFrame w w'' where
  civcoms := h'.civcoms.trans h.civcoms
  registry := h'.registry.trans h.registry
  llmAgents := h'.llmAgents.trans h.llmAgents
  games := h'.games.trans h.games
  handlers := fun i => (h'.handlers i).trans (h.handlers i)
  sessions := fun i hi => h'.sessions i (h.sessions i hi)

theorem partnersFrame_closing (w : ProxyWorld σ) (h : HandlerId) :
    PartnersFrame w
      (w.modifyHandler h fun p => { p with closing := true }) := by
  refine ⟨rfl, rfl, rfl, rfl, ?_, fun _ hi => hi⟩
  intro i
  show { Function.update w.handlers h _ i with closing := false } = _
  by_cases hi : i = h
  · subst hi
    rw [Function.update_self]
  · rw [Function.update_of_ne hi]

theorem suspendPartner_frame (now : Int) (w : ProxyWorld σ)
    (info : SessionPlayer) : PartnersFrame w (suspendPartner now w info) := by
  unfold suspendPartner
  dsimp only
  rcases truthy (w.handlers info.handler).sessionId with _ | sessionId
  · dsimp only
    split
    · split
      · exact PartnersFrame.refl w
      · exact partnersFrame_closing _ _
    · exact partnersFrame_closing _ _
  · have hsession : PartnersFrame w
        { w with sessions := (w.sessions.suspendSession sessionId now).1 } :=
      ⟨rfl, rfl, rfl, rfl, fun _ => rfl, fun _ hi => hi.suspendSession _ now⟩
    split
    · split
      · exact hsession
      · exact hsession.trans (partnersFrame_closing _ _)
    · exact hsession.trans (partnersFrame_closing _ _)

theorem suspendPartners_frame (w : ProxyWorld σ) (h : HandlerId)
    (now : Int) : PartnersFrame w (w.suspendPartners h now) := by
  have hfold : ∀ (l : List SessionPlayer) (w : ProxyWorld σ),
      PartnersFrame w (l.foldl (suspendPartner now) w) := by
    intro l
    induction l with
    | nil => exact PartnersFrame.refl
    | cons info rest ih =>
      intro w
      exact (suspendPartner_frame now w info).trans (ih _)
  unfold suspendPartners
  split
  · exact PartnersFrame.refl w
  · exact hfold _ w

-- ==== the pause

/-- What `on_close` makes of the game's session before it suspends its
own: `c` is the live `CivCom` of the closing handler. -/
def pausedSession (w : ProxyWorld σ) (c : CivComId) (s : GameSession)
    (closeCode : Option Int) (sent : Bool) (now : Int) : GameSession :=
  if s.gameIsOver || (w.civcoms c).gameIsOver then s.markGameOver now
  else if closeCode = some 4001 then s
  else if s.gameStarted then
    (s.pauseGame (w.civcoms c).gameTimeout sent now).1
  else s

/-- The pause of a closing handler with a live `CivCom`: the game's
session as said, and otherwise only partners are suspended. -/
theorem closePause_frame (w : ProxyWorld σ) (h : HandlerId)
    {g : GameId} {c : CivComId} {s : GameSession} (closeCode : Option Int)
    (sent : Bool) (now : Int) (hg : truthy (w.handlers h).gameId = some g)
    (hc : w.liveCivcom h = some c) (hs : w.games.get? g = some s) :
    ∃ games : Dict GameId GameSession,
      games.get? g = some (w.pausedSession c s closeCode sent now)
        ∧ PartnersFrame { w with games := games }
          (w.closePause h closeCode sent now) := by
  have hgame : (w.handlers h).gameId = some g :=
    Option.eq_some_of_filter_eq_some hg
  have hciv : (w.handlers h).civcom = some c :=
    Option.eq_some_of_filter_eq_some hc
  have hmodify : ∀ f : GameSession → GameSession,
      (w.games.modify g f).get? g = some (f s) := by
    intro f
    rw [Dict.get?_modify, if_pos rfl, hs]
    rfl
  unfold closePause pausedSession
  rw [hg]
  simp only [hs, hciv, hc, Option.any_some]
  by_cases hover : (s.gameIsOver || (w.civcoms c).gameIsOver) = true
  · rw [if_pos hover, if_pos hover]
    exact ⟨_, hmodify _, PartnersFrame.refl _⟩
  · rw [if_neg hover, if_neg hover]
    by_cases hcode : closeCode = some 4001
    · rw [if_pos hcode, if_pos hcode]
      exact ⟨_, hs, PartnersFrame.refl _⟩
    · rw [if_neg hcode, if_neg hcode]
      by_cases hstart : s.gameStarted = true
      · rw [if_pos hstart]
        have hpause : PartnersFrame (w.pauseGame g c sent now)
            ((w.pauseGame g c sent now).suspendPartners h now) :=
          suspendPartners_frame _ h now
        refine ⟨_, hmodify fun s =>
          (s.pauseGame (w.civcoms c).gameTimeout sent now).1, ?_⟩
        split
        · exact hpause
        · -- already paused: the other way to the same calls
          unfold pauseAndSuspendPartner
          simp only [hgame, hs, hstart, if_true]
          exact hpause
      · rw [if_neg hstart]
        have hnot : (s.gameStarted && !s.isPaused) = false := by
          simp [hstart]
        rw [hnot, if_neg Bool.false_ne_true]
        unfold pauseAndSuspendPartner
        simp only [hgame, hs, hstart]
        exact ⟨_, hs, PartnersFrame.refl _⟩

-- ==== a reconnected agent

/-- The connection of an agent that has reconnected: the new handler is
registered, the session both handlers name is active, the `CivCom` both
hold is live, registered and attached to the new handler, and the
player entry is the new handler's. -/
structure Reconnected (w : ProxyWorld σ) (old new : HandlerId)
    (agentId : AgentId) (gameId : GameId) (sessionId : String)
    (c : CivComId) : Prop where
  distinct : new ≠ old
  agent : truthy (w.handlers old).agentId = some agentId
  game : truthy (w.handlers old).gameId = some gameId
  session : truthy (w.handlers old).sessionId = some sessionId
  civcom : (w.handlers old).civcom = some c
  registered : w.llmAgents.get? agentId = some new
  active : ∃ s, w.sessions.sessions.get? sessionId = some s
    ∧ s.state = .active
  attached : (w.civcoms c).civwebserver = some new
  live : (w.civcoms c).stopped = false
  kept : w.registry.getCivcom gameId agentId = some c
  player : ∃ s info, w.games.get? gameId = some s
    ∧ s.players.get? agentId = some info ∧ info.handler = new

/-- The new connection as the reconnection left it. `paused` is whether
the game was paused then. -/
structure Intact (w : ProxyWorld σ) (new : HandlerId) (agentId : AgentId)
    (gameId : GameId) (sessionId : String) (c : CivComId) (paused : Bool) :
    Prop where
  registered : w.llmAgents.get? agentId = some new
  active : ∃ s, w.sessions.sessions.get? sessionId = some s
    ∧ s.state = .active
  attached : (w.civcoms c).civwebserver = some new
  live : (w.civcoms c).stopped = false
  kept : w.registry.getCivcom gameId agentId = some c
  player : ∃ s, w.games.get? gameId = some s
    ∧ (s.players.get? agentId).isSome ∧ (s.isPaused → paused)

/-- What a late close leaves of the new connection: the agent is gone
from the table, its session is suspended and the `CivCom` has no
handler; the `CivCom` is live and registered, the player entry is
there, and the game's session went through the pause. -/
structure LateCloseEffect (w w' : ProxyWorld σ) (agentId : AgentId)
    (gameId : GameId) (sessionId : String) (c : CivComId)
    (closeCode : Option Int) (sent : Bool) (now : Int) : Prop where
  unregistered : w'.llmAgents = w.llmAgents.erase agentId
  suspended : ∃ s, w'.sessions.sessions.get? sessionId = some s
    ∧ s.state = .suspended
  detached : w'.civcoms c = { w.civcoms c with civwebserver := none }
  kept : w'.registry = w.registry
  game : ∀ s, w.games.get? gameId = some s → w'.games.get? gameId
    = some (w.pausedSession c s closeCode sent now)

theorem closeTables_fields (w : ProxyWorld σ) (h : HandlerId) :
    (w.closeTables h).sessions = w.sessions
      ∧ (w.closeTables h).civcoms = w.civcoms
      ∧ (w.closeTables h).registry = w.registry
      ∧ (w.closeTables h).games = w.games
      ∧ (w.closeTables h).llmAgents
        = match truthy (w.handlers h).agentId with
          | some agentId => w.llmAgents.erase agentId
          | none => w.llmAgents := by
  have hmod : (w.modifyHandler h fun p => { p with civcom := none }).handlers h
      = { w.handlers h with civcom := none } := by
    show Function.update w.handlers h _ h = _
    rw [Function.update_self]
  unfold closeTables
  dsimp only
  rw [hmod]
  cases truthy (w.handlers h).agentId with
  | none | some agentId =>
    rw [hmod]
    cases (w.handlers h).playerId with
    | none | some playerId => exact ⟨rfl, rfl, rfl, rfl, rfl⟩

/-- A late close, computed: its session suspension succeeds, because
the session is the active one of the successor, so it always takes the
branch that keeps the `CivCom`. -/
theorem late_close_effect {w : ProxyWorld σ} {old new : HandlerId}
    {agentId : AgentId} {gameId : GameId} {sessionId : String}
    {c : CivComId} (hR : w.Reconnected old new agentId gameId sessionId c)
    (closeCode : Option Int) (sent : Bool) (now : Int) :
    LateCloseEffect w (w.onClose old closeCode sent now) agentId gameId
      sessionId c closeCode sent now := by
  obtain ⟨s, -, hs, -, -⟩ := hR.player
  have hlive : w.liveCivcom old = some c := by
    simp [liveCivcom, hR.civcom, hR.live]
  obtain ⟨games, hgames, hF⟩ :=
    closePause_frame w old closeCode sent now hR.game hlive hs
  unfold onClose
  generalize w.closePause old closeCode sent now = w1 at hF
  have hold : { w1.handlers old with closing := false }
      = { w.handlers old with closing := false } := hF.handlers old
  have hagent : (w1.handlers old).agentId = (w.handlers old).agentId :=
    (congrArg LlmHandler.agentId hold :)
  have hsid : (w1.handlers old).sessionId = (w.handlers old).sessionId :=
    (congrArg LlmHandler.sessionId hold :)
  have hciv : (w1.handlers old).civcom = (w.handlers old).civcom :=
    (congrArg LlmHandler.civcom hold :)
  obtain ⟨s0, hs0, hactive⟩ := hR.active
  obtain ⟨hyes, s1, hs1, hsusp⟩ := SessionTables.Open.suspended
    (hF.sessions sessionId ⟨s0, hs0, Or.inl hactive⟩) now
  have hlive1 : ∀ t, liveCivcom { w1 with sessions := t } old = some c := by
    intro t
    simp [liveCivcom, hciv, hR.civcom, hF.civcoms, hR.live]
  unfold closeSession
  dsimp only
  rw [hsid, hR.session]
  rw [hyes, hlive1]
  obtain ⟨hses, hcc, hreg, hgm, hag⟩ := closeTables_fields
    { w1 with
      sessions := (w1.sessions.suspendSession sessionId now).1
      civcoms := w1.civcoms.modify c fun c =>
        { c with civwebserver := none } } old
  refine ⟨?_, ?_, ?_, ?_, ?_⟩
  · rw [hag]
    rw [hagent, hR.agent, hF.llmAgents]
  · rw [hses]
    exact ⟨s1, hs1, hsusp⟩
  · rw [hcc]
    dsimp only
    rw [Heap.modify_self, hF.civcoms]
  · rw [hreg]
    exact hF.registry
  · intro s' hs'
    rw [hs] at hs'
    cases hs'
    rw [hgm]
    rw [hF.games]
    exact hgames

/-- No late close leaves the new connection intact. -/
theorem late_close_not_intact {w : ProxyWorld σ} {old new : HandlerId}
    {agentId : AgentId} {gameId : GameId} {sessionId : String}
    {c : CivComId} (hR : w.Reconnected old new agentId gameId sessionId c)
    (closeCode : Option Int) (sent : Bool) (now : Int) (paused : Bool) :
    ¬ (w.onClose old closeCode sent now).Intact new agentId gameId
      sessionId c paused := by
  intro hI
  have hE := late_close_effect hR closeCode sent now
  have hreg := hI.registered
  rw [hE.unregistered, Dict.get?_erase_self] at hreg
  cases hreg

namespace Coordinated

/-- A live `CivCom` of a player. -/
def civcom (playerId : Int) (handler : HandlerId) : CivCom :=
  { CivCom.init handler with
    playerId := some playerId, alive := true, socket := true
    gameTimeout := some 30 }

def sessionInfo (sessionId : String) (agentId : AgentId)
    (playerId : Int) : SessionInfo where
  sessionId := sessionId
  agentId := agentId
  apiTokenHash := "hash"
  createdAt := 0
  lastActivity := 0
  expiresAt := 3600
  playerId := some playerId
  civserverPort := some 6001
  gameId := some "g1"
  connectionCount := 0
  state := .active
  resumeAttempts := 0
  lastResumeAttempt := 0

def handler (agentId : AgentId) (playerId : Int) (sessionId : String)
    (c : CivComId) : LlmHandler :=
  { agentId := some agentId, gameId := some "g1"
    playerId := some playerId, sessionId := some sessionId
    sessionPort := some (some 6001), civcom := some c, closing := false }

/-- Alice (handler 0) and bob (handler 2) play g1; handler 1 is a new
WebSocket. -/
def connected : ProxyWorld Unit where
  handlers := fun h =>
    if h = 0 then handler "alice" 0 "sess_a" 0
    else if h = 2 then handler "bob" 1 "sess_b" 1
    else LlmHandler.init
  civcoms := fun c => if c = 0 then civcom 0 0 else civcom 1 2
  registry :=
    { instances := Dict.ofList [(("g1", "alice"), 0), (("g1", "bob"), 1)]
      metadata := ∅ }
  llmAgents := Dict.ofList [("alice", 0), ("bob", 2)]
  sessions :=
    { sessions := Dict.ofList [("sess_a", sessionInfo "sess_a" "alice" 0),
        ("sess_b", sessionInfo "sess_b" "bob" 1)]
      agentToSession := Dict.ofList [("alice", "sess_a"), ("bob", "sess_b")] }
  games := Dict.ofList [("g1",
    { GameSession.init "g1" 6001 2 0 with
      phase := .running, gameStarted := true
      players := Dict.ofList [("alice", ⟨"alice", 0, 0, true, true⟩),
        ("bob", ⟨"bob", 1, 2, true, true⟩)] })]
  stateCache := StateCache.init
  releases := []

/-- Bob's connection is lost: alice's session is suspended with his and
her connection closed. She reconnects through handler 1. -/
def reconnected : Option (ProxyWorld Unit) :=
  (connected.onClose 2 none true 10).resumeConnect 1 "alice" "g1"
    (fun _ => true) true 12

end Coordinated

/-- The theorem at alice's reconnection, before handler 0 has closed. -/
theorem late_close_not_intact_coordinated :
    ∃ w, Coordinated.reconnected = some w
      ∧ w.Reconnected 0 1 "alice" "g1" "sess_a" 0
      ∧ ¬ (w.onClose 0 (some 4001) true 15).Intact 1 "alice" "g1"
        "sess_a" 0 true := by
  have hR : ∀ w, Coordinated.reconnected = some w →
      w.Reconnected 0 1 "alice" "g1" "sess_a" 0 := by
    intro w hw
    cases hw
    exact ⟨by decide, rfl, rfl, rfl, rfl, rfl, ⟨_, rfl, rfl⟩, rfl, rfl, rfl,
      ⟨_, _, rfl, rfl, rfl⟩⟩
  obtain ⟨w, hw⟩ : ∃ w, Coordinated.reconnected = some w := ⟨_, rfl⟩
  exact ⟨w, hw, hR w hw, late_close_not_intact (hR w hw) _ _ _ _⟩

/-- What alice is left with: her handler 1 is no longer known, her
session is suspended, and her `CivCom` has no handler. -/
theorem late_close_forgets_alice :
    ∃ w, Coordinated.reconnected = some w
      ∧ w.llmAgents.get? "alice" = some 1
      ∧ (w.onClose 0 (some 4001) true 15).llmAgents.get? "alice" = none
      ∧ ((w.onClose 0 (some 4001) true 15).sessions.sessions.get?
          "sess_a").map SessionInfo.state = some .suspended
      ∧ ((w.onClose 0 (some 4001) true 15).civcoms 0).civwebserver = none
      ∧ ¬ (w.onClose 0 (some 4001) true 15).Intact 1 "alice" "g1"
        "sess_a" 0 true := by
  refine ⟨_, rfl, rfl, rfl, rfl, rfl, ?_⟩
  intro h
  exact absurd h.registered (by decide)

end ProxyWorld

end Freeciv3d.Proxy
