/-
The tables of `InMemorySessionManager` are mutually inverse in every
state of every run: an agent's index entry names the one session that
is the agent's, and no session is missing from the index.

# Method

What a call can do to the tables is said once (`Moves`, `moves_call`):
it replaces a session in place, terminates one, adds one for an agent
whose old session it has terminated, or cleans up. The invariant is
then one case each, by the rules of `Inverse`. The repair of a stale
index entry is such a case too; the invariant shows it never runs.
-/
import Freeciv3d.Lib.Inverse
import Freeciv3d.Proxy.InMemorySessions

namespace Freeciv3d.Proxy

open Lib

-- ==== what a call does

namespace SessionTables

/-- The tables after `terminate_agent_session`. -/
def withoutAgent (t : SessionTables) (agentId : AgentId) : SessionTables :=
  match t.agentToSession.get? agentId with
  | some sessionId => t.terminateSession sessionId
  | none => t

/-- What a call that draws `drawn` can make of the tables. -/
inductive Moves (l : SessionLimits) (t : SessionTables)
    (drawn : List String) : SessionTables → Prop
  | same : Moves l t drawn t
  | put {sid : String} {s s' : SessionInfo}
      (hs : t.sessions.get? sid = some s) (ha : s'.agentId = s.agentId) :
      Moves l t drawn { t with sessions := t.sessions.set sid s' }
  | terminate (sid : String) : Moves l t drawn (t.terminateSession sid)
  | create {sid : String} {s : SessionInfo}
      (hroom : t.sessions.size < l.maxConcurrentSessions)
      (hdrawn : sid ∈ drawn) :
      Moves l t drawn
        ⟨(t.withoutAgent s.agentId).sessions.set sid s,
          (t.withoutAgent s.agentId).agentToSession.set s.agentId sid⟩
  | unindex {a : AgentId} {sid : String}
      (ha : t.agentToSession.get? a = some sid)
      (hs : t.sessions.get? sid = none) :
      Moves l t drawn
        { t with agentToSession := t.agentToSession.erase a }
  | cleanup (now : Int) : Moves l t drawn (t.cleanupExpiredSessions now)

theorem Moves.withoutAgent (l : SessionLimits) (t : SessionTables)
    (drawn : List String) (agentId : AgentId) :
    Moves l t drawn (t.withoutAgent agentId) := by
  unfold SessionTables.withoutAgent
  split
  · exact .terminate _
  · exact .same

end SessionTables

namespace InMemorySessionManager

open SessionTables (Moves)

variable {l : SessionLimits} {verifyToken : String → String → Bool}
  (m : InMemorySessionManager)

theorem toSessionTables_terminateAgentSession (agentId : AgentId) :
    (m.terminateAgentSession agentId).1.toSessionTables
      = m.toSessionTables.withoutAgent agentId := by
  unfold terminateAgentSession SessionTables.withoutAgent
  cases m.agentToSession.get? agentId <;> rfl

theorem moves_createSession (agentId : AgentId) (gameId : Option GameId)
    (sessionId : String) (hash : Option String) (now : Int) :
    Moves l m.toSessionTables [sessionId]
      (m.createSession l agentId gameId sessionId hash
        now).1.toSessionTables := by
  unfold createSession
  split
  case isTrue => exact .same
  case isFalse hroom =>
    have htables := m.toSessionTables_terminateAgentSession agentId
    cases hash with
    | none =>
      show Moves l m.toSessionTables [sessionId]
        (m.terminateAgentSession agentId).1.toSessionTables
      rw [htables]
      exact .withoutAgent l _ _ agentId
    | some hash =>
      have hcreate := Moves.create
        (s := SessionInfo.create l agentId gameId sessionId hash now)
        (Nat.lt_of_not_le hroom) (List.mem_singleton_self sessionId)
      show Moves l m.toSessionTables [sessionId]
        ⟨(m.terminateAgentSession agentId).1.toSessionTables.sessions.set
            sessionId _,
          (m.terminateAgentSession
            agentId).1.toSessionTables.agentToSession.set agentId
            sessionId⟩
      rw [htables]
      exact hcreate

theorem moves_validateSession (sessionId : String)
    (apiToken : Option String) (now : Int) :
    Moves l m.toSessionTables []
      (m.validateSession verifyToken sessionId apiToken
        now).1.toSessionTables := by
  unfold validateSession
  cases hs : m.sessions.get? sessionId with
  | none => exact .same
  | some s =>
    dsimp only
    split
    · exact .same
    · split
      · exact .put hs rfl
      · split
        · exact .same
        · exact .put hs rfl

theorem moves_tryResumeSessionForAgent (agentId : AgentId)
    (apiToken : String) (gameId : Option GameId) (now : Int) :
    Moves l m.toSessionTables []
      (m.tryResumeSessionForAgent l verifyToken agentId apiToken gameId
        now).1.toSessionTables := by
  unfold tryResumeSessionForAgent
  cases ha : m.agentToSession.get? agentId with
  | none => exact .same
  | some sid =>
    cases hs : m.sessions.get? sid with
    | none =>
      simp only [hs]
      exact .unindex ha hs
    | some s =>
      simp only [hs]
      split
      · exact .same
      · split
        · exact .same
        · split
          · exact .put hs rfl
          · split
            · exact .put hs rfl
            · exact .put hs rfl

theorem moves_call (now : Int) (c : SessionCall) :
    Moves l m.toSessionTables c.drawn
      ((inMemoryBackend l verifyToken).call m now c).1.toSessionTables := by
  cases c with
  | createSession agentId gameId sessionId hash =>
    exact m.moves_createSession agentId gameId sessionId hash now
  | validateSession sessionId apiToken =>
    exact m.moves_validateSession sessionId apiToken now
  | tryResumeSessionForAgent agentId apiToken gameId =>
    exact m.moves_tryResumeSessionForAgent agentId apiToken gameId now
  | terminateSession sessionId => exact .terminate sessionId
  | terminateAgentSession agentId =>
    show Moves l m.toSessionTables []
      (m.terminateAgentSession agentId).1.toSessionTables
    rw [toSessionTables_terminateAgentSession]
    exact .withoutAgent l _ _ agentId
  | getSessionByAgent agentId => exact .same
  | cleanupExpiredSessions =>
    show Moves l m.toSessionTables []
      (m.cleanupExpiredSessions l now).toSessionTables
    unfold cleanupExpiredSessions
    split
    · exact .same
    · exact .cleanup now
  | updateSessionActivity sessionId =>
    show Moves l m.toSessionTables []
      (m.updateSessionActivity sessionId now).1.toSessionTables
    unfold updateSessionActivity
    cases hs : m.sessions.get? sessionId with
    | none => exact .same
    | some s =>
      dsimp only
      split
      · exact .put hs rfl
      · exact .same
  | extendSession sessionId seconds =>
    show Moves l m.toSessionTables []
      (m.extendSession l sessionId seconds now).1.toSessionTables
    unfold extendSession
    cases hs : m.sessions.get? sessionId with
    | none => exact .same
    | some s =>
      dsimp only
      split
      · exact .put hs rfl
      · exact .same
  | suspendSession sessionId =>
    show Moves l m.toSessionTables []
      (m.suspendSession l sessionId now).1.toSessionTables
    unfold suspendSession
    cases hs : m.sessions.get? sessionId with
    | none => exact .same
    | some s =>
      dsimp only
      split
      · exact .put hs rfl
      · exact .same
  | resumeSession sessionId =>
    show Moves l m.toSessionTables []
      (m.resumeSession sessionId now).1.toSessionTables
    unfold resumeSession
    cases hs : m.sessions.get? sessionId with
    | none => exact .same
    | some s =>
      dsimp only
      split
      · split
        · exact .put hs rfl
        · exact .put hs rfl
      · exact .same

end InMemorySessionManager

-- ==== the invariant

namespace SessionTables

/-- The two maps are mutually inverse, and every session id was drawn. -/
structure Indexed (t : SessionTables) (issued : List String) : Prop where
  inverse : Inverse t.sessions t.agentToSession SessionInfo.agentId
  drawn : ∀ sid s, t.sessions.get? sid = some s → sid ∈ issued

theorem Indexed.terminateSession {t : SessionTables} {issued : List String}
    (h : t.Indexed issued) (sid : String) :
    (t.terminateSession sid).Indexed issued := by
  unfold SessionTables.terminateSession
  cases hs : t.sessions.get? sid with
  | none => exact h
  | some s =>
    refine ⟨h.inverse.remove hs, ?_⟩
    intro sid' s' hs'
    rw [Dict.get?_erase] at hs'
    split at hs'
    · cases hs'
    · exact h.drawn sid' s' hs'

theorem Indexed.withoutAgent {t : SessionTables} {issued : List String}
    (h : t.Indexed issued) (agentId : AgentId) :
    (t.withoutAgent agentId).Indexed issued ∧
      (t.withoutAgent agentId).agentToSession.get? agentId = none := by
  unfold SessionTables.withoutAgent
  cases ha : t.agentToSession.get? agentId with
  | none => exact ⟨h, ha⟩
  | some sid =>
    refine ⟨h.terminateSession sid, ?_⟩
    obtain ⟨s, hs, hagent⟩ := h.inverse.get?_of_index ha
    show (t.terminateSession sid).agentToSession.get? agentId = none
    unfold SessionTables.terminateSession
    rw [hs, ← hagent]
    simp

/-- Every move keeps the invariant. -/
theorem Moves.indexed {l : SessionLimits} {t t' : SessionTables}
    {drawn issued : List String} (hm : Moves l t drawn t')
    (hnew : ∀ sid ∈ drawn, sid ∉ issued) (h : t.Indexed issued) :
    t'.Indexed (drawn ++ issued) := by
  have hold : t.Indexed (drawn ++ issued) :=
    ⟨h.inverse, fun sid s hs =>
      List.mem_append_right drawn (h.drawn sid s hs)⟩
  cases hm with
  | same => exact hold
  | terminate sid => exact hold.terminateSession sid
  | put hs ha =>
    refine ⟨hold.inverse.update hs ha, ?_⟩
    intro sid s' hs'
    rw [Dict.get?_set] at hs'
    split at hs'
    next heq => exact heq ▸ hold.drawn _ _ hs
    next => exact hold.drawn sid s' hs'
  | @create sid s hroom hdrawn =>
    obtain ⟨hw, hnone⟩ := h.withoutAgent s.agentId
    have hfree : (t.withoutAgent s.agentId).sessions.get? sid = none := by
      cases hs : (t.withoutAgent s.agentId).sessions.get? sid with
      | none => rfl
      | some u => exact absurd (hw.drawn sid u hs) (hnew sid hdrawn)
    refine ⟨hw.inverse.insert hfree hnone, ?_⟩
    intro sid' u hu
    rw [Dict.get?_set] at hu
    split at hu
    next heq => exact List.mem_append_left issued (heq ▸ hdrawn)
    next => exact List.mem_append_right drawn (hw.drawn sid' u hu)
  | unindex ha hs =>
    obtain ⟨s, hs', -⟩ := h.inverse.get?_of_index ha
    rw [hs] at hs'
    cases hs'
  | cleanup now =>
    refine ⟨?_, ?_⟩
    · have hfilter := hold.inverse.removeAll fun s => isGone s now
      simpa [SessionTables.cleanupExpiredSessions, beq_eq_decide]
        using hfilter
    · intro sid s hs
      unfold SessionTables.cleanupExpiredSessions at hs
      rw [Dict.get?_filter, Option.filter_eq_some_iff] at hs
      exact hold.drawn sid s hs.1

end SessionTables

-- ==== the main result

namespace InMemorySessionManager

variable {l : SessionLimits} {verifyToken : String → String → Bool}
  {s : BackendRun InMemorySessionManager}

theorem reach_indexed (h : (inMemoryBackend l verifyToken).runs.Reach s) :
    s.backend.toSessionTables.Indexed s.issued := by
  refine h.invariant (I := fun s =>
    s.backend.toSessionTables.Indexed s.issued) ?_ ?_
  · rintro s ⟨hb, hi⟩
    rw [hb, hi]
    exact ⟨Inverse.empty, fun sid s hs => by cases hs⟩
  · intro s a s' hs hstep
    cases a with
    | tick n =>
      cases hstep
      exact hs
    | call c =>
      simp only [SessionManagerBackend.runs] at hstep
      split at hstep
      case isTrue => cases hstep
      case isFalse hnew =>
        cases hstep
        refine (s.backend.moves_call s.now c).indexed ?_ hs
        intro sid hsid hissued
        exact hnew (List.any_eq_true.mpr
          ⟨sid, hsid, List.contains_iff_mem.mpr hissued⟩)

/-- In every state of every run the maps are mutually inverse: an agent
has one session at most, and every session is its agent's. -/
theorem sessions_agents_bijective
    (h : (inMemoryBackend l verifyToken).runs.Reach s) :
    (∀ agentId sessionId,
      s.backend.agentToSession.get? agentId = some sessionId ↔
        ∃ info, s.backend.sessions.get? sessionId = some info
          ∧ info.agentId = agentId)
    ∧ (∀ sid sid' info info', s.backend.sessions.get? sid = some info →
        s.backend.sessions.get? sid' = some info' →
        info'.agentId = info.agentId → sid' = sid) :=
  have hi := (reach_indexed h).inverse
  ⟨hi, fun _ _ _ _ hs hs' ho => hi.key_unique hs hs' ho⟩

def reconnection : List BackendAct :=
  [.call (.createSession "alice" none "sess_1" (some "secret")),
    .call (.suspendSession "sess_1"), .tick 60,
    .call (.tryResumeSessionForAgent "alice" "secret" none)]

theorem sessions_agents_bijective_reconnection :
    let backend := inMemoryBackend .default fun token hash => token == hash
    ∃ s, backend.runs.exec ⟨backend.start 0, 0, []⟩ reconnection = some s
      ∧ s.backend.agentToSession.get? "alice" = some "sess_1"
      ∧ ∃ info, s.backend.sessions.get? "sess_1" = some info
          ∧ info.agentId = "alice" := by
  intro backend
  have hinit : backend.runs.Reach ⟨backend.start 0, 0, []⟩ :=
    .init ⟨rfl, rfl⟩
  have hrun : backend.runs.exec ⟨backend.start 0, 0, []⟩ reconnection
      = some _ := rfl
  have hindex := (sessions_agents_bijective (hinit.exec hrun)).1
  exact ⟨_, hrun, rfl, (hindex "alice" "sess_1").mp rfl⟩

end InMemorySessionManager

end Freeciv3d.Proxy
