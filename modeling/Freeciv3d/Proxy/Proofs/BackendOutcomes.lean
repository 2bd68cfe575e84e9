/-
The outcomes of the two backends agree, call by call, in every run whose
calls are all synchronous: the calls that go by agent, the clean-up, and
the runs.

# An agent's session

In memory the index has it. In the table it is the one live row of the
agent: a live row has its session, the index has the session, and no
agent has two (`live_row`).
-/
import Freeciv3d.Proxy.Proofs.BackendDrift

namespace Freeciv3d.Proxy

open Lib
open MySQLSessionManager (hasId hasAgent hasGame setState Keyed)

variable {l : SessionLimits} {collate : String → String}
  {verifyToken : String → String → Bool} {now : Int}
  {m : InMemorySessionManager} {t : MySQLSessionManager}
  {s r : SessionInfo}

theorem InMemorySessionManager.get?_terminateSession (sid sid' : String) :
    (m.terminateSession sid).1.sessions.get? sid'
      = if sid' = sid then none else m.sessions.get? sid' := by
  show (m.toSessionTables.terminateSession sid).sessions.get? sid' = _
  unfold SessionTables.terminateSession
  cases hs : m.sessions.get? sid with
  | none =>
    dsimp only
    split
    next h => rw [h, hs]
    next => rfl
  | some s =>
    rw [Dict.get?_erase]

theorem not_isLive_stamped_terminated :
    (MySQLSessionManager.stamped now (setState .terminated) r).isLive
      = false := by
  unfold MySQLSessionManager.stamped
  split
  next h => rw [← h]; rfl
  next => rfl

theorem MySQLSessionManager.Keyed.distinct (hk : t.Keyed collate)
    (hr : r ∈ t.rows) : Distinct collate t.sessionIds r.sessionId := by
  intro u hu hc
  obtain ⟨r', hr', rfl⟩ := List.mem_map.mp hu
  rw [Sql.eq_of_key_eq hk hr' hr hc]

theorem MySQLSessionManager.sessionIds_update {p : SessionInfo → Bool}
    {f : SessionInfo → SessionInfo}
    (hf : ∀ s, (f s).sessionId = s.sessionId) :
    (t.update p f now).sessionIds = t.sessionIds :=
  Sql.map_key_update t.rows p (MySQLSessionManager.stamped_sessionId now hf)

theorem hasGame_eq {gameId : Option GameId}
    (hd : ∀ g ∈ gameId, Distinct collate t.gameIds g) (hr : r ∈ t.rows) :
    hasGame collate gameId r = r.matchesGame gameId := by
  unfold hasGame SessionInfo.matchesGame
  cases gameId with
  | none => rfl
  | some g =>
    by_cases hg : g = ""
    · subst hg
      rfl
    · have hfilter : (some g).filter (· ≠ "") = some g := by simp [hg]
      rw [hfilter]
      cases hgame : r.gameId with
      | none => simp [hg]
      | some g' =>
        have hmem : g' ∈ t.gameIds :=
          List.mem_filterMap.mpr ⟨r, hr, hgame⟩
        have hiff : collate g' = collate g ↔ g' = g :=
          ⟨hd g rfl g' hmem, fun h => by rw [h]⟩
        by_cases heq : g' = g <;> simp [hg, hiff, heq, beq_eq_decide]

namespace Mirrored

theorem congr (h : Mirrored now m t) {m' : InMemorySessionManager}
    (hm : ∀ sid, m'.sessions.get? sid = m.sessions.get? sid) :
    Mirrored now m' t := by
  refine ⟨fun sid s hs => h.stored sid s (hm sid ▸ hs), ?_⟩
  intro r hr hlive
  rw [hm]
  exact h.live r hr hlive

-- ==== the calls that end one

theorem drop (h : Mirrored now m t) {sid : String}
    {p : SessionInfo → Bool}
    (hp : ∀ r ∈ t.rows, p r = true → r.sessionId = sid)
    (hlive : ∀ r ∈ t.rows, r.sessionId = sid → r.isLive = true →
      p r = true) :
    Mirrored now (m.terminateSession sid).1
      (t.update p (setState .terminated) now) := by
  refine ⟨?_, ?_⟩
  · intro sid' s hs
    rw [InMemorySessionManager.get?_terminateSession] at hs
    split at hs
    case isTrue => cases hs
    case isFalse hne =>
      obtain ⟨r, hr, hid, hsame⟩ := h.stored sid' s hs
      refine ⟨r, Sql.mem_update_iff.mpr ⟨r, hr, ?_⟩, hid, hsame⟩
      rw [if_neg fun hpr => hne (hid.symm.trans (hp r hr hpr))]
  · intro r' hr' hr'live
    obtain ⟨r, hr, rfl⟩ := Sql.mem_update_iff.mp hr'
    split at hr'live
    case isTrue =>
      rw [not_isLive_stamped_terminated] at hr'live
      cases hr'live
    case isFalse hpr =>
      rw [if_neg hpr, InMemorySessionManager.get?_terminateSession,
        if_neg fun hid => hpr (hlive r hr hid hr'live)]
      exact h.live r hr hr'live

theorem terminateSession (h : Mirrored now m t) {sid : String}
    (hd : Distinct collate t.sessionIds sid)
    (hthere : sid ∈ t.sessionIds → m.sessions.contains sid = true) :
    Mirrored now (m.terminateSession sid).1
        (t.terminateSession collate sid now).1
      ∧ (m.terminateSession sid).2
        = (t.terminateSession collate sid now).2 := by
  unfold MySQLSessionManager.terminateSession
  cases hf : t.rows.find? (hasId collate sid) with
  | none =>
    have hno : ∀ r ∈ t.rows, r.sessionId ≠ sid := fun r hr hid =>
      List.find?_eq_none.mp hf r hr ((hasId_iff hd hr).mpr hid)
    have hdrop : Mirrored now (m.terminateSession sid).1
        (t.update (fun _ => false) (setState .terminated) now) :=
      h.drop (fun _ _ hp => by cases hp)
        fun r hr hid _ => absurd hid (hno r hr)
    rw [MySQLSessionManager.update_eq_self _ (fun _ _ => rfl)] at hdrop
    refine ⟨hdrop, ?_⟩
    show m.sessions.contains sid = false
    cases hs : m.sessions.contains sid with
    | false => rfl
    | true =>
      obtain ⟨s, hs⟩ := Dict.contains_iff.mp hs
      obtain ⟨r, hr, hid, -⟩ := h.stored sid s hs
      exact absurd hid (hno r hr)
  | some r =>
    have hr := List.mem_of_find?_eq_some hf
    have hid := (hasId_iff hd hr).mp (List.find?_some hf)
    refine ⟨h.drop (fun u hu hpu => (hasId_iff hd hu).mp hpu)
      (fun u hu huid _ => (hasId_iff hd hu).mpr huid), ?_⟩
    exact hthere (List.mem_map.mpr ⟨r, hr, hid⟩)

theorem not_live_of_unindexed (h : Mirrored now m t)
    (hk : t.Keyed collate) {issued : List String}
    (hi : m.toSessionTables.Indexed issued) {a : AgentId}
    (ha : m.agentToSession.get? a = none) (hr : r ∈ t.rows)
    (hagent : r.agentId = a) : r.isLive = false := by
  rw [← Bool.not_eq_true]
  intro hlive
  obtain ⟨s, hindex, -, -⟩ := live_row h hk hi hr hlive
  rw [hagent, ha] at hindex
  cases hindex

theorem agent_row (h : Mirrored now m t) {issued : List String}
    (hi : m.toSessionTables.Indexed issued) {a : AgentId} {sid : String}
    (ha : m.agentToSession.get? a = some sid) :
    ∃ s, m.sessions.get? sid = some s ∧ ∃ r ∈ t.rows,
      r.sessionId = sid ∧ r.agentId = a ∧ SameSession now s r := by
  obtain ⟨s, hs, hagent⟩ := hi.inverse.get?_of_index ha
  obtain ⟨r, hr, hid, hsame⟩ := h.stored sid s hs
  exact ⟨s, hs, r, hr, hid, hsame.agent.trans hagent, hsame⟩

theorem live_row_unique (h : Mirrored now m t) (hk : t.Keyed collate)
    {issued : List String} (hi : m.toSessionTables.Indexed issued)
    {u : SessionInfo} (hr : r ∈ t.rows)
    (ha : m.agentToSession.get? r.agentId = some r.sessionId)
    (hu : u ∈ t.rows) (hagent : u.agentId = r.agentId)
    (hlive : u.isLive = true) : u = r := by
  obtain ⟨s, hindex, -, -⟩ := live_row h hk hi hu hlive
  rw [hagent, ha] at hindex
  exact row_unique hk hr hu (Option.some.inj hindex).symm

theorem withoutAgent (h : Mirrored now m t) (hk : t.Keyed collate)
    {issued : List String} (hi : m.toSessionTables.Indexed issued)
    {a : AgentId} (hd : Distinct collate t.agentIds a) :
    Mirrored now (m.terminateAgentSession a).1
      (t.update (fun r => hasAgent collate a r && r.isLive)
        (setState .terminated) now) := by
  unfold InMemorySessionManager.terminateAgentSession
  cases ha : m.agentToSession.get? a with
  | none =>
    refine h.updateNone _ fun r hr => ?_
    rw [← Bool.not_eq_true, Bool.and_eq_true, hasAgent_iff hd hr]
    rintro ⟨hagent, hlive⟩
    rw [not_live_of_unindexed h hk hi ha hr hagent] at hlive
    cases hlive
  | some sid =>
    obtain ⟨s, -, r, hr, hid, hagent, -⟩ := agent_row h hi ha
    refine h.drop ?_ ?_
    · intro u hu hpu
      rw [Bool.and_eq_true, hasAgent_iff hd hu] at hpu
      rw [live_row_unique h hk hi hr (by rw [hagent, hid, ha]) hu
        (hpu.1.trans hagent.symm) hpu.2, hid]
    · intro u hu huid hlive
      rw [Bool.and_eq_true, hasAgent_iff hd hu,
        row_unique hk hr hu (huid.trans hid.symm)]
      exact ⟨hagent, row_unique hk hr hu (huid.trans hid.symm) ▸ hlive⟩

-- ==== the calls by agent

theorem createSession (h : Mirrored now m t) (hk : t.Keyed collate)
    {issued : List String} (hi : m.toSessionTables.Indexed issued)
    {a : AgentId} {gameId : Option GameId} {sid : String}
    {hash : Option String}
    (hc : CreatesAlike l collate m t a gameId sid hash now) :
    Mirrored now (m.createSession l a gameId sid hash now).1
        (t.createSession collate l a gameId sid hash now).1
      ∧ (m.createSession l a gameId sid hash now).2.isSome
        = (t.createSession collate l a gameId sid hash now).2.isSome := by
  obtain ⟨hroom, hd, hfresh, hfits, hfails⟩ := hc
  unfold InMemorySessionManager.createSession
    MySQLSessionManager.createSession
  by_cases hfull : l.maxConcurrentSessions ≤ m.sessions.size
  · rw [if_pos hfull, if_pos (hroom.mp hfull)]
    exact ⟨h, rfl⟩
  · rw [if_neg hfull, if_neg fun hle => hfull (hroom.mpr hle)]
    have hw := h.withoutAgent hk hi hd
    cases hash with
    | none =>
      rw [MySQLSessionManager.update_eq_self _ fun r hr => by
        rw [← Bool.not_eq_true, Bool.and_eq_true, hasAgent_iff hd hr]
        rintro ⟨hagent, hlive⟩
        rw [hfails rfl r hr hagent] at hlive
        cases hlive] at hw
      exact ⟨hw, rfl⟩
    | some hash =>
      have hins : Sql.insert (collate ·.sessionId)
          (t.update (fun r => hasAgent collate a r && r.isLive)
            (setState .terminated) now).rows
          (SessionInfo.create l a gameId sid hash now)
        = some ((t.update (fun r => hasAgent collate a r && r.isLive)
            (setState .terminated) now).rows
            ++ [SessionInfo.create l a gameId sid hash now]) := by
        unfold Sql.insert
        rw [if_neg]
        unfold MySQLSessionManager.update
        rw [Sql.map_key_update _ _ fun u => by
          rw [MySQLSessionManager.stamped_sessionId now
            (f := setState .terminated) fun _ => rfl]]
        intro hmem
        obtain ⟨u, hu, hcu⟩ := List.mem_map.mp hmem
        exact hfresh u.sessionId (List.mem_map_of_mem hu) hcu
      simp only [hfits hash rfl, Bool.not_true, Bool.false_eq_true,
        if_false, hins]
      refine ⟨⟨?_, ?_⟩, trivial⟩
      · intro sid' s hs
        rw [Dict.get?_set] at hs
        split at hs
        case isTrue heq =>
          cases hs
          refine ⟨_, List.mem_append_right _ (List.mem_singleton_self _),
            heq.symm, ?_⟩
          exact ⟨rfl, rfl, rfl, rfl, rfl, rfl, .inl ⟨rfl, by
            show SessionState.active ≠ .terminated
            decide⟩⟩
        case isFalse =>
          obtain ⟨r, hr, hid, hsame⟩ := hw.stored sid' s hs
          exact ⟨r, List.mem_append_left _ hr, hid, hsame⟩
      · intro r hr hlive
        rw [Dict.get?_set]
        split
        · exact ⟨_, rfl⟩
        next hne =>
          rcases List.mem_append.mp hr with hr | hr
          · exact hw.live r hr hlive
          · rw [List.mem_singleton] at hr
            exact absurd (congrArg SessionInfo.sessionId hr) hne

theorem getSessionByAgent (h : Mirrored now m t) (hk : t.Keyed collate)
    {issued : List String} (hi : m.toSessionTables.Indexed issued)
    {a : AgentId} (hd : Distinct collate t.agentIds a)
    (hnot : ∀ r ∈ t.rows, m.agentToSession.get? a = some r.sessionId →
      r.state ≠ .expired) :
    (m.getSessionByAgent a).isSome
      = (t.getSessionByAgent collate a).isSome := by
  unfold InMemorySessionManager.getSessionByAgent
    MySQLSessionManager.getSessionByAgent
  cases ha : m.agentToSession.get? a with
  | none =>
    rw [Sql.latest_eq_none_iff.mpr fun r hr => by
      rw [← Bool.not_eq_true, Bool.and_eq_true, hasAgent_iff hd hr]
      rintro ⟨hagent, hlive⟩
      rw [not_live_of_unindexed h hk hi ha hr hagent] at hlive
      cases hlive]
    rfl
  | some sid =>
    obtain ⟨s, hs, r, hr, hid, hagent, hsame⟩ := agent_row h hi ha
    have hlive : r.isLive = true := by
      have hexp := hnot r hr (by rw [ha, hid])
      rcases hsame.state with ⟨hstate, hterm⟩ | ⟨-, hsusp, -⟩
      · unfold SessionInfo.isLive
        rw [← hstate] at hterm
        cases hrs : r.state <;> simp_all
      · exact isLive_of_state (.inr hsusp)
    rw [Sql.latest_eq_some_of_unique hr (by
      rw [Bool.and_eq_true, hasAgent_iff hd hr]
      exact ⟨hagent, hlive⟩) fun u hu hpu => by
        rw [Bool.and_eq_true, hasAgent_iff hd hu] at hpu
        exact live_row_unique h hk hi hr (by rw [hagent, hid, ha]) hu
          (hpu.1.trans hagent.symm) hpu.2]
    simp [hs]

theorem resumable_eq_none (h : Mirrored now m t) (hk : t.Keyed collate)
    {issued : List String} (hi : m.toSessionTables.Indexed issued)
    {a : AgentId} {gameId : Option GameId}
    (hd : Distinct collate t.agentIds a)
    (hdg : ∀ g ∈ gameId, Distinct collate t.gameIds g)
    (hno : ∀ r ∈ t.rows, m.agentToSession.get? a = some r.sessionId →
      r.matchesGame gameId = true → r.state = .suspended →
      r.expiresAt ≤ now) :
    t.resumable collate a gameId now = none := by
  unfold MySQLSessionManager.resumable
  rw [Sql.latest_eq_none_iff]
  intro r hr
  rw [← Bool.not_eq_true]
  simp only [Bool.and_eq_true, beq_iff_eq, decide_eq_true_eq,
    hasAgent_iff hd hr, hasGame_eq hdg hr]
  rintro ⟨⟨⟨hagent, hgame⟩, hsusp⟩, hdue⟩
  obtain ⟨s, hindex, -, -⟩ :=
    live_row h hk hi hr (isLive_of_state (.inr hsusp))
  rw [hagent] at hindex
  have hle := hno r hr hindex hgame hsusp
  omega

theorem resumable_eq_some (h : Mirrored now m t) (hk : t.Keyed collate)
    {issued : List String} (hi : m.toSessionTables.Indexed issued)
    {gameId : Option GameId}
    (hd : Distinct collate t.agentIds r.agentId)
    (hdg : ∀ g ∈ gameId, Distinct collate t.gameIds g)
    (hr : r ∈ t.rows)
    (ha : m.agentToSession.get? r.agentId = some r.sessionId)
    (hgame : r.matchesGame gameId = true) (hsusp : r.state = .suspended)
    (hdue : now < r.expiresAt) :
    t.resumable collate r.agentId gameId now = some r := by
  refine Sql.latest_eq_some_of_unique hr ?_ fun u hu hpu => ?_
  · simp only [Bool.and_eq_true, beq_iff_eq, decide_eq_true_eq,
      hasAgent_iff hd hr, hasGame_eq hdg hr]
    exact ⟨⟨⟨trivial, hgame⟩, hsusp⟩, hdue⟩
  · simp only [Bool.and_eq_true, beq_iff_eq, decide_eq_true_eq,
      hasAgent_iff hd hu] at hpu
    exact live_row_unique h hk hi hr ha hu hpu.1.1.1
      (isLive_of_state (.inr hpu.1.2))

theorem tryResumeSessionForAgent (h : Mirrored now m t)
    (hk : t.Keyed collate) {issued : List String}
    (hi : m.toSessionTables.Indexed issued) {a : AgentId}
    {apiToken : String} {gameId : Option GameId}
    (hc : TriesAlike collate m t a gameId now) :
    Mirrored now
        (m.tryResumeSessionForAgent l verifyToken a apiToken gameId now).1
        (t.tryResumeSessionForAgent collate l verifyToken a apiToken
          gameId now).1
      ∧ (m.tryResumeSessionForAgent l verifyToken a apiToken gameId
          now).2.isSome
        = (t.tryResumeSessionForAgent collate l verifyToken a apiToken
            gameId now).2.isSome := by
  obtain ⟨hd, hdg, hedge⟩ := hc
  unfold InMemorySessionManager.tryResumeSessionForAgent
    MySQLSessionManager.tryResumeSessionForAgent
  cases ha : m.agentToSession.get? a with
  | none =>
    rw [resumable_eq_none h hk hi hd hdg fun r hr hindex => by
      rw [ha] at hindex
      cases hindex]
    exact ⟨h, rfl⟩
  | some sid =>
    obtain ⟨s, hs, r, hr, rfl, rfl, hsame⟩ := agent_row h hi ha
    have hmatch : r.matchesGame gameId = s.matchesGame gameId := by
      unfold SessionInfo.matchesGame
      rw [hsame.game]
    -- only the row of the session can be selected
    have hnone : (r.matchesGame gameId = true → r.state = .suspended →
        r.expiresAt ≤ now) →
        t.resumable collate r.agentId gameId now = none := by
      intro hno
      refine resumable_eq_none h hk hi hd hdg ?_
      intro u hu hindex
      rw [ha] at hindex
      rw [row_unique hk hr hu (Option.some.inj hindex).symm]
      exact hno
    simp only [hs]
    by_cases hgame : s.matchesGame gameId = true
    · rw [hgame] at hmatch
      simp only [hgame, Bool.not_true, Bool.false_eq_true, if_false]
      by_cases hsusp : s.state = .suspended
      · have hrsusp := hsame.suspended_row hsusp
        rw [if_neg fun hne => hne hsusp]
        by_cases hover : s.expiresAt < now
        · -- marked EXPIRED in memory, and not seen in the table
          rw [if_pos hover, hnone fun _ _ => by rw [hsame.expires]; omega]
          refine ⟨?_, rfl⟩
          have hput : Mirrored now
              (m.put r.sessionId { s with state := .expired })
              (t.update (fun _ => false) id now) := by
            refine h.put hs (fun _ => rfl) (fun _ _ hp => by cases hp) ?_
            intro u hu huid _
            rw [row_unique hk hr hu huid, if_neg (by simp)]
            exact ⟨hsame.id, hsame.agent, hsame.hash, hsame.game,
              hsame.expires, hsame.attempts, .inr ⟨rfl, hrsusp, hover⟩⟩
          rwa [MySQLSessionManager.update_eq_self _ fun _ _ => rfl]
            at hput
        · have hdue : now < r.expiresAt := by
            have hne := hedge r hr rfl (by
              unfold SessionTables.stateOf
              rw [hs]
              exact congrArg some hsusp) hmatch
            have heq := hsame.expires
            omega
          rw [if_neg hover,
            resumable_eq_some h hk hi hd hdg hr ha hmatch hrsusp hdue]
          have hcounted : Mirrored now
              (m.put r.sessionId { s with
                resumeAttempts := s.resumeAttempts + 1
                lastResumeAttempt := now })
              (t.update (hasId collate r.sessionId) (fun u =>
                { u with resumeAttempts := r.resumeAttempts + 1 })
                now) := by
            refine h.putById (hk.distinct hr) hs (fun _ => rfl) ?_
            intro u _ hsu
            exact ⟨hsu.id, hsu.agent, hsu.hash, hsu.game, hsu.expires,
              congrArg (· + 1) hsame.attempts, hsu.state⟩
          simp only [hsame.attempts, hsame.hash] at hcounted ⊢
          split
          · exact ⟨hcounted, rfl⟩
          · refine ⟨?_, rfl⟩
            have hdistinct : Distinct collate
                (t.update (hasId collate r.sessionId) (fun u =>
                  { u with resumeAttempts := s.resumeAttempts + 1 })
                  now).sessionIds r.sessionId := by
              rw [MySQLSessionManager.sessionIds_update]
              · exact hk.distinct hr
              · exact fun _ => rfl
            have hactive := hcounted.putById hdistinct
              (Dict.get?_set_self _ _ _)
              (f := fun u => { u with
                state := .active
                lastActivity := now
                connectionCount := r.connectionCount + 1
                resumeAttempts := 0 })
              (fun _ => rfl) fun u _ hsu =>
                show SameSession now { s with
                    state := .active
                    lastResumeAttempt := now
                    lastActivity := now
                    connectionCount := s.connectionCount + 1
                    resumeAttempts := 0 } _ from
                ⟨hsu.id, hsu.agent, hsu.hash, hsu.game, hsu.expires, rfl,
                  .inl ⟨rfl, by simp⟩⟩
            refine hactive.congr fun sid' => ?_
            simp only [InMemorySessionManager.put, Dict.get?_set]
            split <;> rfl
      · simp only [hsusp, ne_eq, not_false_eq_true, if_true]
        rw [hnone fun _ hrsusp => by
          rcases hsame.state_suspended hrsusp with hs' | ⟨-, hover⟩
          · exact absurd hs' hsusp
          · rw [hsame.expires]
            omega]
        exact ⟨h, rfl⟩
    · rw [hnone fun hrgame => absurd (hmatch ▸ hrgame) hgame]
      simp only [hgame, Bool.not_false, if_true]
      exact ⟨h, trivial⟩

end Mirrored

-- ==== the clean-up

theorem SameSession.isGone_row (h : SameSession now s r) :
    SessionTables.isGone r now = SessionTables.isGone s now := by
  unfold SessionTables.isGone
  rw [h.expires]
  rcases h.state with ⟨hr, -⟩ | ⟨hs, hr, hover⟩
  · rw [hr]
  · rw [hr, hs]
    simp [hover]

theorem InMemorySessionManager.get?_cleanupExpiredSessions {sid : String} :
    (m.cleanupExpiredSessions l now).sessions.get? sid = some s ↔
      m.sessions.get? sid = some s
        ∧ (¬ now - m.lastCleanup < l.cleanupInterval →
            SessionTables.isGone s now = false) := by
  unfold cleanupExpiredSessions
  split
  case isTrue h => simp [h]
  case isFalse h =>
    simp [SessionTables.cleanupExpiredSessions, Dict.get?_filter,
      Option.filter_eq_some_iff, h]

theorem MySQLSessionManager.mem_cleanupExpiredSessions :
    r ∈ (t.cleanupExpiredSessions l now).rows ↔
      r ∈ t.rows
        ∧ (¬ now - t.lastCleanup < l.cleanupInterval →
            SessionTables.isGone r now = false) := by
  unfold cleanupExpiredSessions
  split
  case isTrue h => simp [h]
  case isFalse h => simp [Sql.delete, h]

theorem Mirrored.cleanupExpiredSessions (h : Mirrored now m t)
    (hk : t.Keyed collate) (hc : CleansAlike l m t now) :
    Mirrored now (m.cleanupExpiredSessions l now)
      (t.cleanupExpiredSessions l now) := by
  have hgone : ∀ sid s, m.sessions.get? sid = some s →
      ((¬ now - m.lastCleanup < l.cleanupInterval →
          SessionTables.isGone s now = false)
        ↔ (¬ now - t.lastCleanup < l.cleanupInterval →
          SessionTables.isGone s now = false)) := by
    intro sid s hs
    rcases hc with hdue | hnone
    · rw [hdue]
    · rw [hnone s (Dict.mem_values_iff.mpr ⟨sid, hs⟩)]
      simp
  refine ⟨?_, ?_⟩
  · intro sid s hs
    rw [InMemorySessionManager.get?_cleanupExpiredSessions] at hs
    obtain ⟨r, hr, hid, hsame⟩ := h.stored sid s hs.1
    refine ⟨r, ?_, hid, hsame⟩
    rw [MySQLSessionManager.mem_cleanupExpiredSessions, hsame.isGone_row]
    exact ⟨hr, (hgone sid s hs.1).mp hs.2⟩
  · intro r hr hlive
    rw [MySQLSessionManager.mem_cleanupExpiredSessions] at hr
    obtain ⟨s, hs⟩ := h.live r hr.1 hlive
    obtain ⟨r', hr', hid, hsame⟩ := h.stored _ s hs
    rw [row_unique hk hr.1 hr' hid] at hsame
    rw [hsame.isGone_row] at hr
    exact ⟨s, InMemorySessionManager.get?_cleanupExpiredSessions.mpr
      ⟨hs, (hgone _ s hs).mpr hr.2⟩⟩

-- ==== the runs

def sessionBackends (l : SessionLimits)
    (verifyToken : String → String → Bool) (collate : String → String) :
    SessionManagerBackend (InMemorySessionManager × MySQLSessionManager) :=
  (inMemoryBackend l verifyToken).pair (mysqlBackend l verifyToken collate)

/-- What every state of a run keeps as long as the calls are
synchronous. -/
structure Abreast (collate : String → String)
    (s : BackendRun (InMemorySessionManager × MySQLSessionManager)) :
    Prop where
  indexed : s.backend.1.toSessionTables.Indexed s.issued
  keyed : s.backend.2.Keyed collate
  mirrored : Mirrored s.now s.backend.1 s.backend.2

variable {b : BackendRun (InMemorySessionManager × MySQLSessionManager)}

variable (verifyToken) in
theorem Abreast.call (h : Abreast collate b) {c : SessionCall}
    (hc : Synchronous l collate b (.call c)) :
    Mirrored b.now
        ((inMemoryBackend l verifyToken).call b.backend.1 b.now c).1
        ((mysqlBackend l verifyToken collate).call b.backend.2 b.now c).1
      ∧ SameOutcome (inMemoryBackend l verifyToken)
          (mysqlBackend l verifyToken collate) b (.call c) := by
  obtain ⟨hi, hk, hm⟩ := h
  cases c with
  | createSession agentId gameId sessionId hash =>
    obtain ⟨hm', hout⟩ := hm.createSession hk hi hc
    exact ⟨hm', fun _ => hout⟩
  | validateSession sessionId apiToken =>
    obtain ⟨hm', hout⟩ := hm.validateSession hk hc verifyToken apiToken
    exact ⟨hm', fun _ => hout⟩
  | updateSessionActivity sessionId =>
    exact ⟨hm.updateSessionActivity hk hc, fun h => by cases h⟩
  | extendSession sessionId seconds =>
    exact ⟨hm.extendSession hk hc seconds, fun h => by cases h⟩
  | terminateSession sessionId =>
    obtain ⟨hm', hout⟩ := hm.terminateSession hc.1 hc.2
    exact ⟨hm', fun _ => hout⟩
  | terminateAgentSession agentId =>
    exact ⟨hm.withoutAgent hk hi hc, fun h => by cases h⟩
  | getSessionByAgent agentId =>
    exact ⟨hm, fun _ => hm.getSessionByAgent hk hi hc.1 hc.2⟩
  | suspendSession sessionId =>
    obtain ⟨hm', hout⟩ := hm.suspendSession hk hc
    exact ⟨hm', fun _ => hout⟩
  | resumeSession sessionId =>
    obtain ⟨hm', hout⟩ := hm.resumeSession hk hc
    exact ⟨hm', fun _ => hout⟩
  | tryResumeSessionForAgent agentId apiToken gameId =>
    obtain ⟨hm', hout⟩ := hm.tryResumeSessionForAgent hk hi hc
    exact ⟨hm', fun _ => hout⟩
  | cleanupExpiredSessions =>
    exact ⟨hm.cleanupExpiredSessions hk hc, fun h => by cases h⟩

theorem Abreast.step (h : Abreast collate b) {a : BackendAct}
    {b' : BackendRun (InMemorySessionManager × MySQLSessionManager)}
    (hc : Synchronous l collate b a)
    (hstep : (sessionBackends l verifyToken collate).runs.step b a
      = some b') :
    SameOutcome (inMemoryBackend l verifyToken)
        (mysqlBackend l verifyToken collate) b a
      ∧ Abreast collate b' := by
  cases a with
  | tick n =>
    cases hstep
    exact ⟨trivial, h.indexed, h.keyed, h.mirrored.later n⟩
  | call c =>
    obtain ⟨hm, hout⟩ := h.call verifyToken hc
    refine ⟨hout, ?_⟩
    simp only [SessionManagerBackend.runs] at hstep
    split at hstep
    case isTrue => cases hstep
    case isFalse hnew =>
      cases hstep
      refine ⟨?_, ?_, hm⟩
      · refine (b.backend.1.moves_call b.now c).indexed (l := l) ?_
          h.indexed
        intro sid hsid hissued
        exact hnew (List.any_eq_true.mpr
          ⟨sid, hsid, List.contains_iff_mem.mpr hissued⟩)
      · show ((mysqlBackend l verifyToken collate).call b.backend.2 b.now
          c).1.Keyed collate
        exact (MySQLSessionManager.moves_call h.keyed b.now c).keyed

/-- In every run of the two backends under the same calls, as long as
the calls are synchronous each one has the same outcome in both. -/
theorem outcomes_agree (l : SessionLimits)
    (verifyToken : String → String → Bool) (collate : String → String)
    (now : Int) (acts : List BackendAct)
    (h : (sessionBackends l verifyToken collate).runs.Along
      (Synchronous l collate)
      ⟨(sessionBackends l verifyToken collate).start now, now, []⟩ acts) :
    (sessionBackends l verifyToken collate).runs.Along
      (SameOutcome (inMemoryBackend l verifyToken)
        (mysqlBackend l verifyToken collate))
      ⟨(sessionBackends l verifyToken collate).start now, now, []⟩
      acts := by
  refine Lts.along_of_along (J := Abreast collate)
    (fun s a s' hs hc hstep => hs.step hc hstep) ?_ h
  exact ⟨⟨Inverse.empty, fun _ _ hs => by cases hs⟩, List.nodup_nil,
    ⟨fun _ _ hs => (by cases hs), fun _ hr => (by cases hr)⟩⟩

/-- Passwords in the clear, texts compared byte by byte. -/
def plainBackends (l : SessionLimits) :
    SessionManagerBackend (InMemorySessionManager × MySQLSessionManager) :=
  sessionBackends l (fun token hash => token == hash) id

theorem outcomes_agree_reconnection :
    (plainBackends .default).runs.Along
      (SameOutcome (inMemoryBackend .default fun token hash => token == hash)
        (mysqlBackend .default (fun token hash => token == hash) id))
      ⟨(plainBackends .default).start 0, 0, []⟩
      InMemorySessionManager.reconnection :=
  outcomes_agree .default (fun token hash => token == hash) id 0
    InMemorySessionManager.reconnection (by decide)

/-- With room for one session and that one suspended, a second agent
gets a session from the table only; a session that was terminated is
terminated once more in the table only. -/
theorem outcomes_disagree :
    let l := { SessionLimits.default with maxConcurrentSessions := 1 }
    let memory := inMemoryBackend l fun token hash => token == hash
    let table := mysqlBackend l (fun token hash => token == hash) id
    ¬ (plainBackends l).runs.Along (SameOutcome memory table)
        ⟨(plainBackends l).start 0, 0, []⟩
        [.call (.createSession "alice" none "sess_1" (some "a")),
          .call (.suspendSession "sess_1"),
          .call (.createSession "bob" none "sess_2" (some "b"))]
    ∧ ¬ (plainBackends l).runs.Along (SameOutcome memory table)
        ⟨(plainBackends l).start 0, 0, []⟩
        [.call (.createSession "alice" none "sess_1" (some "a")),
          .call (.terminateSession "sess_1"),
          .call (.terminateSession "sess_1")] := by
  decide

end Freeciv3d.Proxy
