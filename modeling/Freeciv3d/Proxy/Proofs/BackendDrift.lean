/-
The two backends under the same calls: their outcomes agree as long as
no call meets one of the points in which the stores differ.

# What is mirrored

Every session in memory has a row that is not terminated, with the same
data; every live row has its session in memory. The table has more: the
rows of sessions that were terminated, or replaced after they expired,
stay until a clean-up. The states are the same, but for one case: a
reconnection marks an overdue session EXPIRED in memory and does not
look at it in the table.

# The points of difference

`Synchronous` lists them call by call: the limit counts other sessions;
a row outlives its session; an EXPIRED session is still found by its
agent in memory; the expiry second itself counts as valid in memory
only; a suspension that changes nothing affects no row; a text that a
column does not hold, or compares equal to another one; a clean-up that
is due in one of them.
-/
import Freeciv3d.Proxy.Proofs.SessionCapacity

namespace Freeciv3d.Proxy

open Lib

/-- Two backends under the same calls; a call succeeds when it has the
same outcome in both. -/
def SessionManagerBackend.pair {μ ν : Type} (b : SessionManagerBackend μ)
    (b' : SessionManagerBackend ν) : SessionManagerBackend (μ × ν) where
  start now := (b.start now, b'.start now)
  call p now c :=
    let (m, succeeds) := b.call p.1 now c
    let (m', succeeds') := b'.call p.2 now c
    ((m, m'), succeeds == succeeds')

def SessionCall.isCompared : SessionCall → Bool
  | .createSession .. | .validateSession .. | .suspendSession ..
  | .resumeSession .. | .tryResumeSessionForAgent ..
  | .getSessionByAgent .. | .terminateSession .. => true
  | _ => false

def SameOutcome {μ ν : Type} (b : SessionManagerBackend μ)
    (b' : SessionManagerBackend ν) (s : BackendRun (μ × ν)) :
    BackendAct → Prop
  | .tick _ => True
  | .call c => c.isCompared = true →
      (b.call s.backend.1 s.now c).2 = (b'.call s.backend.2 s.now c).2

instance {μ ν : Type} (b : SessionManagerBackend μ)
    (b' : SessionManagerBackend ν) (s : BackendRun (μ × ν))
    (a : BackendAct) : Decidable (SameOutcome b b' s a) := by
  unfold SameOutcome
  split <;> infer_instance

-- ==== the condition

/-- Nothing else in the column compares equal. -/
def Distinct (collate : String → String) (texts : List String)
    (t : String) : Prop :=
  ∀ u ∈ texts, collate u = collate t → u = t

instance (collate : String → String) (texts : List String) (t : String) :
    Decidable (Distinct collate texts t) :=
  inferInstanceAs (Decidable (∀ u ∈ texts, collate u = collate t → u = t))

namespace MySQLSessionManager

def sessionIds (t : MySQLSessionManager) : List String :=
  t.rows.map SessionInfo.sessionId

def agentIds (t : MySQLSessionManager) : List String :=
  t.rows.map SessionInfo.agentId

def gameIds (t : MySQLSessionManager) : List String :=
  t.rows.filterMap SessionInfo.gameId

end MySQLSessionManager

def SessionTables.stateOf (t : SessionTables) (sessionId : String) :
    Option SessionState :=
  (t.sessions.get? sessionId).map SessionInfo.state

variable (l : SessionLimits) (collate : String → String)

/-- A new session: both have room, the texts fit, and a hash that
cannot be made costs the agent nothing. -/
def CreatesAlike (m : InMemorySessionManager) (t : MySQLSessionManager)
    (agentId : AgentId) (gameId : Option GameId) (sessionId : String)
    (hash : Option String) (now : Int) : Prop :=
  (l.maxConcurrentSessions ≤ m.sessions.size
    ↔ l.maxConcurrentSessions ≤ t.activeCount)
  ∧ Distinct collate t.agentIds agentId
  ∧ (∀ u ∈ t.sessionIds, collate u ≠ collate sessionId)
  ∧ (∀ h ∈ hash,
      (SessionInfo.create l agentId gameId sessionId h now).fits = true)
  ∧ (hash = none → ∀ r ∈ t.rows, r.agentId = agentId → r.isLive = false)

/-- A suspension: the session has not expired in memory only, and the
row changes. -/
def SuspendsAlike (m : InMemorySessionManager) (t : MySQLSessionManager)
    (sessionId : String) (now : Int) : Prop :=
  Distinct collate t.sessionIds sessionId
  ∧ ∀ r ∈ t.rows, r.sessionId = sessionId → r.state = .suspended →
      m.stateOf sessionId = some .suspended
        ∧ r.expiresAt ≠ now + l.suspensionTimeoutSecs

/-- A reconnection: not in the second in which the session expires. -/
def TriesAlike (m : InMemorySessionManager) (t : MySQLSessionManager)
    (agentId : AgentId) (gameId : Option GameId) (now : Int) : Prop :=
  Distinct collate t.agentIds agentId
  ∧ (∀ g ∈ gameId, Distinct collate t.gameIds g)
  ∧ ∀ r ∈ t.rows, r.agentId = agentId →
      m.stateOf r.sessionId = some .suspended →
      r.matchesGame gameId = true → r.expiresAt ≠ now

/-- A clean-up: due in both or in neither, or with nothing expired. -/
def CleansAlike (m : InMemorySessionManager) (t : MySQLSessionManager)
    (now : Int) : Prop :=
  (now - m.lastCleanup < l.cleanupInterval
    ↔ now - t.lastCleanup < l.cleanupInterval)
  ∨ ∀ s ∈ m.sessions.values, SessionTables.isGone s now = false

/-- The call meets no point in which the stores differ. -/
def Synchronous
    (s : BackendRun (InMemorySessionManager × MySQLSessionManager)) :
    BackendAct → Prop
  | .tick _ => True
  | .call (.createSession agentId gameId sessionId hash) =>
    CreatesAlike l collate s.backend.1 s.backend.2 agentId gameId
      sessionId hash s.now
  | .call (.validateSession sessionId _)
  | .call (.updateSessionActivity sessionId)
  | .call (.extendSession sessionId _)
  | .call (.resumeSession sessionId) =>
    Distinct collate s.backend.2.sessionIds sessionId
  | .call (.suspendSession sessionId) =>
    SuspendsAlike l collate s.backend.1 s.backend.2 sessionId s.now
  | .call (.terminateSession sessionId) =>
    Distinct collate s.backend.2.sessionIds sessionId
    ∧ (sessionId ∈ s.backend.2.sessionIds →
        s.backend.1.sessions.contains sessionId = true)
  | .call (.terminateAgentSession agentId) =>
    Distinct collate s.backend.2.agentIds agentId
  | .call (.getSessionByAgent agentId) =>
    Distinct collate s.backend.2.agentIds agentId
    ∧ ∀ r ∈ s.backend.2.rows,
        s.backend.1.agentToSession.get? agentId = some r.sessionId →
        r.state ≠ .expired
  | .call (.tryResumeSessionForAgent agentId _ gameId) =>
    TriesAlike collate s.backend.1 s.backend.2 agentId gameId s.now
  | .call .cleanupExpiredSessions =>
    CleansAlike l s.backend.1 s.backend.2 s.now

instance (s : BackendRun (InMemorySessionManager × MySQLSessionManager))
    (a : BackendAct) : Decidable (Synchronous l collate s a) := by
  unfold Synchronous CreatesAlike SuspendsAlike TriesAlike CleansAlike
  split <;> infer_instance

-- ==== the relation

/-- A session in memory and its row. -/
structure SameSession (now : Int) (s r : SessionInfo) : Prop where
  id : r.sessionId = s.sessionId
  agent : r.agentId = s.agentId
  hash : r.apiTokenHash = s.apiTokenHash
  game : r.gameId = s.gameId
  expires : r.expiresAt = s.expiresAt
  attempts : r.resumeAttempts = s.resumeAttempts
  state : (r.state = s.state ∧ s.state ≠ .terminated)
    ∨ (s.state = .expired ∧ r.state = .suspended ∧ s.expiresAt < now)

/-- Memory and table: every session has its row, every live row its
session. -/
structure Mirrored (now : Int) (m : InMemorySessionManager)
    (t : MySQLSessionManager) : Prop where
  stored : ∀ sid s, m.sessions.get? sid = some s →
    ∃ r ∈ t.rows, r.sessionId = sid ∧ SameSession now s r
  live : ∀ r ∈ t.rows, r.isLive = true →
    ∃ s, m.sessions.get? r.sessionId = some s

variable {l collate} {now : Int} {m : InMemorySessionManager}
  {t : MySQLSessionManager} {s r : SessionInfo}

namespace SameSession

theorem later (h : SameSession now s r) (n : Nat) :
    SameSession (now + n) s r := by
  refine ⟨h.id, h.agent, h.hash, h.game, h.expires, h.attempts, ?_⟩
  rcases h.state with hsame | ⟨hs, hr, hover⟩
  · exact .inl hsame
  · exact .inr ⟨hs, hr, by omega⟩

theorem stamped {f : SessionInfo → SessionInfo} {now' : Int}
    (h : SameSession now s (f r)) :
    SameSession now s (MySQLSessionManager.stamped now' f r) := by
  unfold MySQLSessionManager.stamped
  split
  next heq => rwa [heq] at h
  next =>
    exact ⟨h.id, h.agent, h.hash, h.game, h.expires, h.attempts, h.state⟩

theorem isLive_of_row (h : SameSession now s r) (hs : s.isLive = true) :
    r.isLive = true := by
  unfold SessionInfo.isLive at *
  rcases h.state with ⟨hr, -⟩ | ⟨hexpired, -, -⟩
  · rwa [hr]
  · rw [hexpired] at hs
    cases hs

theorem state_eq_active (h : SameSession now s r) :
    r.state = .active ↔ s.state = .active := by
  rcases h.state with ⟨hr, -⟩ | ⟨hs, hr, -⟩
  · rw [hr]
  · rw [hr, hs]
    simp

theorem state_suspended (h : SameSession now s r)
    (hr : r.state = .suspended) :
    s.state = .suspended ∨ (s.state = .expired ∧ s.expiresAt < now) := by
  rcases h.state with ⟨heq, -⟩ | ⟨hs, -, hover⟩
  · exact .inl (heq ▸ hr)
  · exact .inr ⟨hs, hover⟩

theorem suspended_row (h : SameSession now s r)
    (hs : s.state = .suspended) : r.state = .suspended := by
  rcases h.state with ⟨heq, -⟩ | ⟨hexpired, -, -⟩
  · exact heq ▸ hs
  · rw [hexpired] at hs
    cases hs

end SameSession

theorem MySQLSessionManager.update_eq_self {p : SessionInfo → Bool}
    (f : SessionInfo → SessionInfo) (hp : ∀ r ∈ t.rows, p r = false)
    (now : Int) : t.update p f now = t := by
  have hrows : Sql.update t.rows p (stamped now f) = t.rows := by
    unfold Sql.update
    conv_rhs => rw [← List.map_id t.rows]
    refine List.map_congr_left fun r hr => ?_
    rw [hp r hr]
    rfl
  unfold update
  rw [hrows]

namespace Mirrored

theorem later (h : Mirrored now m t) (n : Nat) :
    Mirrored (now + n) m t := by
  refine ⟨fun sid s hs => ?_, h.live⟩
  obtain ⟨r, hr, hid, hsame⟩ := h.stored sid s hs
  exact ⟨r, hr, hid, hsame.later n⟩

theorem put (h : Mirrored now m t) {sid : String} {s' : SessionInfo}
    (hs : m.sessions.get? sid = some s) {p : SessionInfo → Bool}
    {f : SessionInfo → SessionInfo}
    (hid : ∀ u, (f u).sessionId = u.sessionId)
    (hp : ∀ r ∈ t.rows, p r = true → r.sessionId = sid)
    (hsame : ∀ r ∈ t.rows, r.sessionId = sid → SameSession now s r →
      SameSession now s' (if p r then f r else r)) :
    Mirrored now (m.put sid s') (t.update p f now) := by
  refine ⟨?_, ?_⟩
  · intro sid' u hu
    unfold InMemorySessionManager.put at hu
    rw [Dict.get?_set] at hu
    split at hu
    case isTrue heq =>
      cases hu
      obtain ⟨r, hr, hrid, hsr⟩ := h.stored sid s hs
      refine ⟨_, Sql.mem_update_iff.mpr ⟨r, hr, rfl⟩, ?_, ?_⟩
      · split
        · rw [MySQLSessionManager.stamped_sessionId now hid, hrid, heq]
        · rw [hrid, heq]
      · have hnew := hsame r hr hrid hsr
        split
        case isTrue hpr =>
          rw [if_pos hpr] at hnew
          exact hnew.stamped
        case isFalse hpr => rwa [if_neg hpr] at hnew
    case isFalse hne =>
      obtain ⟨r, hr, hrid, hsr⟩ := h.stored sid' u hu
      have hpr : p r = false := by
        cases hpr : p r with
        | false => rfl
        | true => exact absurd (hrid.symm.trans (hp r hr hpr)) hne
      refine ⟨r, Sql.mem_update_iff.mpr ⟨r, hr, ?_⟩, hrid, hsr⟩
      rw [hpr]
      rfl
  · intro r' hr' hlive
    obtain ⟨r, hr, rfl⟩ := Sql.mem_update_iff.mp hr'
    unfold InMemorySessionManager.put
    rw [Dict.get?_set]
    by_cases hpr : p r = true
    · rw [if_pos hpr, MySQLSessionManager.stamped_sessionId now hid,
        hp r hr hpr, if_pos rfl]
      exact ⟨s', rfl⟩
    · rw [if_neg hpr] at hlive ⊢
      split
      · exact ⟨s', rfl⟩
      · exact h.live r hr hlive

theorem updateRow (h : Mirrored now m t) {sid : String}
    (hs : m.sessions.get? sid = some s) {p : SessionInfo → Bool}
    {f : SessionInfo → SessionInfo}
    (hid : ∀ u, (f u).sessionId = u.sessionId)
    (hp : ∀ r ∈ t.rows, p r = true → r.sessionId = sid)
    (hsame : ∀ r ∈ t.rows, r.sessionId = sid → SameSession now s r →
      SameSession now s (if p r then f r else r)) :
    Mirrored now m (t.update p f now) := by
  have hput := h.put hs hid hp hsame
  rwa [InMemorySessionManager.put, Dict.set_eq_self hs] at hput

theorem updateNone (h : Mirrored now m t) {p : SessionInfo → Bool}
    (f : SessionInfo → SessionInfo) (hp : ∀ r ∈ t.rows, p r = false) :
    Mirrored now m (t.update p f now) := by
  rwa [MySQLSessionManager.update_eq_self f hp now]

end Mirrored

-- ==== the lookups

open MySQLSessionManager (hasId hasAgent hasGame isActive setState Keyed)

theorem hasId_iff {sid : String} (hd : Distinct collate t.sessionIds sid)
    (hr : r ∈ t.rows) :
    hasId collate sid r = true ↔ r.sessionId = sid := by
  unfold hasId
  rw [beq_iff_eq]
  constructor
  · exact hd r.sessionId (List.mem_map_of_mem hr)
  · intro h
    rw [h]

theorem hasAgent_iff {a : AgentId} (hd : Distinct collate t.agentIds a)
    (hr : r ∈ t.rows) :
    hasAgent collate a r = true ↔ r.agentId = a := by
  unfold hasAgent
  rw [beq_iff_eq]
  constructor
  · exact hd r.agentId (List.mem_map_of_mem hr)
  · intro h
    rw [h]

theorem row_unique (hk : t.Keyed collate) {r r' : SessionInfo}
    (hr : r ∈ t.rows) (hr' : r' ∈ t.rows)
    (hid : r'.sessionId = r.sessionId) : r' = r :=
  Sql.eq_of_key_eq hk hr' hr (by rw [hid])

theorem find?_row (h : Mirrored now m t) (hk : t.Keyed collate)
    {sid : String} (hd : Distinct collate t.sessionIds sid)
    (hs : m.sessions.get? sid = some s) :
    ∃ r ∈ t.rows, t.rows.find? (hasId collate sid) = some r
      ∧ r.sessionId = sid ∧ SameSession now s r := by
  obtain ⟨r, hr, hid, hsame⟩ := h.stored sid s hs
  refine ⟨r, hr, ?_, hid, hsame⟩
  refine Sql.find?_eq_some_of_unique hr ((hasId_iff hd hr).mpr hid) ?_
  intro u hu hpu
  exact row_unique hk hr hu (((hasId_iff hd hu).mp hpu).trans hid.symm)

theorem not_live_of_none (h : Mirrored now m t) {sid : String}
    (hs : m.sessions.get? sid = none) (hr : r ∈ t.rows)
    (hid : r.sessionId = sid) : r.isLive = false := by
  rw [← Bool.not_eq_true]
  intro hlive
  obtain ⟨s, hs'⟩ := h.live r hr hlive
  rw [hid, hs] at hs'
  cases hs'

theorem live_row (h : Mirrored now m t) (hk : t.Keyed collate)
    {issued : List String} (hi : m.toSessionTables.Indexed issued)
    (hr : r ∈ t.rows) (hlive : r.isLive = true) :
    ∃ s, m.agentToSession.get? r.agentId = some r.sessionId
      ∧ m.sessions.get? r.sessionId = some s ∧ SameSession now s r := by
  obtain ⟨s, hs⟩ := h.live r hr hlive
  obtain ⟨r', hr', hid, hsame⟩ := h.stored _ s hs
  rw [row_unique hk hr hr' hid] at hsame
  refine ⟨s, ?_, hs, hsame⟩
  rw [hsame.agent]
  exact hi.inverse.get?_owner hs

theorem isLive_of_state (hr : r.state = .active ∨ r.state = .suspended) :
    r.isLive = true := by
  simpa [SessionInfo.isLive] using hr

theorem not_active_of_not_live (h : r.isLive = false) :
    r.state ≠ .active ∧ r.state ≠ .suspended := by
  simpa [SessionInfo.isLive] using h

-- ==== the calls, by session

namespace Mirrored

/-- An `UPDATE` of the active row of a session, and what the session in
memory gets for it. -/
theorem updateActive (h : Mirrored now m t) (hk : t.Keyed collate)
    {sid : String} (hd : Distinct collate t.sessionIds sid)
    {f : SessionInfo → SessionInfo}
    (hid : ∀ u, (f u).sessionId = u.sessionId)
    (hf : ∀ s r, SameSession now s r → s.state = .active →
      SameSession now (f s) (f r)) :
    Mirrored now
      (match m.sessions.get? sid with
        | none => m
        | some s => if s.state = .active then m.put sid (f s) else m)
      (t.update (fun r => hasId collate sid r && isActive r) f now) := by
  have hnone : (∀ r ∈ t.rows, r.sessionId = sid → r.state ≠ .active) →
      ∀ r ∈ t.rows, (hasId collate sid r && isActive r) = false := by
    intro hno r hr
    rw [← Bool.not_eq_true, Bool.and_eq_true, hasId_iff hd hr]
    rintro ⟨hrid, hact⟩
    exact hno r hr hrid (by simpa [isActive] using hact)
  have hp : ∀ r ∈ t.rows,
      (hasId collate sid r && isActive r) = true → r.sessionId = sid := by
    intro r hr hpr
    rw [Bool.and_eq_true] at hpr
    exact (hasId_iff hd hr).mp hpr.1
  cases hs : m.sessions.get? sid with
  | none =>
    exact h.updateNone f (hnone fun r hr hrid =>
      (not_active_of_not_live (not_live_of_none h hs hr hrid)).1)
  | some s =>
    dsimp only
    split
    case isTrue hact =>
      refine h.put hs hid hp fun r hr hrid hsame => ?_
      have hpr : (hasId collate sid r && isActive r) = true := by
        rw [Bool.and_eq_true, hasId_iff hd hr]
        exact ⟨hrid, by
          simpa [isActive] using hsame.state_eq_active.mpr hact⟩
      rw [if_pos hpr]
      exact hf s r hsame hact
    case isFalse hact =>
      obtain ⟨r₀, hr₀, -, hid₀, hsame₀⟩ := find?_row h hk hd hs
      refine h.updateNone f (hnone fun r hr hrid => ?_)
      rw [row_unique hk hr₀ hr (hrid.trans hid₀.symm)]
      exact fun hr₀act => hact (hsame₀.state_eq_active.mp hr₀act)

theorem updateSessionActivity (h : Mirrored now m t)
    (hk : t.Keyed collate) {sid : String}
    (hd : Distinct collate t.sessionIds sid) :
    Mirrored now (m.updateSessionActivity sid now).1
      (t.updateSessionActivity collate sid now).1 := by
  have hup := h.updateActive hk hd
    (f := fun s => { s with lastActivity := now }) (fun _ => rfl)
    fun s r hsr _ => ⟨hsr.id, hsr.agent, hsr.hash, hsr.game, hsr.expires,
      hsr.attempts, hsr.state⟩
  unfold InMemorySessionManager.updateSessionActivity
  cases hs : m.sessions.get? sid with
  | none =>
    rw [hs] at hup
    exact hup
  | some s =>
    rw [hs] at hup
    dsimp only at hup ⊢
    split <;> simp_all [MySQLSessionManager.updateSessionActivity]

theorem extendSession (h : Mirrored now m t) (hk : t.Keyed collate)
    {sid : String} (hd : Distinct collate t.sessionIds sid)
    (seconds : Option Int) :
    Mirrored now (m.extendSession l sid seconds now).1
      (t.extendSession collate l sid seconds now).1 := by
  have hup := h.updateActive hk hd
    (f := fun s => { s with
      expiresAt := max s.expiresAt now + l.extension seconds })
    (fun _ => rfl) fun s r hsr hact => ⟨hsr.id, hsr.agent, hsr.hash,
      hsr.game, by dsimp only; rw [hsr.expires], hsr.attempts,
      .inl ⟨by
        show r.state = s.state
        rw [hact]
        exact hsr.state_eq_active.mpr hact, by
        show s.state ≠ .terminated
        rw [hact]
        decide⟩⟩
  unfold InMemorySessionManager.extendSession
  cases hs : m.sessions.get? sid with
  | none =>
    rw [hs] at hup
    exact hup
  | some s =>
    rw [hs] at hup
    dsimp only at hup ⊢
    split <;> simp_all [MySQLSessionManager.extendSession]

theorem putById (h : Mirrored now m t) {sid : String}
    (hd : Distinct collate t.sessionIds sid) {s' : SessionInfo}
    (hs : m.sessions.get? sid = some s) {f : SessionInfo → SessionInfo}
    (hid : ∀ u, (f u).sessionId = u.sessionId)
    (hsame : ∀ r ∈ t.rows, SameSession now s r →
      SameSession now s' (f r)) :
    Mirrored now (m.put sid s') (t.update (hasId collate sid) f now) := by
  refine h.put hs hid (fun r hr hpr => (hasId_iff hd hr).mp hpr) ?_
  intro r hr hrid hsr
  rw [if_pos ((hasId_iff hd hr).mpr hrid)]
  exact hsame r hr hsr

theorem validateSession (h : Mirrored now m t) (hk : t.Keyed collate)
    {sid : String} (hd : Distinct collate t.sessionIds sid)
    (verifyToken : String → String → Bool) (apiToken : Option String) :
    Mirrored now (m.validateSession verifyToken sid apiToken now).1
        (t.validateSession collate verifyToken sid apiToken now).1
      ∧ (m.validateSession verifyToken sid apiToken now).2.isSome
        = (t.validateSession collate verifyToken sid apiToken
            now).2.isSome := by
  unfold InMemorySessionManager.validateSession
    MySQLSessionManager.validateSession
  cases hs : m.sessions.get? sid with
  | none =>
    cases hf : t.rows.find? (hasId collate sid) with
    | none => exact ⟨h, rfl⟩
    | some r =>
      have hr := List.mem_of_find?_eq_some hf
      have hrid := (hasId_iff hd hr).mp (List.find?_some hf)
      have hdead := not_live_of_none h hs hr hrid
      simp only [ne_eq, (not_active_of_not_live hdead).1,
        not_false_eq_true, if_true]
      exact ⟨h, trivial⟩
  | some s =>
    obtain ⟨r, hr, hf, hrid, hsame⟩ := find?_row h hk hd hs
    simp only [hf]
    by_cases hact : s.state = .active
    · have hract := hsame.state_eq_active.mpr hact
      simp only [ne_eq, hact, hract, not_true_eq_false, if_false,
        hsame.expires, hsame.hash]
      split
      · refine ⟨h.putById hd hs (fun _ => rfl) fun u _ hsu => ?_, rfl⟩
        exact ⟨hsu.id, hsu.agent, hsu.hash, hsu.game, hsu.expires,
          hsu.attempts, .inl ⟨rfl, by simp⟩⟩
      · split
        · exact ⟨h, rfl⟩
        · refine ⟨h.putById hd hs (fun _ => rfl) fun u _ hsu => ?_, rfl⟩
          exact ⟨hsu.id, hsu.agent, hsu.hash, hsu.game, hsu.expires,
            hsu.attempts, hact ▸ hsu.state⟩
    · have hract : ¬ r.state = .active :=
        fun hr' => hact (hsame.state_eq_active.mp hr')
      simp only [ne_eq, hact, hract, not_false_eq_true, if_true]
      exact ⟨h, trivial⟩

theorem suspendSession (h : Mirrored now m t) (hk : t.Keyed collate)
    {sid : String} (hc : SuspendsAlike l collate m t sid now) :
    Mirrored now (m.suspendSession l sid now).1
        (t.suspendSession collate l sid now).1
      ∧ (m.suspendSession l sid now).2
        = (t.suspendSession collate l sid now).2 := by
  obtain ⟨hd, hrows⟩ := hc
  -- no live row: nothing is suspended
  have hdead : (∀ r ∈ t.rows, r.sessionId = sid → r.isLive = false) →
      Mirrored now m (t.suspendSession collate l sid now).1
        ∧ false = (t.suspendSession collate l sid now).2 := by
    intro hdead
    have hp : ∀ r ∈ t.rows,
        (hasId collate sid r && r.isLive) = false := by
      intro r hr
      rw [← Bool.not_eq_true, Bool.and_eq_true, hasId_iff hd hr]
      rintro ⟨hrid, hlive⟩
      rw [hdead r hr hrid] at hlive
      cases hlive
    refine ⟨h.updateNone _ hp, ?_⟩
    unfold MySQLSessionManager.suspendSession
    symm
    rw [decide_eq_false_iff_not, Nat.not_lt, Nat.le_zero]
    unfold Sql.affected
    rw [List.countP_eq_zero]
    intro r hr
    dsimp only
    rw [hp r hr]
    simp
  unfold InMemorySessionManager.suspendSession
  cases hs : m.sessions.get? sid with
  | none => exact hdead fun r hr hrid => not_live_of_none h hs hr hrid
  | some s =>
    obtain ⟨r, hr, -, hrid, hsame⟩ := find?_row h hk hd hs
    dsimp only
    split
    case isTrue hlive =>
      have hrlive := hsame.isLive_of_row hlive
      have hpr : (hasId collate sid r && r.isLive) = true := by
        rw [Bool.and_eq_true, hasId_iff hd hr]
        exact ⟨hrid, hrlive⟩
      constructor
      · refine h.put hs (fun _ => rfl) ?_ ?_
        · intro u hu hpu
          rw [Bool.and_eq_true] at hpu
          exact (hasId_iff hd hu).mp hpu.1
        · intro u hu huid hsu
          rw [row_unique hk hr hu (huid.trans hrid.symm), if_pos hpr]
          exact ⟨hsame.id, hsame.agent, hsame.hash, hsame.game, rfl,
            hsame.attempts, .inl ⟨rfl, by simp⟩⟩
      · -- the row changes, so it is affected
        unfold MySQLSessionManager.suspendSession
        symm
        rw [decide_eq_true_iff]
        unfold Sql.affected
        rw [List.countP_pos_iff]
        refine ⟨r, hr, ?_⟩
        dsimp only
        rw [hpr, Bool.true_and, decide_eq_true_eq]
        intro heq
        have hstate : r.state = .suspended :=
          (congrArg SessionInfo.state heq).symm
        exact (hrows r hr hrid hstate).2
          (congrArg SessionInfo.expiresAt heq).symm
    case isFalse hnot =>
      refine hdead fun u hu huid => ?_
      rw [row_unique hk hr hu (huid.trans hrid.symm),
        ← Bool.not_eq_true]
      intro hrlive
      apply hnot
      have hlive : r.state = .active ∨ r.state = .suspended := by
        simpa [SessionInfo.isLive] using hrlive
      rcases hlive with hact | hsusp
      · exact isLive_of_state (.inl (hsame.state_eq_active.mp hact))
      · have hstate := (hrows r hr hrid hsusp).1
        unfold SessionTables.stateOf at hstate
        rw [hs] at hstate
        exact isLive_of_state (.inr (Option.some.inj hstate))

theorem resumeSession (h : Mirrored now m t) (hk : t.Keyed collate)
    {sid : String} (hd : Distinct collate t.sessionIds sid) :
    Mirrored now (m.resumeSession sid now).1
        (t.resumeSession collate sid now).1
      ∧ (m.resumeSession sid now).2
        = (t.resumeSession collate sid now).2 := by
  have hnone : (∀ r ∈ t.rows, r.sessionId = sid → r.state ≠ .suspended) →
      (t.rows.find? fun s => hasId collate sid s && s.state == .suspended)
        = none := by
    intro hno
    rw [List.find?_eq_none]
    intro r hr
    rw [Bool.and_eq_true, hasId_iff hd hr]
    rintro ⟨hrid, hsusp⟩
    exact hno r hr hrid (by simpa using hsusp)
  unfold InMemorySessionManager.resumeSession
    MySQLSessionManager.resumeSession
  cases hs : m.sessions.get? sid with
  | none =>
    rw [hnone fun r hr hrid =>
      (not_active_of_not_live (not_live_of_none h hs hr hrid)).2]
    exact ⟨h, rfl⟩
  | some s =>
    obtain ⟨r, hr, -, hrid, hsame⟩ := find?_row h hk hd hs
    have hfind : r.state = .suspended →
        (t.rows.find? fun s => hasId collate sid s
          && s.state == .suspended) = some r := by
      intro hsusp
      refine Sql.find?_eq_some_of_unique hr ?_ ?_
      · rw [Bool.and_eq_true, hasId_iff hd hr, hsusp]
        exact ⟨hrid, rfl⟩
      · intro u hu hpu
        rw [Bool.and_eq_true, hasId_iff hd hu] at hpu
        exact row_unique hk hr hu (hpu.1.trans hrid.symm)
    by_cases hsusp : s.state = .suspended
    · rw [hfind (hsame.suspended_row hsusp)]
      simp only [hsusp, if_true, hsame.expires]
      by_cases hdue : s.expiresAt < now
      · rw [if_neg (by omega), if_pos hdue]
        refine ⟨h.putById hd hs (fun _ => rfl) fun u _ hsu => ?_, rfl⟩
        exact ⟨hsu.id, hsu.agent, hsu.hash, hsu.game, hsu.expires,
          hsu.attempts, .inl ⟨rfl, by simp⟩⟩
      · rw [if_pos (by omega), if_neg hdue]
        refine ⟨h.putById hd hs (fun _ => rfl) fun u _ hsu => ?_, rfl⟩
        exact ⟨hsu.id, hsu.agent, hsu.hash, hsu.game, hsu.expires,
          hsu.attempts, .inl ⟨rfl, by simp⟩⟩
    · simp only [hsusp, if_false]
      by_cases hrsusp : r.state = .suspended
      · -- expired in memory, and overdue in the table
        rw [hfind hrsusp]
        rcases hsame.state_suspended hrsusp with hs' | ⟨hexp, hover⟩
        · exact absurd hs' hsusp
        · simp only [hsame.expires, hover, if_true]
          refine ⟨h.updateRow hs (fun _ => rfl)
            (fun u hu hpu => (hasId_iff hd hu).mp hpu) ?_, trivial⟩
          intro u hu huid hsu
          rw [if_pos ((hasId_iff hd hu).mpr huid)]
          exact ⟨hsu.id, hsu.agent, hsu.hash, hsu.game, hsu.expires,
            hsu.attempts, .inl ⟨hexp.symm, by rw [hexp]; simp⟩⟩
      · rw [hnone fun u hu huid => by
          rw [row_unique hk hr hu (huid.trans hrid.symm)]
          exact hrsusp]
        exact ⟨h, rfl⟩

end Mirrored

end Freeciv3d.Proxy
