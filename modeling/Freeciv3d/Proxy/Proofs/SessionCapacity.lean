/-
The limit on active sessions: `InMemorySessionManager` keeps it in every
run; `MySQLSessionManager` keeps it exactly as long as no session is
resumed while the maximum is active.

# Two ways of counting

The in-memory backend counts every session it stores, so a suspended
one keeps its place, and the limit follows from the size of the table.
The table of the other one is counted by `state = 'active'` when a
session is created; a suspended row has no place and takes one when it
is resumed. No other statement makes a row active (`Moves`).
-/
import Freeciv3d.Proxy.MySQLSessions
import Freeciv3d.Proxy.Proofs.SessionIndex

namespace Freeciv3d.Proxy

open Lib

-- ==== in memory

namespace SessionTables

def activeCount (t : SessionTables) : Nat :=
  t.sessions.values.countP fun s => s.state == .active

theorem activeCount_le_size (t : SessionTables) :
    t.activeCount ≤ t.sessions.size := by
  unfold activeCount
  have hle := List.countP_le_length (p := fun s => s.state == .active)
    (l := t.sessions.values)
  simpa [Dict.values, Dict.size] using hle

theorem size_terminateSession_le (t : SessionTables) (sid : String) :
    (t.terminateSession sid).sessions.size ≤ t.sessions.size := by
  unfold SessionTables.terminateSession
  split
  · exact Nat.le_refl _
  · have hsize := t.sessions.size_erase sid
    dsimp only
    omega

theorem size_withoutAgent_le (t : SessionTables) (agentId : AgentId) :
    (t.withoutAgent agentId).sessions.size ≤ t.sessions.size := by
  unfold SessionTables.withoutAgent
  split
  · exact t.size_terminateSession_le _
  · exact Nat.le_refl _

theorem Moves.size_le {l : SessionLimits} {t t' : SessionTables}
    {drawn : List String} (hm : Moves l t drawn t')
    (h : t.sessions.size ≤ l.maxConcurrentSessions) :
    t'.sessions.size ≤ l.maxConcurrentSessions := by
  cases hm with
  | same => exact h
  | terminate sid => exact Nat.le_trans (t.size_terminateSession_le sid) h
  | unindex ha hs => exact h
  | cleanup now => exact Nat.le_trans (List.length_filter_le _ _) h
  | @put sid u u' hs ha =>
    have hsize := Dict.size_set t.sessions sid u'
    have hthere := Dict.contains_iff.mpr ⟨_, hs⟩
    rw [hsize, hthere]
    exact h
  | @create sid s hroom hdrawn =>
    have hsize := Dict.size_set (t.withoutAgent s.agentId).sessions sid s
    have hle := t.size_withoutAgent_le s.agentId
    rw [hsize]
    split <;> omega

end SessionTables

namespace InMemorySessionManager

theorem reach_size_le {l : SessionLimits}
    {verifyToken : String → String → Bool}
    {s : BackendRun InMemorySessionManager}
    (h : (inMemoryBackend l verifyToken).runs.Reach s) :
    s.backend.sessions.size ≤ l.maxConcurrentSessions := by
  refine h.invariant (I := fun s =>
    s.backend.sessions.size ≤ l.maxConcurrentSessions) ?_ ?_
  · rintro s ⟨hb, -⟩
    rw [hb]
    exact Nat.zero_le _
  · intro s a s' hs hstep
    cases a with
    | tick n =>
      cases hstep
      exact hs
    | call c =>
      simp only [SessionManagerBackend.runs] at hstep
      split at hstep
      case isTrue => cases hstep
      case isFalse =>
        cases hstep
        exact (s.backend.moves_call s.now c).size_le hs

end InMemorySessionManager

-- ==== the table

namespace MySQLSessionManager

variable {collate : String → String} {l : SessionLimits}
  {verifyToken : String → String → Bool} {m : MySQLSessionManager}

/-- No two rows have one primary key. -/
def Keyed (collate : String → String) (m : MySQLSessionManager) : Prop :=
  (m.rows.map fun s => collate s.sessionId).Nodup

theorem stamped_sessionId {f : SessionInfo → SessionInfo} (now : Int)
    (hf : ∀ s, (f s).sessionId = s.sessionId) (s : SessionInfo) :
    (stamped now f s).sessionId = s.sessionId := by
  unfold stamped
  split
  · rfl
  · exact hf s

theorem isActive_stamped (now : Int) (f : SessionInfo → SessionInfo)
    (s : SessionInfo) : isActive (stamped now f s) = isActive (f s) := by
  unfold stamped
  split
  next h => rw [h]
  next => rfl

theorem Keyed.update (h : m.Keyed collate) (p : SessionInfo → Bool)
    {f : SessionInfo → SessionInfo} (now : Int)
    (hf : ∀ s, (f s).sessionId = s.sessionId) :
    (m.update p f now).Keyed collate := by
  unfold Keyed MySQLSessionManager.update
  rw [Sql.map_key_update m.rows p fun s => by
    rw [stamped_sessionId now hf]]
  exact h

theorem activeCount_update_le {p : SessionInfo → Bool}
    {f : SessionInfo → SessionInfo} (now : Int)
    (h : ∀ s, p s = true → isActive (f s) = true → isActive s = true) :
    (m.update p f now).activeCount ≤ m.activeCount :=
  Sql.count_update_le fun s _ hp hq =>
    h s hp (isActive_stamped now f s ▸ hq)

theorem activeCount_update_one (hk : m.Keyed collate) {s : SessionInfo}
    (hs : s ∈ m.rows) (hnot : isActive s = false)
    {f : SessionInfo → SessionInfo} (now : Int)
    (hf : ∀ u, isActive (f u) = true) :
    (m.update (hasId collate s.sessionId) f now).activeCount
      = m.activeCount + 1 := by
  have hid : ∀ u, hasId collate s.sessionId u = true →
      collate u.sessionId = collate s.sessionId := by
    intro u hu
    simpa [hasId] using hu
  refine Sql.count_update_one (Sql.count_eq_one hk hs (by simp [hasId])
    fun u _ hu => hid u hu) ?_ fun u => by rw [isActive_stamped, hf]
  intro u hu hp
  rw [Sql.eq_of_key_eq hk hu hs (hid u hp)]
  exact hnot

/-- What a call makes of the number of active rows: it resumes a
session, or adds none beyond the maximum. -/
inductive Moves (l : SessionLimits) (collate : String → String)
    (m : MySQLSessionManager) (resumes : Prop) :
    MySQLSessionManager → Prop
  | fewer {m' : MySQLSessionManager} (hr : ¬ resumes)
      (hk : m'.Keyed collate) (hle : m'.activeCount ≤ m.activeCount) :
      Moves l collate m resumes m'
  | create {m' : MySQLSessionManager} (hr : ¬ resumes)
      (hk : m'.Keyed collate)
      (hroom : m.activeCount < l.maxConcurrentSessions)
      (hle : m'.activeCount ≤ m.activeCount + 1) :
      Moves l collate m resumes m'
  | resume {m' : MySQLSessionManager} (hr : resumes)
      (hk : m'.Keyed collate) (heq : m'.activeCount = m.activeCount + 1) :
      Moves l collate m resumes m'

theorem Moves.keyed {resumes : Prop} {m' : MySQLSessionManager}
    (h : Moves l collate m resumes m') : m'.Keyed collate := by
  cases h <;> assumption

theorem Moves.update (hk : m.Keyed collate) {resumes : Prop}
    (hr : ¬ resumes) (p : SessionInfo → Bool)
    {f : SessionInfo → SessionInfo} (now : Int)
    (hf : ∀ s, (f s).sessionId = s.sessionId)
    (h : ∀ s, p s = true → isActive (f s) = true → isActive s = true) :
    Moves l collate m resumes (m.update p f now) :=
  .fewer hr (hk.update p now hf) (activeCount_update_le now h)

theorem moves_createSession (hk : m.Keyed collate) (agentId : AgentId)
    (gameId : Option GameId) (sessionId : String) (hash : Option String)
    (now : Int) :
    Moves l collate m False
      (m.createSession collate l agentId gameId sessionId hash now).1 := by
  have hsame : Moves l collate m False m := .fewer id hk (Nat.le_refl _)
  unfold createSession
  split
  case isTrue => exact hsame
  case isFalse hroom =>
    cases hash with
    | none => exact hsame
    | some hash =>
      dsimp only
      split
      case isTrue => exact hsame
      case isFalse =>
        split
        case h_1 => exact hsame
        case h_2 rows hins =>
          have hkey := hk.update
            (fun s => hasAgent collate agentId s && s.isLive) now
            (f := setState .terminated) fun _ => rfl
          have hle := activeCount_update_le (m := m)
            (p := fun s => hasAgent collate agentId s && s.isLive)
            (f := setState .terminated) now fun s _ hact => by
              simp [isActive, setState] at hact
          obtain ⟨rfl, hnodup⟩ := Sql.nodup_insert hkey hins
          refine .create id hnodup (Nat.lt_of_not_le hroom) ?_
          simp only [activeCount, Sql.count, List.countP_append,
            List.countP_singleton] at hle ⊢
          split <;> omega

def resumes (collate : String → String) (m : MySQLSessionManager)
    (sessionId : String) (now : Int) : Bool :=
  match m.rows.find? fun s =>
      hasId collate sessionId s && s.state == .suspended with
  | none => false
  | some s => decide (now ≤ s.expiresAt)

/-- `try_resume_session_for_agent` would resume a session. -/
def triesResume (collate : String → String) (l : SessionLimits)
    (verifyToken : String → String → Bool) (m : MySQLSessionManager)
    (agentId : AgentId) (apiToken : String) (gameId : Option GameId)
    (now : Int) : Bool :=
  match m.resumable collate agentId gameId now with
  | none => false
  | some s => decide (s.resumeAttempts + 1 ≤ l.maxResumeAttempts)
      && verifyToken apiToken s.apiTokenHash

theorem moves_resumeSession (hk : m.Keyed collate) (sessionId : String)
    (now : Int) :
    Moves l collate m (m.resumes collate sessionId now = true)
      (m.resumeSession collate sessionId now).1 := by
  unfold resumeSession resumes
  cases hs : m.rows.find? fun s =>
      hasId collate sessionId s && s.state == .suspended with
  | none => exact .fewer (by simp) hk (Nat.le_refl _)
  | some s =>
    dsimp only
    have hmem := List.mem_of_find?_eq_some hs
    have hfound := List.find?_some hs
    simp only [Bool.and_eq_true, beq_iff_eq] at hfound
    split
    case isTrue hexpired =>
      refine Moves.update hk ?_ _ now (fun _ => rfl) fun u _ hu => ?_
      · simp only [decide_eq_true_eq]
        omega
      · simp [isActive, setState] at hu
    case isFalse hvalid =>
      have hsame : hasId collate sessionId
          = hasId collate s.sessionId := by
        funext u
        have hid : collate s.sessionId = collate sessionId := by
          simpa [hasId] using hfound.1
        simp [hasId, hid]
      rw [hsame]
      refine .resume ?_ (hk.update _ now fun _ => rfl)
        (activeCount_update_one hk hmem ?_ now fun _ => rfl)
      · simp only [decide_eq_true_eq]
        omega
      · simp [isActive, hfound.2]

theorem moves_tryResumeSessionForAgent (hk : m.Keyed collate)
    (agentId : AgentId) (apiToken : String) (gameId : Option GameId)
    (now : Int) :
    Moves l collate m
      (m.triesResume collate l verifyToken agentId apiToken gameId now
        = true)
      (m.tryResumeSessionForAgent collate l verifyToken agentId apiToken
        gameId now).1 := by
  unfold tryResumeSessionForAgent triesResume
  cases hs : m.resumable collate agentId gameId now with
  | none => exact .fewer (by simp) hk (Nat.le_refl _)
  | some s =>
    dsimp only
    obtain ⟨hmem, hfound⟩ := Sql.mem_of_latest hs
    simp only [Bool.and_eq_true, beq_iff_eq] at hfound
    have hcounted := hk.update (hasId collate s.sessionId) now
      (f := fun u => { u with resumeAttempts := s.resumeAttempts + 1 })
      fun _ => rfl
    split
    case isTrue hfails =>
      refine Moves.update hk ?_ _ now (fun _ => rfl) fun u _ hu => hu
      simp only [Bool.or_eq_true, decide_eq_true_eq,
        Bool.not_eq_true'] at hfails
      simp only [Bool.and_eq_true, decide_eq_true_eq, not_and,
        Bool.not_eq_true]
      intro hle
      rcases hfails with hmax | hverify
      · omega
      · exact hverify
    case isFalse hpasses =>
      simp only [Bool.or_eq_true, decide_eq_true_eq,
        Bool.not_eq_true', not_or, Nat.not_lt,
        Bool.not_eq_false] at hpasses
      -- the row after its attempts were counted
      have hcount : (m.update (hasId collate s.sessionId) (fun u =>
          { u with resumeAttempts := s.resumeAttempts + 1 })
          now).activeCount = m.activeCount :=
        Sql.count_update_eq fun u _ _ => by
          rw [isActive_stamped]
          rfl
      have hrow := Sql.mem_update_iff
        (p := hasId collate s.sessionId)
        (f := stamped now fun u =>
          { u with resumeAttempts := s.resumeAttempts + 1 }).mpr
        ⟨s, hmem, rfl⟩
      rw [if_pos (by simp [hasId])] at hrow
      have hid := stamped_sessionId now
        (f := fun u => { u with resumeAttempts := s.resumeAttempts + 1 })
        (fun _ => rfl) s
      have hactive := isActive_stamped now
        (fun u => { u with resumeAttempts := s.resumeAttempts + 1 }) s
      have hone := activeCount_update_one hcounted hrow
        (by
          rw [hactive]
          simp [isActive, hfound.1.2])
        now (f := fun u => { u with
          state := .active
          lastActivity := now
          connectionCount := s.connectionCount + 1
          resumeAttempts := 0 }) fun _ => rfl
      rw [hid, hcount] at hone
      refine .resume ?_ (hcounted.update _ now fun _ => rfl) hone
      simp only [Bool.and_eq_true, decide_eq_true_eq]
      exact ⟨hpasses.1, hpasses.2⟩

def callResumes (collate : String → String) (l : SessionLimits)
    (verifyToken : String → String → Bool) (m : MySQLSessionManager)
    (now : Int) : SessionCall → Bool
  | .resumeSession sessionId => m.resumes collate sessionId now
  | .tryResumeSessionForAgent agentId apiToken gameId =>
    m.triesResume collate l verifyToken agentId apiToken gameId now
  | _ => false

theorem moves_call (hk : m.Keyed collate) (now : Int) (c : SessionCall) :
    Moves l collate m (m.callResumes collate l verifyToken now c = true)
      ((mysqlBackend l verifyToken collate).call m now c).1 := by
  have hsame : Moves l collate m (false = true) m :=
    .fewer (by simp) hk (Nat.le_refl _)
  cases c with
  | resumeSession sessionId => exact moves_resumeSession hk sessionId now
  | tryResumeSessionForAgent agentId apiToken gameId =>
    exact moves_tryResumeSessionForAgent hk agentId apiToken gameId now
  | createSession agentId gameId sessionId hash =>
    have hm := moves_createSession (l := l) hk agentId gameId sessionId
      hash now
    simpa [callResumes, mysqlBackend] using hm
  | getSessionByAgent agentId => exact hsame
  | validateSession sessionId apiToken =>
    show Moves l collate m (false = true)
      (m.validateSession collate verifyToken sessionId apiToken now).1
    unfold validateSession
    split
    · exact hsame
    · split
      · exact hsame
      · split
        · exact .update hk (by simp) _ now (fun _ => rfl)
            fun s _ hs => by simp [isActive, setState] at hs
        · split
          · exact hsame
          · exact .update hk (by simp) _ now (fun _ => rfl)
              fun s _ hs => hs
  | updateSessionActivity sessionId | extendSession sessionId seconds =>
    exact .update hk (by simp [callResumes]) _ now (fun _ => rfl)
      fun s _ hs => hs
  | terminateSession sessionId =>
    show Moves l collate m (false = true)
      (m.terminateSession collate sessionId now).1
    unfold terminateSession
    split
    · exact hsame
    · exact .update hk (by simp) _ now (fun _ => rfl)
        fun s _ hs => by simp [isActive, setState] at hs
  | terminateAgentSession agentId =>
    exact .update hk (by simp [callResumes]) _ now (fun _ => rfl)
      fun s _ hs => by simp [isActive, setState] at hs
  | suspendSession sessionId =>
    exact .update hk (by simp [callResumes]) _ now (fun _ => rfl)
      fun s _ hs => by simp [isActive] at hs
  | cleanupExpiredSessions =>
    show Moves l collate m (false = true)
      (m.cleanupExpiredSessions l now)
    unfold cleanupExpiredSessions
    split
    · exact hsame
    · exact .fewer (by simp) (Sql.nodup_delete hk _)
        (Sql.count_delete_le _ _ _)

/-- Nothing is resumed while the maximum is active. -/
def ResumesWithRoom (l : SessionLimits)
    (verifyToken : String → String → Bool) (collate : String → String)
    (s : BackendRun MySQLSessionManager) : BackendAct → Prop
  | .tick _ => True
  | .call c =>
    s.backend.callResumes collate l verifyToken s.now c = true →
      s.backend.activeCount < l.maxConcurrentSessions

def WithinLimit (l : SessionLimits) (s : BackendRun MySQLSessionManager) :
    Prop :=
  s.backend.activeCount ≤ l.maxConcurrentSessions

theorem withinLimit_step_iff {s s' : BackendRun MySQLSessionManager}
    {a : BackendAct} (hw : WithinLimit l s)
    (hk : s.backend.Keyed collate)
    (hstep : (mysqlBackend l verifyToken collate).runs.step s a
      = some s') :
    (WithinLimit l s' ↔ ResumesWithRoom l verifyToken collate s a)
      ∧ s'.backend.Keyed collate := by
  unfold WithinLimit at *
  cases a with
  | tick n =>
    cases hstep
    exact ⟨iff_of_true hw trivial, hk⟩
  | call c =>
    simp only [SessionManagerBackend.runs] at hstep
    split at hstep
    case isTrue => cases hstep
    case isFalse =>
      cases hstep
      have hm : Moves l collate s.backend
          (s.backend.callResumes collate l verifyToken s.now c = true) _ :=
        moves_call hk s.now c
      simp only [ResumesWithRoom]
      generalize ((mysqlBackend l verifyToken collate).call s.backend
        s.now c).1 = m' at hm ⊢
      cases hm with
      | fewer hr hk' hle | create hr hk' hroom hle =>
        exact ⟨iff_of_true (by omega) fun h => absurd h hr, hk'⟩
      | resume hr hk' heq =>
        refine ⟨?_, hk'⟩
        rw [heq]
        exact ⟨fun h _ => by omega, fun h => by
          have hroom := h hr
          omega⟩

end MySQLSessionManager

-- ==== both backends

open MySQLSessionManager (ResumesWithRoom WithinLimit)

/-- The in-memory backend never has more active sessions than the
maximum; the MySQL backend does not in exactly the runs in which no
session is resumed while the maximum is active. -/
theorem active_sessions_limited (l : SessionLimits)
    (verifyToken : String → String → Bool) (collate : String → String)
    (now : Int) (acts : List BackendAct) :
    ((inMemoryBackend l verifyToken).runs.Always
        (fun s => s.backend.toSessionTables.activeCount
          ≤ l.maxConcurrentSessions)
        ⟨(inMemoryBackend l verifyToken).start now, now, []⟩ acts)
    ∧ ((mysqlBackend l verifyToken collate).runs.Always (WithinLimit l)
          ⟨(mysqlBackend l verifyToken collate).start now, now, []⟩ acts
        ↔ (mysqlBackend l verifyToken collate).runs.Along
            (ResumesWithRoom l verifyToken collate)
            ⟨(mysqlBackend l verifyToken collate).start now, now, []⟩
            acts) := by
  constructor
  · have hinit : (inMemoryBackend l verifyToken).runs.Reach
        ⟨(inMemoryBackend l verifyToken).start now, now, []⟩ :=
      .init ⟨rfl, rfl⟩
    refine Lts.Reach.always (fun s hs => ?_) hinit acts
    exact Nat.le_trans s.backend.toSessionTables.activeCount_le_size
      (InMemorySessionManager.reach_size_le hs)
  · have hempty : MySQLSessionManager.Keyed collate
        ((mysqlBackend l verifyToken collate).start now) := List.nodup_nil
    refine Lts.always_iff_along_of
      (J := fun s : BackendRun MySQLSessionManager =>
        s.backend.Keyed collate) ?_ ?_ (Nat.zero_le _) hempty acts
    · intro s a s' hw hk hstep
      exact (MySQLSessionManager.withinLimit_step_iff hw hk hstep).1
    · intro s a s' hw hk _ hstep
      exact (MySQLSessionManager.withinLimit_step_iff hw hk hstep).2

/-- Suspended, replaced, resumed: with room for one session two are
active. -/
theorem active_sessions_not_limited :
    let l := { SessionLimits.default with maxConcurrentSessions := 1 }
    let backend := mysqlBackend l (fun token hash => token == hash) id
    ∃ s, backend.runs.exec ⟨backend.start 0, 0, []⟩
        [.call (.createSession "alice" none "sess_1" (some "a")),
          .call (.suspendSession "sess_1"),
          .call (.createSession "bob" none "sess_2" (some "b")),
          .tick 60,
          .call (.tryResumeSessionForAgent "alice" "a" none)] = some s
      ∧ l.maxConcurrentSessions < s.backend.activeCount :=
  ⟨_, rfl, by decide⟩

end Freeciv3d.Proxy
