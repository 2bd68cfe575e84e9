/-
What a reconnecting agent gets of its last session, and what a rejected
connection leaves behind.

# Watching a run

The claim speaks of the connection that closed last, so a run is
watched (`Watched`): beside the manager stands, for each agent that has
not connected since, its last closed connection as it was when it
closed. The watch reads the manager and never changes it.

# Why the cache can be trusted

Once a connection is cached, nobody writes its fields: `update_agent_auth`
reaches only connections in the index, and a removal takes the
connection out of it first (`Trusted`). What is lost is lost on the way
back: the port is not copied, and a session leaves the cache before the
limit is checked.
-/
import Freeciv3d.Gateway.Proofs.ConnectionIndex

namespace Freeciv3d.Gateway

open Lib

/-- An event of an agent; `closed` ends the close of a connection. -/
inductive SessionEvent where
  | connect (agentId : String) (now : Int)
  | auth (agentId : String) (playerId : Int) (gameId : Option String)
      (civserverPort : Option Int)
  | disconnect (id : ConnectionId) (now : Int)
  | closed (i : Nat) (ok : Bool) (now : Int)

def SessionEvent.act : SessionEvent → Act
  | connect agentId now => .addConnection .agent agentId now
  | auth agentId playerId gameId civserverPort =>
    .updateAgentAuth agentId playerId gameId civserverPort
  | disconnect id now => .handleDisconnect id now
  | closed i ok now => .resume i ok now

/-- The manager, and the last closed connection of each agent that has
not connected since, with the time of its end. -/
structure Watched where
  manager : ConnectionManager
  lastClosed : String → Option (ConnectionInfo × Int)

namespace ConnectionManager

/-- The limit check fails. -/
def Full (cfg : Settings) (s : ConnectionManager) (agentId : String) :
    Prop := cfg.maxConnectionsPerAgent ≤ (s.index agentId).card

instance (cfg : Settings) (s : ConnectionManager) (agentId : String) :
    Decidable (s.Full cfg agentId) :=
  inferInstanceAs (Decidable (_ ≤ _))

/-- The cached session of an agent, once its cooldown is over. -/
def cooled (cfg : Settings) (s : ConnectionManager) (agentId : String)
    (now : Int) : Option (ConnectionId × Int) :=
  (s.disconnectedSessions.get? agentId).bind fun id =>
    ((s.heap id).disconnectedAt.filter fun t =>
      cfg.minReconnectCooldownSecs ≤ now - t).map fun t => (id, t)

end ConnectionManager

/-- Every field a session has. -/
def ConnectionInfo.SameSession (i j : ConnectionInfo) : Prop :=
  i.sessionId = j.sessionId ∧ i.playerId = j.playerId ∧ i.gameId = j.gameId
    ∧ i.civserverPort = j.civserverPort ∧ i.authenticated = j.authenticated

instance (i j : ConnectionInfo) : Decidable (i.SameSession j) :=
  inferInstanceAs (Decidable (_ ∧ _))

namespace Watched

def watch (cfg : Settings) (w : Watched) :
    SessionEvent → String → Option (ConnectionInfo × Int)
  | .connect agentId _ =>
    if w.manager.Full cfg agentId then w.lastClosed
    else Function.update w.lastClosed agentId none
  | .disconnect id now =>
    if id ∈ w.manager.connections then
      Function.update w.lastClosed (w.manager.heap id).identifier
        (some (w.manager.heap id, now))
    else w.lastClosed
  | _ => w.lastClosed

/-- The runs of agents that connect, are authenticated and
disconnect. -/
def sessions (cfg : Settings) : Lts Watched SessionEvent where
  init w := (∃ heap, w.manager = .init heap) ∧ w.lastClosed = fun _ => none
  step w e := (w.manager.apply cfg e.act).map fun m => ⟨m, w.watch cfg e⟩

/-- The last closed connection of an agent, if it was authenticated and
is in the window for resumption. -/
def awaiting (cfg : Settings) (w : Watched) (agentId : String)
    (now : Int) : Option ConnectionInfo :=
  ((w.lastClosed agentId).filter fun e => e.1.authenticated
    && decide (cfg.minReconnectCooldownSecs ≤ now - e.2
      ∧ now - e.2 ≤ cfg.sessionResumptionWindow)).map Prod.fst

/-- A connection carries the session that awaits it, and a rejected one
changes nothing. -/
def Resumes (cfg : Settings) (w : Watched) : SessionEvent → Prop
  | .connect agentId now =>
    let m := w.manager.addConnection cfg .agent agentId now
    if w.manager.nextId ∈ m.connections then
      ∀ info ∈ w.awaiting cfg agentId now,
        (m.heap w.manager.nextId).SameSession info
    else m.connections = w.manager.connections
      ∧ m.agentConnections = w.manager.agentConnections
      ∧ m.disconnectedSessions = w.manager.disconnectedSessions
  | _ => True

/-- The session that awaits a connection has no port, and a connection
is rejected only while no session is cached that is out of its
cooldown. -/
def NothingToLose (cfg : Settings) (w : Watched) : SessionEvent → Prop
  | .connect agentId now =>
    if w.manager.Full cfg agentId then
      w.manager.cooled cfg agentId now = none
    else ∀ info ∈ w.awaiting cfg agentId now, info.civserverPort = none
  | _ => True

instance (cfg : Settings) (w : Watched) (e : SessionEvent) :
    Decidable (w.Resumes cfg e) :=
  match e with
  | .connect _ _ => inferInstanceAs (Decidable (ite _ _ _))
  | .auth _ _ _ _ => isTrue trivial
  | .disconnect _ _ => isTrue trivial
  | .closed _ _ _ => isTrue trivial

theorem mem_awaiting {cfg : Settings} {w : Watched} {agentId : String}
    {now : Int} {info : ConnectionInfo}
    (h : info ∈ w.awaiting cfg agentId now) :
    ∃ t, w.lastClosed agentId = some (info, t)
      ∧ cfg.minReconnectCooldownSecs ≤ now - t
      ∧ now - t ≤ cfg.sessionResumptionWindow := by
  obtain ⟨⟨i, t⟩, hf, rfl⟩ := Option.map_eq_some_iff.mp (Option.mem_def.mp h)
  obtain ⟨hlast, hcond⟩ := Option.filter_eq_some_iff.mp hf
  simp only [Bool.and_eq_true, decide_eq_true_eq] at hcond
  exact ⟨t, hlast, hcond.2⟩

end Watched

-- ==== one connection

namespace ConnectionManager

variable {cfg : Settings} {s : ConnectionManager} {agentId : String}
  {now : Int}

theorem checkResumable_of_none (h : s.cooled cfg agentId now = none) :
    s.checkResumableSession cfg agentId now = (s, none) := by
  unfold checkResumableSession
  unfold cooled at h
  split
  · rfl
  next cached hc =>
    rw [hc] at h
    split
    · rfl
    next t ht =>
      simp only [Option.bind_some, ht] at h
      rw [if_pos]
      by_contra hcool
      simp [Option.filter, Int.not_lt.mp hcool] at h

theorem checkResumable_of_some {id : ConnectionId} {t : Int}
    (h : s.cooled cfg agentId now = some (id, t)) :
    s.disconnectedSessions.get? agentId = some id
      ∧ (s.heap id).disconnectedAt = some t
      ∧ s.checkResumableSession cfg agentId now
        = if now - t ≤ cfg.sessionResumptionWindow then (s, some id)
          else ({ s with disconnectedSessions :=
            s.disconnectedSessions.erase agentId }, none) := by
  obtain ⟨cached, hc, hmap⟩ := Option.bind_eq_some_iff.mp h
  obtain ⟨t', ht', heq⟩ := Option.map_eq_some_iff.mp hmap
  cases heq
  obtain ⟨hat, hcool⟩ := Option.filter_eq_some_iff.mp ht'
  have hcool' : ¬ now - t < cfg.minReconnectCooldownSecs := by
    have := of_decide_eq_true hcool
    omega
  refine ⟨hc, hat, ?_⟩
  unfold checkResumableSession
  simp only [hc, hat, hcool', if_false]

theorem createInfo_sessions (s : ConnectionManager) (cfg : Settings)
    (t : ConnectionType) (agentId : String) (now : Int) :
    (s.createInfo cfg t agentId now).disconnectedSessions
      = if (s.cooled cfg agentId now).isSome then
          s.disconnectedSessions.erase agentId
        else s.disconnectedSessions := by
  unfold createInfo
  cases hc : s.cooled cfg agentId now with
  | none => rw [checkResumable_of_none hc]; rfl
  | some e =>
    rw [(checkResumable_of_some hc).2.2]
    by_cases hw : now - e.2 ≤ cfg.sessionResumptionWindow
    · rw [if_pos hw]
      rfl
    · rw [if_neg hw]
      rfl

theorem createInfo_resumed {id : ConnectionId} {t : Int}
    (hc : s.cooled cfg agentId now = some (id, t))
    (hw : now - t ≤ cfg.sessionResumptionWindow) :
    (s.createInfo cfg .agent agentId now).heap s.nextId
      = { connectionType := .agent, identifier := agentId
          sessionId := (s.heap id).sessionId, lastSeen := now
          authenticated := (s.heap id).authenticated
          playerId := (s.heap id).playerId, gameId := (s.heap id).gameId
          civserverPort := none, disconnectedAt := none } := by
  unfold createInfo
  rw [(checkResumable_of_some hc).2.2, if_pos hw]
  exact Function.update_self ..

theorem full_iff : (s.agentConnections.contains agentId
      && decide (cfg.maxConnectionsPerAgent
        ≤ ((s.agentConnections.get? agentId).getD ∅).card)) = true
    ↔ s.Full cfg agentId := by
  unfold Full index Dict.contains
  have hone := cfg.one_le_max
  cases s.agentConnections.get? agentId with
  | none =>
    simp only [Option.isSome_none, Bool.false_and, Option.getD_none,
      Finset.card_empty]
    constructor
    · intro h
      cases h
    · intro h
      omega
  | some ids => simp

theorem addConnection_full (h : s.Full cfg agentId) :
    s.addConnection cfg .agent agentId now
      = (s.createInfo cfg .agent agentId now).raise
        (tooManyConnections agentId) := by
  obtain ⟨-, -, ha, -⟩ := s.createInfo_frame cfg .agent agentId now
  unfold addConnection
  simp only [ha]
  rw [if_pos (full_iff.mpr h)]

theorem addConnection_accepted (h : ¬ s.Full cfg agentId) :
    s.addConnection cfg .agent agentId now
      = { s.createInfo cfg .agent agentId now with
          agentConnections := s.agentConnections.set agentId
            (insert s.nextId (s.index agentId))
          connections := s.connections ++ [s.nextId] } := by
  obtain ⟨hc, -, ha, -⟩ := s.createInfo_frame cfg .agent agentId now
  unfold addConnection
  simp only [ha, hc]
  rw [if_neg (fun h' => h (full_iff.mp h'))]
  rfl

/-- An agent's connection ends: its session is cached, and it leaves the
index before its close. -/
theorem handleDisconnect_agent {id : ConnectionId} (now : Int)
    (hi : s.Indexed cfg) (hid : id ∈ s.connections)
    (hagent : (s.heap id).connectionType = .agent) :
    let m := s.handleDisconnect id now
    m.heap = Function.update s.heap id
        { s.heap id with disconnectedAt := some now }
      ∧ m.disconnectedSessions
        = s.disconnectedSessions.set (s.heap id).identifier id
      ∧ m.nextId = s.nextId ∧ m.connections = s.connections
      ∧ m.tasks = s.tasks ++ [.closing id]
      ∧ ∀ b c, c ∈ m.index b ↔ c ∈ s.index b ∧ c ≠ id := by
  have hcleanup := hi.of_agree (s.agree_cleanupDisconnect id now)
  have hc : (s.cleanupDisconnect id now).connections = s.connections :=
    (s.agree_cleanupDisconnect id now).connections
  have ha : (s.cleanupDisconnect id now).agentConnections
      = s.agentConnections := (s.agree_cleanupDisconnect id now).agentConnections
  have heq : s.cleanupDisconnect id now
      = { s.modifyInfo id fun i => { i with disconnectedAt := some now } with
          disconnectedSessions :=
            s.disconnectedSessions.set (s.heap id).identifier id } := by
    unfold cleanupDisconnect
    rw [hagent]
    rfl
  have hd : s.handleDisconnect id now
      = ((s.cleanupDisconnect id now).beginRemove id).spawn (.closing id) := by
    unfold handleDisconnect removeConnection
    rw [if_pos hid, hc, if_pos hid]
  obtain ⟨hbc, hbn, hbh, hbt⟩ :=
    (s.cleanupDisconnect id now).beginRemove_frame id
  have hbd : ((s.cleanupDisconnect id now).beginRemove id).disconnectedSessions
      = (s.cleanupDisconnect id now).disconnectedSessions := by
    unfold beginRemove
    split <;> rfl
  rw [hd]
  refine ⟨?_, ?_, ?_, ?_, ?_, ?_⟩
  · show ((s.cleanupDisconnect id now).beginRemove id).heap = _
    rw [hbh, heq]
    rfl
  · show ((s.cleanupDisconnect id now).beginRemove id).disconnectedSessions = _
    rw [hbd, heq]
  · show ((s.cleanupDisconnect id now).beginRemove id).nextId = _
    rw [hbn, heq]
    rfl
  · show ((s.cleanupDisconnect id now).beginRemove id).connections = _
    rw [hbc, hc]
  · show ((s.cleanupDisconnect id now).beginRemove id).tasks ++ _ = _
    rw [hbt, heq]
    rfl
  · intro b c
    show c ∈ ((s.cleanupDisconnect id now).beginRemove id).index b ↔ _
    rw [mem_index_beginRemove hcleanup]
    unfold index
    rw [ha]

end ConnectionManager

-- ==== the invariant

namespace Watched

open ConnectionManager

/-- The cache holds what the watch has seen, and nobody writes to it. -/
structure Trusted (cfg : Settings) (w : Watched) : Prop where
  indexed : w.manager.Indexed cfg
  closing : ∀ t ∈ w.manager.tasks, ∃ id, t = .closing id
  agents : ∀ id ∈ w.manager.connections,
    (w.manager.heap id).connectionType = .agent
  cached : ∀ a id, w.manager.disconnectedSessions.get? a = some id →
    id < w.manager.nextId ∧ (w.manager.heap id).identifier = a
      ∧ ∀ b, id ∉ w.manager.index b
  last : ∀ a info t, w.lastClosed a = some (info, t) →
    ∃ id, w.manager.disconnectedSessions.get? a = some id
      ∧ (w.manager.heap id).SameSession info
      ∧ (w.manager.heap id).disconnectedAt = some t

variable {cfg : Settings} {w : Watched} {agentId : String} {now : Int}

/-- A step that caches nothing: it may forget sessions, and touches no
cached object. -/
theorem Trusted.of_frame (h : w.Trusted cfg) {m : ConnectionManager}
    {last : String → Option (ConnectionInfo × Int)} (hi : m.Indexed cfg)
    (hclosing : ∀ t ∈ m.tasks, ∃ id, t = .closing id)
    (hagents : ∀ id ∈ m.connections, (m.heap id).connectionType = .agent)
    (hnext : w.manager.nextId ≤ m.nextId)
    (hcached : ∀ a id, m.disconnectedSessions.get? a = some id →
      w.manager.disconnectedSessions.get? a = some id)
    (hlast : ∀ a e, last a = some e → w.lastClosed a = some e
      ∧ m.disconnectedSessions.get? a
        = w.manager.disconnectedSessions.get? a)
    (hheap : ∀ a id, w.manager.disconnectedSessions.get? a = some id →
      m.heap id = w.manager.heap id)
    (hindex : ∀ b id, id ∈ m.index b →
      id ∈ w.manager.index b ∨ id = w.manager.nextId) :
    Trusted cfg ⟨m, last⟩ where
  indexed := hi
  closing := hclosing
  agents := hagents
  cached a id hid := by
    obtain ⟨hlt, hident, hno⟩ := h.cached a id (hcached a id hid)
    refine ⟨Nat.lt_of_lt_of_le hlt hnext, ?_, ?_⟩
    · show (m.heap id).identifier = a
      rw [hheap a id (hcached a id hid)]
      exact hident
    · intro b hb
      rcases hindex b id hb with hold | hnew
      · exact hno b hold
      · rw [hnew] at hlt
        exact Nat.lt_irrefl _ hlt
  last a info t hl := by
    obtain ⟨hold, hsame⟩ := hlast a (info, t) hl
    obtain ⟨id, hid, hsession, hat⟩ := h.last a info t hold
    refine ⟨id, hsame.trans hid, ?_, ?_⟩
    · show (m.heap id).SameSession info
      rw [hheap a id hid]
      exact hsession
    · show (m.heap id).disconnectedAt = some t
      rw [hheap a id hid]
      exact hat

-- ==== the steps

theorem heap_createInfo {id : ConnectionId} (hid : id < w.manager.nextId) :
    (w.manager.createInfo cfg .agent agentId now).heap id
      = w.manager.heap id := by
  obtain ⟨-, -, -, -, hheap, -⟩ :=
    w.manager.createInfo_frame cfg .agent agentId now
  exact hheap id (Nat.ne_of_lt hid)

theorem Trusted.agents_createInfo (h : w.Trusted cfg) {id : ConnectionId}
    (hid : id ∈ w.manager.connections ∨ id = w.manager.nextId) :
    ((w.manager.createInfo cfg .agent agentId now).heap id).connectionType
      = .agent := by
  obtain ⟨-, -, -, -, -, htype, -⟩ :=
    w.manager.createInfo_frame cfg .agent agentId now
  rcases hid with hold | rfl
  · rw [heap_createInfo (h.indexed.fresh id hold)]
    exact h.agents id hold
  · exact htype

theorem Trusted.rejected (h : w.Trusted cfg)
    (hfull : w.manager.Full cfg agentId)
    (hcool : w.manager.cooled cfg agentId now = none) :
    Trusted cfg
      ⟨w.manager.addConnection cfg .agent agentId now, w.lastClosed⟩ := by
  obtain ⟨hc, hn, ha, ht, -⟩ :=
    w.manager.createInfo_frame cfg .agent agentId now
  have hd := w.manager.createInfo_sessions cfg .agent agentId now
  rw [hcool, Option.isSome_none] at hd
  have hi : (w.manager.addConnection cfg .agent agentId now).Indexed cfg :=
    h.indexed.addConnection .agent agentId
  rw [addConnection_full hfull] at *
  refine h.of_frame hi ?_ ?_ ?_ ?_ ?_ ?_ ?_
  · intro t htm
    exact h.closing t (ht ▸ htm)
  · intro id hid
    exact h.agents_createInfo (Or.inl (hc ▸ hid))
  · show w.manager.nextId
      ≤ (w.manager.createInfo cfg .agent agentId now).nextId
    rw [hn]
    exact Nat.le_succ _
  · intro a id hid
    change (w.manager.createInfo cfg .agent agentId
      now).disconnectedSessions.get? a = _ at hid
    rw [hd] at hid
    exact hid
  · intro a e he
    refine ⟨he, ?_⟩
    show (w.manager.createInfo cfg .agent agentId
      now).disconnectedSessions.get? a = _
    rw [hd]
    rfl
  · intro a id hid
    exact heap_createInfo (h.cached a id hid).1
  · intro b id hid
    refine Or.inl ?_
    change id ∈ (w.manager.createInfo cfg .agent agentId now).index b at hid
    unfold index at hid
    rw [ha] at hid
    exact hid

theorem Trusted.accepted (h : w.Trusted cfg)
    (hfull : ¬ w.manager.Full cfg agentId) :
    Trusted cfg ⟨w.manager.addConnection cfg .agent agentId now,
      Function.update w.lastClosed agentId none⟩ := by
  obtain ⟨hc, hn, ha, ht, -⟩ :=
    w.manager.createInfo_frame cfg .agent agentId now
  have hd := w.manager.createInfo_sessions cfg .agent agentId now
  have hi : (w.manager.addConnection cfg .agent agentId now).Indexed cfg :=
    h.indexed.addConnection .agent agentId
  rw [addConnection_accepted hfull] at *
  refine h.of_frame hi ?_ ?_ ?_ ?_ ?_ ?_ ?_
  · intro t htm
    exact h.closing t (ht ▸ htm)
  · intro id hid
    refine h.agents_createInfo ?_
    rcases List.mem_append.mp hid with hold | hnew
    · exact Or.inl hold
    · exact Or.inr (List.mem_singleton.mp hnew)
  · show w.manager.nextId
      ≤ (w.manager.createInfo cfg .agent agentId now).nextId
    rw [hn]
    exact Nat.le_succ _
  · intro a id hid
    change (w.manager.createInfo cfg .agent agentId
      now).disconnectedSessions.get? a = _ at hid
    rw [hd] at hid
    split at hid
    · by_cases hag : a = agentId
      · rw [hag, Dict.get?_erase_self] at hid
        cases hid
      · rw [Dict.get?_erase_of_ne _ hag] at hid
        exact hid
    · exact hid
  · intro a e he
    by_cases hag : a = agentId
    · rw [hag, Function.update_self] at he
      cases he
    · rw [Function.update_of_ne hag] at he
      refine ⟨he, ?_⟩
      show (w.manager.createInfo cfg .agent agentId
        now).disconnectedSessions.get? a = _
      rw [hd]
      split
      · exact Dict.get?_erase_of_ne _ hag
      · rfl
  · intro a id hid
    exact heap_createInfo (h.cached a id hid).1
  · intro b id hid
    change id ∈ ((w.manager.agentConnections.set agentId (insert
      w.manager.nextId (w.manager.index agentId))).get? b).getD ∅ at hid
    by_cases hb : b = agentId
    · rw [hb, Dict.get?_set_self, Option.getD_some, Finset.mem_insert] at hid
      rw [hb]
      exact hid.symm
    · rw [Dict.get?_set_of_ne _ _ hb] at hid
      exact Or.inl hid

theorem Trusted.auth (h : w.Trusted cfg) (playerId : Int)
    (gameId : Option String) (port : Option Int) :
    Trusted cfg ⟨w.manager.updateAgentAuth agentId playerId gameId port,
      w.lastClosed⟩ := by
  have hagree := w.manager.agree_updateAgentAuth agentId playerId gameId port
  refine h.of_frame (h.indexed.of_agree hagree) h.closing ?_ (Nat.le_refl _)
    (fun _ _ hid => hid) (fun _ _ he => ⟨he, rfl⟩) ?_
    (fun _ _ hid => Or.inl hid)
  · intro id hid
    rw [(hagree.heap id).1]
    exact h.agents id hid
  · intro a id hid
    show ite _ _ _ = _
    rw [if_neg]
    rintro ⟨hin, -⟩
    exact (h.cached a id hid).2.2 agentId hin

theorem Trusted.closed (h : w.Trusted cfg) {i : Nat} {ok : Bool}
    {m : ConnectionManager}
    (hm : w.manager.apply cfg (.resume i ok now) = some m) :
    Trusted cfg ⟨m, w.lastClosed⟩ := by
  have hi : m.Indexed cfg := h.indexed.step (a := .resume i ok now) hm
  obtain ⟨t, ht, rfl⟩ := Option.map_eq_some_iff.mp hm
  obtain ⟨id, rfl⟩ := h.closing t (List.mem_of_getElem? ht)
  have hleft : ∀ t ∈ w.manager.tasks.eraseIdx i, ∃ id, t = .closing id :=
    fun t htm => h.closing t (List.mem_of_mem_eraseIdx htm)
  simp only [ConnectionManager.resume, delConnection] at *
  by_cases hid : id ∈ w.manager.connections
  · simp only [hid, if_true] at *
    exact h.of_frame hi hleft
      (fun c hc => h.agents c (List.mem_of_mem_erase hc)) (Nat.le_refl _)
      (fun _ _ hc => hc) (fun _ _ he => ⟨he, rfl⟩) (fun _ _ _ => rfl)
      (fun _ _ hc => Or.inl hc)
  · simp only [hid, if_false] at *
    exact h.of_frame hi hleft h.agents (Nat.le_refl _) (fun _ _ hc => hc)
      (fun _ _ he => ⟨he, rfl⟩) (fun _ _ _ => rfl) (fun _ _ hc => Or.inl hc)

theorem Trusted.disconnected (h : w.Trusted cfg) {id : ConnectionId}
    (hid : id ∈ w.manager.connections) :
    Trusted cfg ⟨w.manager.handleDisconnect id now,
      Function.update w.lastClosed (w.manager.heap id).identifier
        (some (w.manager.heap id, now))⟩ := by
  obtain ⟨hheap, hd, hn, hc, ht, hindex⟩ := handleDisconnect_agent
    now h.indexed hid (h.agents id hid)
  have hfields : ∀ c, ((w.manager.handleDisconnect id now).heap c).identifier
        = (w.manager.heap c).identifier
      ∧ ((w.manager.handleDisconnect id now).heap c).connectionType
        = (w.manager.heap c).connectionType := by
    intro c
    rw [hheap]
    by_cases hcid : c = id
    · subst hcid
      simp
    · simp [Function.update_of_ne hcid]
  -- the other cached objects are not this one: they have other agents
  have hother : ∀ a c, a ≠ (w.manager.heap id).identifier →
      (w.manager.handleDisconnect id now).disconnectedSessions.get? a = some c →
      w.manager.disconnectedSessions.get? a = some c
        ∧ (w.manager.handleDisconnect id now).heap c = w.manager.heap c := by
    intro a c ha hca
    rw [hd, Dict.get?_set_of_ne _ _ ha] at hca
    refine ⟨hca, ?_⟩
    rw [hheap, Function.update_of_ne]
    rintro rfl
    exact ha (h.cached a c hca).2.1.symm
  refine ⟨h.indexed.handleDisconnect, ?_, ?_, ?_, ?_⟩
  · intro t htm
    change t ∈ (w.manager.handleDisconnect id now).tasks at htm
    rw [ht] at htm
    rcases List.mem_append.mp htm with hold | hnew
    · exact h.closing t hold
    · exact ⟨id, List.mem_singleton.mp hnew⟩
  · intro c hcm
    change c ∈ (w.manager.handleDisconnect id now).connections at hcm
    rw [hc] at hcm
    rw [(hfields c).2]
    exact h.agents c hcm
  · intro a c hca
    rw [(hfields c).1]
    show c < (w.manager.handleDisconnect id now).nextId ∧ _
    rw [hn]
    by_cases ha : a = (w.manager.heap id).identifier
    · rw [ha] at hca ⊢
      change (w.manager.handleDisconnect id now).disconnectedSessions.get? _
        = _ at hca
      rw [hd, Dict.get?_set_self] at hca
      cases hca
      exact ⟨h.indexed.fresh id hid, rfl,
        fun b hb => ((hindex b id).mp hb).2 rfl⟩
    · obtain ⟨hlt, hident, hno⟩ := h.cached a c (hother a c ha hca).1
      exact ⟨hlt, hident, fun b hb => hno b ((hindex b c).mp hb).1⟩
  · intro a info t hl
    by_cases ha : a = (w.manager.heap id).identifier
    · rw [ha] at hl ⊢
      change Function.update _ _ _ _ = _ at hl
      rw [Function.update_self] at hl
      cases hl
      refine ⟨id, ?_, ?_, ?_⟩
      · show (w.manager.handleDisconnect id now).disconnectedSessions.get? _ = _
        rw [hd, Dict.get?_set_self]
      · show ((w.manager.handleDisconnect id now).heap id).SameSession _
        rw [hheap, Function.update_self]
        exact ⟨rfl, rfl, rfl, rfl, rfl⟩
      · show ((w.manager.handleDisconnect id now).heap id).disconnectedAt = _
        rw [hheap, Function.update_self]
    · change Function.update _ _ _ _ = _ at hl
      rw [Function.update_of_ne ha] at hl
      obtain ⟨c, hca, hsession, hat⟩ := h.last a info t hl
      have hget : (w.manager.handleDisconnect id now).disconnectedSessions.get? a
          = some c := by
        rw [hd, Dict.get?_set_of_ne _ _ ha]
        exact hca
      refine ⟨c, hget, ?_, ?_⟩
      · show ((w.manager.handleDisconnect id now).heap c).SameSession info
        rw [(hother a c ha hget).2]
        exact hsession
      · show ((w.manager.handleDisconnect id now).heap c).disconnectedAt = _
        rw [(hother a c ha hget).2]
        exact hat

theorem Trusted.step (h : w.Trusted cfg) {e : SessionEvent} {w' : Watched}
    (hkeep : w.NothingToLose cfg e) (hs : (sessions cfg).step w e = some w') :
    w'.Trusted cfg := by
  obtain ⟨m, hm, rfl⟩ := Option.map_eq_some_iff.mp hs
  cases e with
  | connect agentId now =>
    cases hm
    by_cases hfull : w.manager.Full cfg agentId
    · simp only [NothingToLose, hfull, if_true] at hkeep
      simp only [watch, hfull, if_true]
      exact h.rejected hfull hkeep
    · simp only [watch, hfull, if_false]
      exact h.accepted hfull
  | auth agentId playerId gameId port =>
    cases hm
    exact h.auth playerId gameId port
  | disconnect id now =>
    cases hm
    by_cases hid : id ∈ w.manager.connections
    · simp only [watch, hid, if_true]
      exact h.disconnected hid
    · simp only [watch, hid, if_false]
      unfold ConnectionManager.handleDisconnect
      rw [if_neg hid]
      exact h
  | closed i ok now => exact h.closed hm

-- ==== the main result

theorem Trusted.mem_connections (h : w.Trusted cfg) :
    w.manager.nextId
        ∈ (w.manager.addConnection cfg .agent agentId now).connections
      ↔ ¬ w.manager.Full cfg agentId := by
  obtain ⟨hc, -⟩ := w.manager.createInfo_frame cfg .agent agentId now
  by_cases hfull : w.manager.Full cfg agentId
  · rw [addConnection_full hfull]
    show w.manager.nextId
      ∈ (w.manager.createInfo cfg .agent agentId now).connections ↔ _
    rw [hc]
    constructor
    · intro hid
      exact absurd (h.indexed.fresh _ hid) (Nat.lt_irrefl _)
    · intro hno
      exact absurd hfull hno
  · rw [addConnection_accepted hfull]
    simp [hfull]

/-- A rejected connection changes nothing exactly when there is no
cooled session. -/
theorem rejected_unchanged_iff (hfull : w.manager.Full cfg agentId) :
    ((w.manager.addConnection cfg .agent agentId now).connections
          = w.manager.connections
        ∧ (w.manager.addConnection cfg .agent agentId now).agentConnections
          = w.manager.agentConnections
        ∧ (w.manager.addConnection cfg .agent agentId
            now).disconnectedSessions = w.manager.disconnectedSessions)
      ↔ w.manager.cooled cfg agentId now = none := by
  obtain ⟨hc, -, ha, -⟩ := w.manager.createInfo_frame cfg .agent agentId now
  have hd := w.manager.createInfo_sessions cfg .agent agentId now
  rw [addConnection_full hfull]
  cases hcool : w.manager.cooled cfg agentId now with
  | none =>
    rw [hcool] at hd
    exact ⟨fun _ => rfl, fun _ => ⟨hc, ha, hd⟩⟩
  | some e =>
    rw [hcool] at hd
    constructor
    · intro hall
      have hsame : (w.manager.createInfo cfg .agent agentId
        now).disconnectedSessions = w.manager.disconnectedSessions :=
        hall.2.2
      have hget := (checkResumable_of_some hcool).1
      rw [← hsame, hd, Option.isSome_some, if_pos rfl,
        Dict.get?_erase_self] at hget
      cases hget
    · intro hno
      cases hno

/-- An accepted connection gets all of the session that awaits it
exactly when that has no port. -/
theorem Trusted.resumed_iff (h : w.Trusted cfg)
    (hfull : ¬ w.manager.Full cfg agentId) {info : ConnectionInfo}
    (hawait : info ∈ w.awaiting cfg agentId now) :
    ((w.manager.addConnection cfg .agent agentId now).heap
        w.manager.nextId).SameSession info ↔ info.civserverPort = none := by
  obtain ⟨t, hlast, hcool, hwindow⟩ := mem_awaiting hawait
  obtain ⟨id, hid, hsession, hat⟩ := h.last agentId info t hlast
  have hcooled : w.manager.cooled cfg agentId now = some (id, t) := by
    unfold cooled
    rw [hid, Option.bind_some, hat]
    simp [Option.filter, hcool]
  obtain ⟨hsid, hplayer, hgame, hport, hauthed⟩ := hsession
  rw [addConnection_accepted hfull]
  show ((w.manager.createInfo cfg .agent agentId now).heap
    w.manager.nextId).SameSession info ↔ _
  rw [createInfo_resumed hcooled hwindow]
  constructor
  · intro hsame
    exact hsame.2.2.2.1.symm
  · intro hnone
    exact ⟨hsid, hplayer, hgame, hnone.symm, hauthed⟩

/-- One step resumes what awaits it exactly when there is nothing to
lose. -/
theorem Trusted.resumes_iff (h : w.Trusted cfg) (e : SessionEvent) :
    w.Resumes cfg e ↔ w.NothingToLose cfg e := by
  cases e with
  | connect agentId now =>
    by_cases hfull : w.manager.Full cfg agentId
    · have hmem : w.manager.nextId ∉
          (w.manager.addConnection cfg .agent agentId now).connections := by
        rw [h.mem_connections]
        exact not_not_intro hfull
      simp only [Resumes, NothingToLose, hmem, hfull, if_false, if_true]
      exact rejected_unchanged_iff hfull
    · have hmem : w.manager.nextId ∈
          (w.manager.addConnection cfg .agent agentId now).connections :=
        h.mem_connections.mpr hfull
      simp only [Resumes, NothingToLose, hmem, hfull, if_false, if_true]
      constructor
      · intro hall info hawait
        exact (h.resumed_iff hfull hawait).mp (hall info hawait)
      · intro hall info hawait
        exact (h.resumed_iff hfull hawait).mpr (hall info hawait)
  | auth | disconnect | closed => exact Iff.rfl

theorem trusted_init (hi : (sessions cfg).init w) : w.Trusted cfg := by
  obtain ⟨⟨heap, hm⟩, hl⟩ := hi
  obtain ⟨m, last⟩ := w
  change m = .init heap at hm
  change last = fun _ => none at hl
  subst hm
  subst hl
  refine ⟨indexed_init heap, ?_, ?_, ?_, ?_⟩
  · intro t ht
    cases ht
  · intro id hid
    cases hid
  · intro a id hid
    cases hid
  · intro a info t hl
    cases hl

/-- In a run from the start every connection resumes what awaits it,
and every rejected one changes nothing, exactly when no session that is
resumed has a port and none that is cooled stands by a rejection. -/
theorem sessions_resume_iff (cfg : Settings) (w : Watched)
    (hw : (sessions cfg).init w) (events : List SessionEvent) :
    (sessions cfg).Along (Resumes cfg) w events
      ↔ (sessions cfg).Along (NothingToLose cfg) w events :=
  Lts.along_iff_along_of (J := Trusted cfg)
    (fun _ e _ hj _ => hj.resumes_iff e)
    (fun _ _ _ hj hc hs => hj.step hc hs) (trusted_init hw) events

def unwatched : Watched := ⟨.init unusedInfo, fun _ => none⟩

theorem init_unwatched : (sessions defaultSettings).init unwatched :=
  ⟨⟨unusedInfo, rfl⟩, rfl⟩

/-- The theorem for an agent that comes back after ten seconds. -/
theorem sessions_resume_iff_return :
    (sessions defaultSettings).Along (Resumes defaultSettings) unwatched
        [.connect "alice" 100, .auth "alice" 0 (some "g1") none,
          .disconnect 0 200, .closed 0 true 200, .connect "alice" 210]
      ↔ (sessions defaultSettings).Along (NothingToLose defaultSettings)
        unwatched
        [.connect "alice" 100, .auth "alice" 0 (some "g1") none,
          .disconnect 0 200, .closed 0 true 200, .connect "alice" 210] :=
  sessions_resume_iff defaultSettings unwatched init_unwatched _

/-- An authenticated agent with a port comes back after ten seconds. -/
def returnWithPort : List SessionEvent :=
  [.connect "alice" 100, .auth "alice" 0 (some "g1") (some 6001),
    .disconnect 0 200, .closed 0 true 200, .connect "alice" 210]

/-- One of two connections of an agent ends, another takes its place
within the cooldown, and the next one is rejected. -/
def rejectedReturn : List SessionEvent :=
  [.connect "alice" 100, .connect "alice" 101, .disconnect 0 200,
    .closed 0 true 200, .connect "alice" 201, .connect "alice" 210]

/-- The port is not resumed, and the rejected connection has dropped the
session. -/
theorem port_and_session_lost :
    (sessions defaultSettings).init unwatched
      ∧ ¬ (sessions defaultSettings).Along (Resumes defaultSettings) unwatched
        returnWithPort
      ∧ ¬ (sessions defaultSettings).Along (Resumes defaultSettings) unwatched
        rejectedReturn :=
  ⟨init_unwatched, by decide +kernel, by decide +kernel⟩

end Watched

end Freeciv3d.Gateway
