/-
One agent a player slot: over every run whose steps are `Proper`, no
two agents of a game act as one player, and nobody becomes a player by
reconnection that it was not before.

# Who holds a slot

The holder of a slot is the agent it was assigned to last. The
invariant `Owned` says that every trace of a player id (an open
handler's, the claim of a handler still connecting, a session's, a
`/take`) names the holder. A reconnection through a session then claims
what its agent holds. The other two sources are not checked by the
code: a client may name any player id, and PACKET_CONN_INFO may bring
one that a trace of another agent still names; `Proper` excludes these,
and connections that change their agent or game.
-/
import Freeciv3d.Proxy.PlayerSlots
import Freeciv3d.Proxy.Proofs.LateClose

namespace Freeciv3d.Proxy

open Lib

-- ==== the statement

def holder (assigned : List Assignment) (gameId : GameId) (p : Int) :
    Option AgentId :=
  (assigned.find? fun x => x.gameId == gameId && x.playerId == p).map
    Assignment.agentId

/-- The previous player id of a handler still connecting. -/
def ConnectPhase.previous : ConnectPhase → Option Int
  | .idle => none
  | .identified _ previous => previous
  | .registering _ previous => previous

def SlotHandler.carried (e : SlotHandler) : List Assignment :=
  match e.agentId, e.gameId with
  | some agentId, some gameId =>
    ((if e.isOpen then e.playerId.toList else [])
      ++ e.phase.previous.toList).map fun p => ⟨gameId, p, agentId⟩
  | _, _ => []

def SessionInfo.carried (s : SessionInfo) : List Assignment :=
  match s.gameId with
  | some gameId =>
    if s.state = .active ∨ s.state = .suspended then
      s.playerId.toList.map fun p => ⟨gameId, p, s.agentId⟩
    else []
  | none => []

def SlotHandler.acts (e : SlotHandler) : List Assignment :=
  match e.agentId, e.gameId with
  | some agentId, some gameId =>
    if e.isOpen && e.isLlmAgent then
      e.playerId.toList.map fun p => ⟨gameId, p, agentId⟩
    else []
  | _, _ => []

namespace SlotWorld

def acting (w : SlotWorld) : List Assignment :=
  w.taken ++ w.handlers.values.flatMap SlotHandler.acts

/-- At most one agent of a game acts as a player, and nobody has become
a player by reconnection that it was not before. -/
def OneAgentPerSlot (w : SlotWorld) : Prop :=
  (∀ x ∈ w.acting, ∀ y ∈ w.acting, x.gameId = y.gameId →
    x.playerId = y.playerId → x.playerId < maxPlayerSlots →
      x.agentId = y.agentId)
    ∧ w.unearned = []

instance (w : SlotWorld) : Decidable w.OneAgentPerSlot :=
  inferInstanceAs (Decidable (_ ∧ _))

/-- Every trace of a player id in a handler or a session. -/
def carried (w : SlotWorld) : List Assignment :=
  w.handlers.values.flatMap SlotHandler.carried
    ++ w.sessions.sessions.values.flatMap SessionInfo.carried

/-- An `llm_connect` by the agent and for the game of the connection,
if it has any; a session resumed is the game's; a player id the client
names, where none is restored, is the agent's. -/
def ProperConnect (w : SlotWorld) (e : SlotHandler) (msg : ConnectMessage) :
    Prop :=
  (e.agentId = none
      ∨ e.agentId = some msg.agentId ∧ e.gameId = some msg.gameId)
    ∧ (∀ s ∈ (w.resumption msg).2, s.gameId = some msg.gameId)
    ∧ ∀ p ∈ providedPlayerId msg,
      (w.resumption msg).2.bind SessionInfo.playerId = none →
        holder w.assigned msg.gameId p = some msg.agentId

instance (w : SlotWorld) (e : SlotHandler) (msg : ConnectMessage) :
    Decidable (w.ProperConnect e msg) :=
  inferInstanceAs (Decidable (_ ∧ _))

/-- The id PACKET_CONN_INFO brings to a handler that claims none is no
trace of another agent's. -/
def ProperConnInfo (w : SlotWorld) (e : SlotHandler)
    (connInfo : Option Int) : Prop :=
  ∀ p ∈ connInfo, ∀ x ∈ w.carried, x.playerId = p →
    e.gameId = some x.gameId → x.playerId < maxPlayerSlots →
      e.agentId = some x.agentId

instance (w : SlotWorld) (e : SlotHandler) (connInfo : Option Int) :
    Decidable (w.ProperConnInfo e connInfo) :=
  inferInstanceAs (Decidable (∀ p ∈ connInfo, _))

def claim : ConnectPhase → Option Int
  | .registering r previous => claimed r previous
  | _ => none

/-- The condition on a step. -/
def Proper (w : SlotWorld) : SlotAct → Prop
  | .connect h msg => ∀ e ∈ w.handlers.get? h,
      (w.validate h e).2 = true → (w.validate h e).1.ProperConnect e msg
  | .assign h connInfo => ∀ e ∈ w.handlers.get? h,
      claim e.phase = none → w.ProperConnInfo e connInfo
  | _ => True

instance (w : SlotWorld) (a : SlotAct) : Decidable (w.Proper a) :=
  match a with
  | .connect h _ =>
    inferInstanceAs (Decidable (∀ e ∈ w.handlers.get? h, _ → _))
  | .assign h _ =>
    inferInstanceAs (Decidable (∀ e ∈ w.handlers.get? h, _ → _))
  | .tick _ => isTrue trivial
  | .opens _ => isTrue trivial
  | .reachCivserver _ => isTrue trivial
  | .civserverFails _ => isTrue trivial
  | .aborts _ => isTrue trivial
  | .message _ => isTrue trivial
  | .close _ => isTrue trivial
  | .suspend _ => isTrue trivial
  | .cleanup => isTrue trivial

end SlotWorld

-- ==== the invariant

open SlotWorld (maxPlayerSlots)

/-- The trace names the holder. -/
def Backed (assigned : List Assignment) (x : Assignment) : Prop :=
  x.playerId < maxPlayerSlots →
    holder assigned x.gameId x.playerId = some x.agentId

/-- The sessions: their ids are known, an agent's session is the
agent's, and what they restore is backed. -/
structure SessionsOwned (t : SessionTables) (issued : List String)
    (assigned : List Assignment) : Prop where
  named : ∀ sid s, t.sessions.get? sid = some s → s.sessionId = sid
  index : ∀ a sid s, t.agentToSession.get? a = some sid →
    t.sessions.get? sid = some s → s.agentId = a
  drawn : ∀ sid s, t.sessions.get? sid = some s → sid ∈ issued
  indexed : ∀ a sid, t.agentToSession.get? a = some sid → sid ∈ issued
  slots : ∀ sid s, t.sessions.get? sid = some s →
    ∀ p ∈ s.playerId, p < maxPlayerSlots
  backed : ∀ sid s, t.sessions.get? sid = some s →
    ∀ x ∈ s.carried, Backed assigned x

/-- A handler: its session is its agent's, and its player ids are
backed. -/
structure HandlerOwned (e : SlotHandler) (t : SessionTables)
    (issued : List String) (assigned : List Assignment) : Prop where
  fresh : e.agentId = none → e.playerId = none ∧ e.sessionInfo = none
  mine : ∀ sid ∈ e.sessionInfo, ∀ s, t.sessions.get? sid = some s →
    e.agentId = some s.agentId ∧ e.gameId = s.gameId
  drawn : ∀ sid ∈ e.sessionInfo, sid ∈ issued
  slots : ∀ p ∈ e.phase.previous, p < maxPlayerSlots
  backed : ∀ x ∈ e.carried, Backed assigned x

/-- Every trace of a player id names the slot's holder. -/
structure Owned (w : SlotWorld) : Prop where
  sessions : SessionsOwned w.sessions w.issued w.assigned
  handlers : ∀ h e, w.handlers.get? h = some e →
    HandlerOwned e w.sessions w.issued w.assigned
  taken : ∀ x ∈ w.taken, Backed w.assigned x
  earned : w.unearned = []

-- ==== the history

theorem holder_cons (x : Assignment) (l : List Assignment) (g : GameId)
    (p : Int) : holder (x :: l) g p
      = if x.gameId = g ∧ x.playerId = p then some x.agentId
        else holder l g p := by
  unfold holder
  rw [List.find?_cons]
  by_cases h : x.gameId = g ∧ x.playerId = p
  · simp [h.1, h.2]
  · have hb : (x.gameId == g && x.playerId == p) = false := by
      rw [← Bool.not_eq_true, Bool.and_eq_true, beq_iff_eq, beq_iff_eq]
      exact h
    rw [hb, if_neg h]

theorem mem_of_holder {l : List Assignment} {x : Assignment}
    (h : holder l x.gameId x.playerId = some x.agentId) : x ∈ l := by
  obtain ⟨y, hy, hagent⟩ := Option.map_eq_some_iff.mp h
  have hsame := List.find?_some hy
  simp only [Bool.and_eq_true, beq_iff_eq] at hsame
  have hxy : y = x := by
    cases x
    cases y
    simp_all
  exact hxy ▸ List.mem_of_find?_eq_some hy

theorem Backed.cons {l : List Assignment} {c x : Assignment}
    (hc : Backed l c)
    (h : c.gameId = x.gameId → c.playerId = x.playerId →
      c.playerId < maxPlayerSlots → c.agentId = x.agentId) :
    Backed (x :: l) c := by
  intro hp
  rw [holder_cons]
  by_cases hx : x.gameId = c.gameId ∧ x.playerId = c.playerId
  · rw [if_pos hx, h hx.1.symm hx.2.symm hp]
  · rw [if_neg hx]
    exact hc hp

theorem Backed.self (x : Assignment) (l : List Assignment) :
    Backed (x :: l) x := by
  intro _
  rw [holder_cons, if_pos ⟨rfl, rfl⟩]

-- ==== the sessions

/-- The operations that create no session and assign no player. -/
structure SessionTables.Kept (t t' : SessionTables) : Prop where
  sessions : ∀ sid s', t'.sessions.get? sid = some s' →
    ∃ s, t.sessions.get? sid = some s ∧ s'.sessionId = s.sessionId
      ∧ s'.agentId = s.agentId ∧ s'.gameId = s.gameId
      ∧ s'.playerId = s.playerId
      ∧ (s'.state = .active ∨ s'.state = .suspended →
        s.state = .active ∨ s.state = .suspended)
  index : ∀ a sid, t'.agentToSession.get? a = some sid →
    t.agentToSession.get? a = some sid

namespace SessionTables.Kept

variable {t t' t'' : SessionTables}

theorem refl (t : SessionTables) : t.Kept t :=
  ⟨fun _ s h => ⟨s, h, rfl, rfl, rfl, rfl, id⟩, fun _ _ h => h⟩

theorem trans (h : t.Kept t') (h' : t'.Kept t'') : t.Kept t'' := by
  refine ⟨?_, fun a sid hs => h.index a sid (h'.index a sid hs)⟩
  intro sid s'' hs''
  obtain ⟨s', hs', hid', ha', hg', hp', hst'⟩ := h'.sessions sid s'' hs''
  obtain ⟨s, hs, hid, ha, hg, hp, hst⟩ := h.sessions sid s' hs'
  exact ⟨s, hs, hid'.trans hid, ha'.trans ha, hg'.trans hg, hp'.trans hp,
    fun hu => hst (hst' hu)⟩

/-- A session is replaced by one that differs in its clock, counters or
state. -/
theorem set {sid : String} {s s' : SessionInfo}
    (hs : t.sessions.get? sid = some s) (hid : s'.sessionId = s.sessionId)
    (ha : s'.agentId = s.agentId) (hg : s'.gameId = s.gameId)
    (hp : s'.playerId = s.playerId)
    (hst : s'.state = .active ∨ s'.state = .suspended →
      s.state = .active ∨ s.state = .suspended) :
    t.Kept { t with sessions := t.sessions.set sid s' } := by
  refine ⟨?_, fun _ _ h => h⟩
  intro sid' r hr
  rw [Dict.get?_set] at hr
  split at hr
  next heq =>
    cases hr
    exact ⟨s, heq ▸ hs, hid, ha, hg, hp, hst⟩
  next => exact ⟨r, hr, rfl, rfl, rfl, rfl, id⟩

theorem suspendSession (t : SessionTables) (sid : String) (now : Int) :
    t.Kept (t.suspendSession sid now).1 := by
  unfold SessionTables.suspendSession
  cases hs : t.sessions.get? sid with
  | none => exact refl t
  | some s =>
    dsimp only
    split
    next hst => exact set hs rfl rfl rfl rfl fun _ => hst
    next => exact refl t

theorem validateSession (t : SessionTables) (sid : String) (now : Int) :
    t.Kept (t.validateSession sid now).1 := by
  unfold SessionTables.validateSession
  cases hs : t.sessions.get? sid with
  | none => exact refl t
  | some s =>
    dsimp only
    split
    · exact refl t
    · split
      · exact set hs rfl rfl rfl rfl (by simp)
      · exact set hs rfl rfl rfl rfl id

theorem filter (t : SessionTables) (p : String → SessionInfo → Bool)
    (q : AgentId → String → Bool) :
    t.Kept ⟨t.sessions.filter p, t.agentToSession.filter q⟩ := by
  refine ⟨?_, ?_⟩
  · intro sid s' hs'
    rw [Dict.get?_filter] at hs'
    obtain ⟨hs, -⟩ := Option.filter_eq_some_iff.mp hs'
    exact ⟨s', hs, rfl, rfl, rfl, rfl, id⟩
  · intro a sid hsid
    rw [Dict.get?_filter] at hsid
    exact (Option.filter_eq_some_iff.mp hsid).1

theorem cleanup (t : SessionTables) (now : Int) :
    t.Kept (t.cleanupExpiredSessions now) := by
  unfold SessionTables.cleanupExpiredSessions
  exact filter t _ _

theorem eraseIndex (t : SessionTables) (a : AgentId) :
    t.Kept { t with agentToSession := t.agentToSession.erase a } := by
  refine ⟨(refl t).sessions, ?_⟩
  intro b sid hsid
  rw [Dict.get?_erase] at hsid
  split at hsid
  · cases hsid
  · exact hsid

theorem terminateSession (t : SessionTables) (sid : String) :
    t.Kept (t.terminateSession sid) := by
  unfold SessionTables.terminateSession
  cases hs : t.sessions.get? sid with
  | none => exact refl t
  | some s =>
    have herase : t.Kept { t with sessions := t.sessions.erase sid } := by
      refine ⟨?_, fun _ _ h => h⟩
      intro sid' s' hs'
      rw [Dict.get?_erase] at hs'
      split at hs'
      · cases hs'
      · exact ⟨s', hs', rfl, rfl, rfl, rfl, id⟩
    exact herase.trans (eraseIndex _ _)

theorem tryResume (t : SessionTables) (a : AgentId) (g : Option GameId)
    (m : String → Bool) (now : Int) :
    t.Kept (t.tryResumeSessionForAgent a g m now).1 := by
  unfold SessionTables.tryResumeSessionForAgent
  cases t.agentToSession.get? a with
  | none => exact refl t
  | some sid =>
    dsimp only
    cases hs : t.sessions.get? sid with
    | none => exact eraseIndex t a
    | some s =>
      dsimp only
      split
      · exact refl t
      · split
        · exact refl t
        · next hst =>
          split
          · exact set hs rfl rfl rfl rfl (by simp)
          · split
            · exact set hs rfl rfl rfl rfl id
            · exact set hs rfl rfl rfl rfl
                fun _ => .inr (not_not.mp hst)

end SessionTables.Kept

variable {t t' : SessionTables} {issued : List String}
  {assigned : List Assignment} {e : SlotHandler}

theorem SessionsOwned.kept (h : SessionsOwned t issued assigned)
    (hk : t.Kept t') : SessionsOwned t' issued assigned where
  named := by
    intro sid s' hs'
    obtain ⟨s, hs, hid, -⟩ := hk.sessions sid s' hs'
    rw [hid]
    exact h.named sid s hs
  index := by
    intro a sid s' hsid hs'
    obtain ⟨s, hs, -, ha, -⟩ := hk.sessions sid s' hs'
    rw [ha]
    exact h.index a sid s (hk.index a sid hsid) hs
  drawn := by
    intro sid s' hs'
    obtain ⟨s, hs, -⟩ := hk.sessions sid s' hs'
    exact h.drawn sid s hs
  indexed := fun a sid hsid => h.indexed a sid (hk.index a sid hsid)
  slots := by
    intro sid s' hs'
    obtain ⟨s, hs, -, -, -, hp, -⟩ := hk.sessions sid s' hs'
    rw [hp]
    exact h.slots sid s hs
  backed := by
    intro sid s' hs' x hx
    obtain ⟨s, hs, -, ha, hg, hp, hst⟩ := hk.sessions sid s' hs'
    refine h.backed sid s hs x ?_
    unfold SessionInfo.carried at hx ⊢
    rw [ha, hg, hp] at hx
    cases hgame : s.gameId with
    | none =>
      rw [hgame] at hx
      exact hx
    | some g =>
      rw [hgame] at hx
      dsimp only at hx ⊢
      split at hx
      next hu =>
        rw [if_pos (hst hu)]
        exact hx
      next => cases hx

theorem HandlerOwned.same (h : HandlerOwned e t issued assigned)
    (hk : ∀ sid s', t'.sessions.get? sid = some s' →
      ∃ s, t.sessions.get? sid = some s ∧ s'.agentId = s.agentId
        ∧ s'.gameId = s.gameId) : HandlerOwned e t' issued assigned where
  fresh := h.fresh
  mine := by
    intro sid hsid s' hs'
    obtain ⟨s, hs, ha, hg⟩ := hk sid s' hs'
    rw [ha, hg]
    exact h.mine sid hsid s hs
  drawn := h.drawn
  slots := h.slots
  backed := h.backed

theorem HandlerOwned.kept (h : HandlerOwned e t issued assigned)
    (hk : t.Kept t') : HandlerOwned e t' issued assigned := by
  refine h.same ?_
  intro sid s' hs'
  obtain ⟨s, hs, -, ha, hg, -⟩ := hk.sessions sid s' hs'
  exact ⟨s, hs, ha, hg⟩

/-- A new session: the agent's old one is gone, the new one restores no
player. -/
theorem createSession_cases (t : SessionTables) (a : AgentId) (g : GameId)
    (newId hash : String) (now : Int) :
    t.createSession a (some g) newId hash now = (t, none)
      ∨ ∃ (t₁ : SessionTables) (s : SessionInfo), t.Kept t₁
        ∧ t.createSession a (some g) newId hash now
          = (⟨t₁.sessions.set newId s, t₁.agentToSession.set a newId⟩, some s)
        ∧ s.sessionId = newId ∧ s.agentId = a ∧ s.gameId = some g
        ∧ s.playerId = none := by
  unfold SessionTables.createSession
  split
  · exact .inl rfl
  · right
    cases t.agentToSession.get? a with
    | none => exact ⟨t, _, .refl t, rfl, rfl, rfl, rfl, rfl⟩
    | some old =>
      exact ⟨_, _, .terminateSession t old, rfl, rfl, rfl, rfl, rfl⟩

theorem SessionsOwned.draw (h : SessionsOwned t issued assigned)
    (newId : String) : SessionsOwned t (newId :: issued) assigned :=
  { h with
    drawn := fun sid s hs => List.mem_cons_of_mem _ (h.drawn sid s hs)
    indexed := fun a sid hs => List.mem_cons_of_mem _ (h.indexed a sid hs) }

theorem HandlerOwned.draw (h : HandlerOwned e t issued assigned)
    (newId : String) : HandlerOwned e t (newId :: issued) assigned :=
  { h with
    drawn := fun sid hs => List.mem_cons_of_mem _ (h.drawn sid hs) }

theorem SessionsOwned.insert (h : SessionsOwned t issued assigned)
    {newId : String} {s : SessionInfo} (hnew : newId ∉ issued)
    (hid : s.sessionId = newId) (hp : s.playerId = none) :
    SessionsOwned
      ⟨t.sessions.set newId s, t.agentToSession.set s.agentId newId⟩
      (newId :: issued) assigned := by
  have hcases : ∀ {sid s'}, (t.sessions.set newId s).get? sid = some s' →
      sid = newId ∧ s' = s ∨ t.sessions.get? sid = some s' := by
    intro sid s' hs'
    rw [Dict.get?_set] at hs'
    split at hs'
    next heq =>
      cases hs'
      exact .inl ⟨heq, rfl⟩
    next => exact .inr hs'
  refine ⟨?_, ?_, ?_, ?_, ?_, ?_⟩
  · intro sid s' hs'
    rcases hcases hs' with ⟨rfl, rfl⟩ | hold
    · exact hid
    · exact h.named sid s' hold
  · intro a sid s' hsid hs'
    rw [Dict.get?_set] at hsid
    split at hsid
    next heq =>
      cases hsid
      rw [Dict.get?_set_self] at hs'
      cases hs'
      exact heq.symm
    next =>
      rcases hcases hs' with ⟨rfl, rfl⟩ | hold
      · exact absurd (h.indexed a sid hsid) hnew
      · exact h.index a sid s' hsid hold
  · intro sid s' hs'
    rcases hcases hs' with ⟨rfl, rfl⟩ | hold
    · exact List.mem_cons_self
    · exact List.mem_cons_of_mem _ (h.drawn sid s' hold)
  · intro a sid hsid
    rw [Dict.get?_set] at hsid
    split at hsid
    · cases hsid
      exact List.mem_cons_self
    · exact List.mem_cons_of_mem _ (h.indexed a sid hsid)
  · intro sid s' hs'
    rcases hcases hs' with ⟨rfl, rfl⟩ | hold
    · rw [hp]
      intro p hmem
      cases hmem
    · exact h.slots sid s' hold
  · intro sid s' hs' x hx
    rcases hcases hs' with ⟨rfl, rfl⟩ | hold
    · unfold SessionInfo.carried at hx
      rw [hp] at hx
      repeat' split at hx
      all_goals cases hx
    · exact h.backed sid s' hold x hx

theorem HandlerOwned.insert (h : HandlerOwned e t issued assigned)
    {newId : String} {s : SessionInfo} {a : AgentId}
    (hnew : newId ∉ issued) :
    HandlerOwned e ⟨t.sessions.set newId s, t.agentToSession.set a newId⟩
      (newId :: issued) assigned where
  fresh := h.fresh
  mine := by
    intro sid hsid s' hs'
    have hne : sid ≠ newId := fun heq => hnew (heq ▸ h.drawn sid hsid)
    rw [Dict.get?_set_of_ne _ _ hne] at hs'
    exact h.mine sid hsid s' hs'
  drawn := (h.draw newId).drawn
  slots := h.slots
  backed := h.backed

theorem SessionsOwned.save (h : SessionsOwned t issued assigned)
    {sid : String} {x : Assignment} (hslot : x.playerId < maxPlayerSlots)
    (hx : Backed assigned x)
    (hs : ∀ s, t.sessions.get? sid = some s →
      s.agentId = x.agentId ∧ s.gameId = some x.gameId) :
    SessionsOwned { t with sessions := t.sessions.modify sid fun s =>
      { s with playerId := some x.playerId } } issued assigned := by
  have hcases : ∀ {i s'}, (t.sessions.modify sid fun s =>
        { s with playerId := some x.playerId }).get? i = some s' →
      ∃ s, t.sessions.get? i = some s ∧ (s' = s
        ∨ s' = { s with playerId := some x.playerId } ∧ i = sid) := by
    intro i s' hs'
    rw [Dict.get?_modify] at hs'
    split at hs'
    next heq =>
      obtain ⟨s, hget, hmod⟩ := Option.map_eq_some_iff.mp hs'
      exact ⟨s, hget, .inr ⟨hmod.symm, heq⟩⟩
    next => exact ⟨s', hs', .inl rfl⟩
  refine ⟨?_, ?_, ?_, h.indexed, ?_, ?_⟩
  · intro i s' hs'
    obtain ⟨s, hget, rfl | ⟨rfl, -⟩⟩ := hcases hs'
    · exact h.named i _ hget
    · exact h.named i s hget
  · intro a i s' hi hs'
    obtain ⟨s, hget, rfl | ⟨rfl, -⟩⟩ := hcases hs'
    · exact h.index a i _ hi hget
    · exact h.index a i s hi hget
  · intro i s' hs'
    obtain ⟨s, hget, -⟩ := hcases hs'
    exact h.drawn i s hget
  · intro i s' hs'
    obtain ⟨s, hget, rfl | ⟨rfl, -⟩⟩ := hcases hs'
    · exact h.slots i _ hget
    · intro p hp
      cases hp
      exact hslot
  · intro i s' hs' c hc
    obtain ⟨s, hget, rfl | ⟨rfl, rfl⟩⟩ := hcases hs'
    · exact h.backed i _ hget c hc
    · obtain ⟨ha, hg⟩ := hs s hget
      unfold SessionInfo.carried at hc
      rw [hg, ha] at hc
      dsimp only at hc
      split at hc
      · rw [List.mem_singleton.mp hc]
        exact hx
      · cases hc

/-- Nobody but the agent of `x` leaves a trace of its slot, so the
traces stay backed when `x` is assigned. -/
theorem SessionsOwned.cons (h : SessionsOwned t issued assigned)
    {x : Assignment} (hx : ∀ sid s, t.sessions.get? sid = some s →
      ∀ c ∈ s.carried, c.gameId = x.gameId → c.playerId = x.playerId →
        c.playerId < maxPlayerSlots → c.agentId = x.agentId) :
    SessionsOwned t issued (x :: assigned) :=
  { h with
    backed := fun sid s hs c hc =>
      (h.backed sid s hs c hc).cons (hx sid s hs c hc) }

theorem HandlerOwned.cons (h : HandlerOwned e t issued assigned)
    {x : Assignment} (hx : ∀ c ∈ e.carried, c.gameId = x.gameId →
      c.playerId = x.playerId → c.playerId < maxPlayerSlots →
        c.agentId = x.agentId) :
    HandlerOwned e t issued (x :: assigned) :=
  { h with backed := fun c hc => (h.backed c hc).cons (hx c hc) }

namespace Owned

variable {w w' : SlotWorld}

theorem kept (hw : Owned w) (hk : w.sessions.Kept t') :
    Owned { w with sessions := t' } :=
  ⟨hw.sessions.kept hk, fun h e he => (hw.handlers h e he).kept hk,
    hw.taken, hw.earned⟩

theorem setHandler (hw : Owned w) (h : HandlerId)
    (he : HandlerOwned e w.sessions w.issued w.assigned) :
    Owned (w.setHandler h e) := by
  refine ⟨hw.sessions, ?_, hw.taken, hw.earned⟩
  intro i e' he'
  unfold SlotWorld.setHandler at he'
  rw [Dict.get?_set] at he'
  split at he'
  · cases he'
    exact he
  · exact hw.handlers i e' he'

theorem mem_carried {x : Assignment} :
    x ∈ w.carried ↔ (∃ h e, w.handlers.get? h = some e ∧ x ∈ e.carried)
      ∨ ∃ sid s, w.sessions.sessions.get? sid = some s ∧ x ∈ s.carried := by
  unfold SlotWorld.carried
  rw [List.mem_append, List.mem_flatMap, List.mem_flatMap]
  simp only [Dict.mem_values_iff]
  constructor
  · intro hx
    rcases hx with ⟨e, ⟨h, he⟩, hx⟩ | ⟨s, ⟨sid, hs⟩, hx⟩
    · exact .inl ⟨h, e, he, hx⟩
    · exact .inr ⟨sid, s, hs, hx⟩
  · intro hx
    rcases hx with ⟨h, e, he, hx⟩ | ⟨sid, s, hs, hx⟩
    · exact .inl ⟨e, ⟨h, he⟩, hx⟩
    · exact .inr ⟨s, ⟨sid, hs⟩, hx⟩

theorem backed (hw : Owned w) {x : Assignment} (hx : x ∈ w.carried) :
    Backed w.assigned x := by
  rcases mem_carried.mp hx with ⟨h, e, he, hmem⟩ | ⟨sid, s, hs, hmem⟩
  · exact (hw.handlers h e he).backed x hmem
  · exact hw.sessions.backed sid s hs x hmem

/-- An agent becomes a player of which nobody else has a trace; by
reconnection, it was that player before. -/
theorem becomes (hw : Owned w) {x : Assignment} {r : Bool}
    (hx : ∀ c ∈ w.carried, c.gameId = x.gameId → c.playerId = x.playerId →
      c.playerId < maxPlayerSlots → c.agentId = x.agentId)
    (hr : r = true → x ∈ w.assigned) : Owned (w.becomes x r) := by
  refine ⟨?_, ?_, ?_, ?_⟩
  · exact hw.sessions.cons fun sid s hs c hc =>
      hx c (mem_carried.mpr (.inr ⟨sid, s, hs, hc⟩))
  · intro h e he
    exact (hw.handlers h e he).cons fun c hc =>
      hx c (mem_carried.mpr (.inl ⟨h, e, he, hc⟩))
  · intro c hc
    obtain ⟨hmem, hother⟩ := List.mem_filter.mp hc
    refine (hw.taken c hmem).cons ?_
    intro hg hp _
    simpa [hg, hp] using hother
  · show (if (r && !w.assigned.contains x) = true then x :: w.unearned
      else w.unearned) = []
    rw [if_neg ?_]
    · exact hw.earned
    · cases r with
      | false => simp
      | true => simp [hr rfl]

theorem becomes_holder (hw : Owned w) {x : Assignment} {r : Bool}
    (hx : holder w.assigned x.gameId x.playerId = some x.agentId) :
    Owned (w.becomes x r) := by
  refine hw.becomes ?_ fun _ => mem_of_holder hx
  intro c hc hg hp hslot
  have hheld := hw.backed hc hslot
  rw [hg, hp, hx] at hheld
  exact (Option.some.inj hheld).symm

-- ==== the identity

/-- Validation changes sessions, and takes an invalid one from the
handler. -/
theorem validate (hw : Owned w) {h : HandlerId}
    (he : w.handlers.get? h = some e) : Owned (w.validate h e).1 := by
  unfold SlotWorld.validate
  cases hsid : e.sessionId with
  | none => exact hw
  | some sid =>
    have hk := SessionTables.Kept.validateSession w.sessions sid w.now
    dsimp only
    split
    · exact hw.kept hk
    · refine (hw.kept hk).setHandler h ?_
      have hE := (hw.handlers h e he).kept hk
      refine ⟨fun hnone => ⟨(hE.fresh hnone).1, rfl⟩, ?_, ?_, hE.slots, ?_⟩
      · intro sid hmem
        cases hmem
      · intro sid hmem
        cases hmem
      · exact hE.backed

theorem validate_true {w : SlotWorld} {h : HandlerId}
    (hv : (w.validate h e).2 = true) :
    (w.validate h e).1.handlers = w.handlers
      ∧ (w.validate h e).1.issued = w.issued := by
  unfold SlotWorld.validate at hv ⊢
  cases hsid : e.sessionId with
  | none => exact ⟨rfl, rfl⟩
  | some sid =>
    rw [hsid] at hv
    dsimp only at hv ⊢
    by_cases hvalid : (w.sessions.validateSession sid w.now).2 = true
    · rw [if_pos hvalid]
      exact ⟨rfl, rfl⟩
    · rw [if_neg hvalid] at hv
      cases hv

/-- A resumed session is the agent's, and what it restores is held by
the agent. -/
theorem resumed (hw : Owned w) {msg : ConnectMessage} {t : SessionTables}
    {s : SessionInfo} (hr : w.resumption msg = (t, some s))
    (hg : s.gameId = some msg.gameId) :
    t.sessions.get? s.sessionId = some s ∧ s.agentId = msg.agentId
      ∧ ∀ p ∈ s.playerId, p < maxPlayerSlots
        ∧ holder w.assigned msg.gameId p = some msg.agentId := by
  have hk : w.sessions.Kept t := by
    have := SessionTables.Kept.tryResume w.sessions msg.agentId
      (some msg.gameId) msg.tokenMatches w.now
    rw [show w.sessions.tryResumeSessionForAgent _ _ _ _ = _ from hr] at this
    exact this
  have hS := hw.sessions.kept hk
  obtain ⟨sid, hindex, hs, hactive⟩ := SessionTables.resumed hr
  have hid := hS.named sid s hs
  obtain ⟨s₀, hs₀, -, hagent₀, -⟩ := hk.sessions sid s hs
  have hagent : s.agentId = msg.agentId :=
    hagent₀.trans (hw.sessions.index _ sid s₀ hindex hs₀)
  refine ⟨by rw [hid]; exact hs, hagent, ?_⟩
  intro p hp
  have hslot := hS.slots sid s hs p hp
  refine ⟨hslot, ?_⟩
  have hmem : ⟨msg.gameId, p, msg.agentId⟩ ∈ s.carried := by
    unfold SessionInfo.carried
    rw [hg, hagent, Option.mem_def.mp hp]
    simp [hactive]
  exact hS.backed sid s hs _ hmem hslot

theorem identified {sid : String} {msg : ConnectMessage}
    {previous : Option Int} {r : Bool}
    (hE : HandlerOwned e t issued assigned)
    (hagent : e.agentId = some msg.agentId)
    (hgame : e.gameId = some msg.gameId)
    (hprev : ∀ p ∈ previous, p < maxPlayerSlots
      ∧ holder assigned msg.gameId p = some msg.agentId)
    (hidle : e.phase = .idle) (hdrawn : sid ∈ issued)
    (hmine : ∀ s, t.sessions.get? sid = some s →
      s.agentId = msg.agentId ∧ s.gameId = some msg.gameId) :
    HandlerOwned { e with
      sessionInfo := some sid, sessionId := some sid, isLlmAgent := true
      phase := .identified r previous } t issued assigned := by
  refine ⟨?_, ?_, ?_, ?_, ?_⟩
  · intro hnone
    rw [show e.agentId = none from hnone] at hagent
    cases hagent
  · intro i hi s hs
    cases hi
    obtain ⟨ha, hg⟩ := hmine s hs
    exact ⟨by rw [ha]; exact hagent, by rw [hg]; exact hgame⟩
  · intro i hi
    cases hi
    exact hdrawn
  · exact fun p hp => (hprev p hp).1
  · intro x hx
    have hold := hE.backed x
    unfold SlotHandler.carried at hx hold
    rw [hagent, hgame] at hold
    rw [hagent, hgame] at hx
    simp only [List.map_append, List.mem_append, hidle] at hx hold
    rcases hx with hx | hx
    · exact hold (.inl hx)
    · obtain ⟨p, hp, rfl⟩ := List.mem_map.mp hx
      exact fun _ => (hprev p (Option.mem_toList.mp hp)).2

theorem register (hw : Owned w) (h : HandlerId) {msg : ConnectMessage}
    {previous : Option Int} {r : Bool}
    (hE : HandlerOwned e w.sessions w.issued w.assigned)
    (hagent : e.agentId = some msg.agentId)
    (hgame : e.gameId = some msg.gameId)
    (hprev : ∀ p ∈ previous, p < maxPlayerSlots
      ∧ holder w.assigned msg.gameId p = some msg.agentId)
    (hidle : e.phase = .idle) (hnew : msg.newSessionId ∉ w.issued) :
    Owned (w.register h e msg r previous) := by
  unfold SlotWorld.register SlotWorld.sessionFor
  cases hinfo : e.sessionInfo with
  | some sid =>
    refine hw.setHandler h (identified hE hagent hgame hprev hidle
      (hE.drawn sid hinfo) ?_)
    intro s hs
    obtain ⟨ha, hg⟩ := hE.mine sid hinfo s hs
    rw [hagent] at ha
    rw [hgame] at hg
    exact ⟨(Option.some.inj ha).symm, hg.symm⟩
  | none =>
    rcases createSession_cases w.sessions msg.agentId msg.gameId
      msg.newSessionId msg.apiTokenHash w.now with hfull | hcreated
    · rw [hfull]
      exact setHandler (w := { w with issued := msg.newSessionId :: w.issued })
        ⟨hw.sessions.draw _, fun i e' he' => (hw.handlers i e' he').draw _,
          hw.taken, hw.earned⟩ h (hE.draw _)
    · obtain ⟨t₁, s, hk, hcreate, hid, ha, hg, hp⟩ := hcreated
      rw [hcreate]
      have hS := (hw.sessions.kept hk).insert hnew hid hp
      rw [ha] at hS
      have hE₁ := (hE.kept hk).insert (s := s) (a := msg.agentId) hnew
      refine setHandler (w := { w with
          sessions := ⟨t₁.sessions.set msg.newSessionId s,
            t₁.agentToSession.set msg.agentId msg.newSessionId⟩
          issued := msg.newSessionId :: w.issued })
        ⟨hS, fun i e' he' => ((hw.handlers i e' he').kept hk).insert hnew,
          hw.taken, hw.earned⟩ h ?_
      refine identified hE₁ hagent hgame hprev hidle ?_ ?_
      · rw [hid]
        exact List.mem_cons_self
      · intro s' hs'
        rw [hid] at hs'
        rw [Dict.get?_set_self] at hs'
        cases hs'
        exact ⟨ha, hg⟩

theorem resumption_kept (w : SlotWorld) (msg : ConnectMessage) :
    w.sessions.Kept (w.resumption msg).1 :=
  SessionTables.Kept.tryResume ..

theorem identify (hw : Owned w) {h : HandlerId}
    (he : w.handlers.get? h = some e) {msg : ConnectMessage}
    (hopen : e.isOpen = true) (hidle : e.phase = .idle)
    (hnew : msg.newSessionId ∉ w.issued) (hc : w.ProperConnect e msg) :
    Owned (w.identify h e msg) := by
  obtain ⟨hsame, hgame, hprov⟩ := hc
  have hk := resumption_kept w msg
  unfold SlotWorld.identify
  rcases hr : w.resumption msg with ⟨t, resumed⟩
  rw [hr] at hgame hprov hk
  dsimp only at hgame hprov hk ⊢
  have hres : ∀ s ∈ resumed, t.sessions.get? s.sessionId = some s
      ∧ s.agentId = msg.agentId ∧ ∀ p ∈ s.playerId, p < maxPlayerSlots
        ∧ holder w.assigned msg.gameId p = some msg.agentId := by
    intro s hs
    cases hs
    exact hw.resumed hr (hgame s rfl)
  have hrestored : ∀ p ∈ resumed.bind SessionInfo.playerId,
      p < maxPlayerSlots
        ∧ holder w.assigned msg.gameId p = some msg.agentId := by
    intro p hp
    obtain ⟨s, hs, hp⟩ := Option.bind_eq_some_iff.mp hp
    exact (hres s hs).2.2 p hp
  have hprev : ∀ p ∈ (resumed.bind SessionInfo.playerId).or
      (SlotWorld.providedPlayerId msg), p < maxPlayerSlots
        ∧ holder w.assigned msg.gameId p = some msg.agentId := by
    intro p hp
    cases hbind : resumed.bind SessionInfo.playerId with
    | some q =>
      rw [hbind] at hp
      cases hp
      exact hrestored p hbind
    | none =>
      rw [hbind] at hp
      have hslot := (Option.filter_eq_some_iff.mp hp).2
      simp only [Bool.and_eq_true, decide_eq_true_eq] at hslot
      exact ⟨hslot.2, hprov p hp hbind⟩
  -- the handler under the message's names
  have hE : HandlerOwned { e with
      agentId := some msg.agentId
      gameId := some msg.gameId
      playerId := (resumed.bind SessionInfo.playerId).or e.playerId
      sessionInfo := (resumed.map SessionInfo.sessionId).or e.sessionInfo }
      t w.issued w.assigned := by
    have hold := (hw.handlers h e he).kept hk
    have hS := hw.sessions.kept hk
    refine ⟨nofun, ?_, ?_, hold.slots, ?_⟩
    · intro sid hsid s hs
      rcases Option.or_eq_some_iff.mp hsid with hfrom | ⟨-, hinfo⟩
      · obtain ⟨s', hs', rfl⟩ := Option.map_eq_some_iff.mp hfrom
        obtain ⟨hget, ha, -⟩ := hres s' hs'
        rw [hget] at hs
        cases hs
        exact ⟨by rw [ha], (hgame _ hs').symm⟩
      · obtain ⟨ha, hg⟩ := hold.mine sid hinfo s hs
        rcases hsame with hnone | ⟨hagent, hid⟩
        · rw [(hold.fresh hnone).2] at hinfo
          cases hinfo
        · exact ⟨by rw [← hagent, ha], by rw [← hid, hg]⟩
    · intro sid hsid
      rcases Option.or_eq_some_iff.mp hsid with hfrom | ⟨-, hinfo⟩
      · obtain ⟨s', hs', rfl⟩ := Option.map_eq_some_iff.mp hfrom
        exact hS.drawn _ s' (hres s' hs').1
      · exact hold.drawn sid hinfo
    · intro x hx
      simp only [SlotHandler.carried, hidle, ConnectPhase.previous, hopen,
        if_true, Option.toList_none, List.append_nil] at hx
      obtain ⟨p, hp, rfl⟩ := List.mem_map.mp hx
      rcases Option.or_eq_some_iff.mp (Option.mem_toList.mp hp) with
        hfrom | ⟨-, hplayer⟩
      · exact fun _ => (hrestored p hfrom).2
      · rcases hsame with hnone | ⟨hagent, hid⟩
        · rw [(hold.fresh hnone).1] at hplayer
          cases hplayer
        · refine hold.backed _ ?_
          unfold SlotHandler.carried
          rw [hagent, hid, hopen, hplayer]
          simp
  have hw₁ := hw.kept hk
  cases hbind : resumed.bind SessionInfo.playerId with
  | none =>
    rw [hbind] at hE hprev
    exact hw₁.register h hE rfl rfl hprev hidle hnew
  | some p =>
    rw [hbind] at hE hprev
    have hheld := (hrestored p hbind).2
    have hagree : ∀ {c : Assignment}, Backed w.assigned c →
        c.gameId = msg.gameId → c.playerId = p →
          c.playerId < maxPlayerSlots → c.agentId = msg.agentId := by
      intro c hc hg hp hslot
      have := hc hslot
      rw [hg, hp, hheld] at this
      exact (Option.some.inj this).symm
    have hw₂ := hw₁.becomes_holder (r := true)
      (x := ⟨msg.gameId, p, msg.agentId⟩) hheld
    refine hw₂.register h (hE.cons fun c hc => hagree (hE.backed c hc)) rfl
      rfl ?_ hidle hnew
    intro q hq
    cases hq
    exact ⟨(hrestored p hbind).1, Backed.self _ _ (hrestored p hbind).1⟩

-- ==== the other parts

theorem narrow {e e' : SlotHandler} {t : SessionTables}
    {issued : List String} {assigned : List Assignment}
    (hE : HandlerOwned e t issued assigned) (hagent : e'.agentId = e.agentId)
    (hgame : e'.gameId = e.gameId) (hplayer : e'.playerId = e.playerId)
    (hinfo : e'.sessionInfo = e.sessionInfo)
    (hopen : e'.isOpen = true → e.isOpen = true)
    (hprev : ∀ p ∈ e'.phase.previous, p ∈ e.phase.previous) :
    HandlerOwned e' t issued assigned := by
  refine ⟨?_, ?_, ?_, fun p hp => hE.slots p (hprev p hp), ?_⟩
  · rw [hagent, hplayer, hinfo]
    exact hE.fresh
  · rw [hagent, hgame, hinfo]
    exact hE.mine
  · rw [hinfo]
    exact hE.drawn
  · intro x hx
    refine hE.backed x ?_
    unfold SlotHandler.carried at hx ⊢
    rw [hagent, hgame, hplayer] at hx
    split at hx
    next a g ha hg =>
      simp only [List.map_append, List.mem_append, List.mem_map,
        Option.mem_toList] at hx ⊢
      rcases hx with hx | hx
      · left
        by_cases ho : e'.isOpen = true
        · rw [if_pos (hopen ho)]
          rw [if_pos ho] at hx
          exact hx
        · rw [if_neg ho] at hx
          obtain ⟨p, hp, -⟩ := hx
          cases hp
      · obtain ⟨p, hp, hxp⟩ := hx
        exact .inr ⟨p, hprev p hp, hxp⟩
    next => cases hx

theorem claimed_backed (hw : Owned w) {h : HandlerId}
    (he : w.handlers.get? h = some e) {r : Bool} {p : Int}
    {x : Assignment} (hagent : e.agentId = some x.agentId)
    (hgame : e.gameId = some x.gameId)
    (hp : SlotWorld.claimed r e.phase.previous = some p)
    (hx : x.playerId = p) :
    x.playerId < maxPlayerSlots
      ∧ holder w.assigned x.gameId x.playerId = some x.agentId := by
  have hE := hw.handlers h e he
  have hmem : p ∈ e.phase.previous := by
    unfold SlotWorld.claimed at hp
    split at hp
    · exact (Option.filter_eq_some_iff.mp hp).1
    · cases hp
  have hslot : x.playerId < maxPlayerSlots := by
    rw [hx]
    exact hE.slots p hmem
  refine ⟨hslot, hE.backed x ?_ hslot⟩
  unfold SlotHandler.carried
  rw [hagent, hgame, Option.mem_def.mp hmem, ← hx]
  simp

theorem reachCivserver (hw : Owned w) {h : HandlerId}
    (hstep : w.reachCivserver h = some w') : Owned w' := by
  unfold SlotWorld.reachCivserver at hstep
  split at hstep
  next => cases hstep
  next e he =>
    split at hstep
    next r previous agentId gameId hphase hagent hgame =>
      have hset := hw.setHandler (e := { e with
        attached := true, phase := .registering r previous }) h
        (narrow (hw.handlers h e he) rfl rfl rfl rfl id
          (by rw [hphase]; exact fun _ hp => hp))
      split at hstep
      next p hp =>
        cases hstep
        refine ⟨hset.sessions, hset.handlers, ?_, hset.earned⟩
        intro x hx
        rcases List.mem_cons.mp hx with rfl | hx
        · intro _
          refine (hw.claimed_backed he (r := r) hagent hgame ?_ rfl).2
          rw [hphase]
          exact hp
        · exact hw.taken x hx
      next =>
        cases hstep
        exact hset
    next => cases hstep

theorem civserverFails (hw : Owned w) {h : HandlerId}
    (hstep : w.civserverFails h = some w') : Owned w' := by
  unfold SlotWorld.civserverFails at hstep
  split at hstep
  next => cases hstep
  next e he =>
    split at hstep
    next r previous hphase =>
      cases hstep
      have hE := hw.handlers h e he
      have hnarrow : ∀ {t : SessionTables},
          HandlerOwned e t w.issued w.assigned →
            HandlerOwned { e with
              sessionId := none, isLlmAgent := false, phase := .idle }
              t w.issued w.assigned :=
        fun hE => narrow hE rfl rfl rfl rfl id nofun
      cases e.sessionId with
      | none => exact hw.setHandler h (hnarrow hE)
      | some sid =>
        have hk := SessionTables.Kept.terminateSession w.sessions sid
        exact (hw.kept hk).setHandler h (hnarrow (hE.kept hk))
    next => cases hstep

theorem aborts (hw : Owned w) {h : HandlerId}
    (hstep : w.aborts h = some w') : Owned w' := by
  unfold SlotWorld.aborts at hstep
  split at hstep
  next => cases hstep
  next e he =>
    split at hstep
    next =>
      cases hstep
      exact hw.setHandler h
        (narrow (hw.handlers h e he) rfl rfl rfl rfl id nofun)
    next => cases hstep

theorem close (hw : Owned w) {h : HandlerId}
    (hstep : w.close h = some w') : Owned w' := by
  unfold SlotWorld.close at hstep
  split at hstep
  next => cases hstep
  next e he =>
    split at hstep
    next =>
      cases hstep
      have hE := hw.handlers h e he
      have hnarrow : ∀ {t : SessionTables},
          HandlerOwned e t w.issued w.assigned →
            HandlerOwned { e with isOpen := false, attached := false }
              t w.issued w.assigned :=
        fun hE => narrow hE rfl rfl rfl rfl nofun fun _ hp => hp
      split
      next sid hsid =>
        have hk := SessionTables.Kept.suspendSession w.sessions sid w.now
        exact (hw.kept hk).setHandler h (hnarrow (hE.kept hk))
      next => exact hw.setHandler h (hnarrow hE)
    next => cases hstep

theorem assignPlayer (hw : Owned w) {h : HandlerId}
    (he : w.handlers.get? h = some e) {x : Assignment} {r : Bool}
    (hagent : e.agentId = some x.agentId) (hgame : e.gameId = some x.gameId)
    (hx : ∀ c ∈ w.carried, c.gameId = x.gameId → c.playerId = x.playerId →
      c.playerId < maxPlayerSlots → c.agentId = x.agentId)
    (hr : r = true → x ∈ w.assigned) : Owned (w.assignPlayer h e x r) := by
  have hE := hw.handlers h e he
  have hE' : HandlerOwned { e with
      playerId := some x.playerId, phase := .idle }
      w.sessions w.issued (x :: w.assigned) := by
    refine ⟨?_, hE.mine, hE.drawn, nofun, ?_⟩
    · intro hnone
      rw [show e.agentId = none from hnone] at hagent
      cases hagent
    · intro c hc
      unfold SlotHandler.carried at hc
      rw [hagent, hgame] at hc
      cases ho : e.isOpen with
      | true =>
        simp only [ho, ConnectPhase.previous, if_true, Option.toList_some,
          Option.toList_none, List.append_nil, List.map_cons, List.map_nil,
          List.mem_singleton] at hc
        rw [hc]
        exact Backed.self _ _
      | false => simp [ho, ConnectPhase.previous] at hc
  have hset := (hw.becomes hx hr).setHandler h hE'
  unfold SlotWorld.assignPlayer
  split
  next hcond =>
    simp only [Bool.and_eq_true, decide_eq_true_eq] at hcond
    unfold SlotWorld.savePlayerId
    split
    next sid hinfo =>
      refine ⟨hset.sessions.save hcond.2 (Backed.self _ _) ?_, ?_,
        hset.taken, hset.earned⟩
      · intro s hs
        obtain ⟨ha, hg⟩ := hE.mine sid hinfo s hs
        rw [hagent] at ha
        rw [hgame] at hg
        exact ⟨(Option.some.inj ha).symm, hg.symm⟩
      · intro i e' he'
        refine (hset.handlers i e' he').same ?_
        intro j s' hs'
        rw [Dict.get?_modify] at hs'
        split at hs'
        · obtain ⟨s, hs, rfl⟩ := Option.map_eq_some_iff.mp hs'
          exact ⟨s, hs, rfl, rfl⟩
        · exact ⟨s', hs', rfl, rfl⟩
    next => exact hset
  next => exact hset

theorem assign (hw : Owned w) {h : HandlerId} {connInfo : Option Int}
    (hc : w.Proper (.assign h connInfo))
    (hstep : w.assign h connInfo = some w') : Owned w' := by
  unfold SlotWorld.assign at hstep
  split at hstep
  next => cases hstep
  next e he =>
    split at hstep
    next r previous agentId gameId hphase hagent hgame =>
      have hproper := hc e he
      rw [hphase] at hproper
      split at hstep
      next p hp =>
        cases hstep
        obtain ⟨hslot, hheld⟩ := hw.claimed_backed he (r := r)
          (x := ⟨gameId, p, agentId⟩) hagent hgame
          (by rw [hphase]; exact hp) rfl
        refine hw.assignPlayer he hagent hgame ?_ fun _ => mem_of_holder hheld
        intro c hc hg hp' hslot'
        have hbacked := hw.backed hc hslot'
        rw [hg, hp', hheld] at hbacked
        exact (Option.some.inj hbacked).symm
      next hnone =>
        split at hstep
        next p hp =>
          cases hstep
          refine hw.assignPlayer he hagent hgame ?_ nofun
          intro c hmem hg hp' hslot
          have hsame := hproper hnone p
            (Option.filter_eq_some_iff.mp hp).1 c hmem hp'
            (by rw [hgame, hg]) hslot
          rw [hagent] at hsame
          exact (Option.some.inj hsame).symm
        next =>
          cases hstep
          exact hw.setHandler h
            (narrow (hw.handlers h e he) rfl rfl rfl rfl id nofun)
    next => cases hstep

theorem connect (hw : Owned w) {h : HandlerId} {msg : ConnectMessage}
    (hc : w.Proper (.connect h msg))
    (hstep : w.connect h msg = some w') : Owned w' := by
  unfold SlotWorld.connect at hstep
  split at hstep
  next => cases hstep
  next e he =>
    split at hstep
    next hcond =>
      simp only [Bool.and_eq_true, Bool.not_eq_true', beq_iff_eq,
        List.contains_eq_mem, decide_eq_false_iff_not] at hcond
      obtain ⟨⟨hopen, hidle⟩, hnew⟩ := hcond
      have hw₁ := hw.validate he
      have hproper := hc e he
      have hkeep := validate_true (w := w) (h := h) (e := e)
      generalize hv : w.validate h e = v at hstep hw₁ hproper hkeep
      obtain ⟨v, valid⟩ := v
      cases valid with
      | true =>
        cases hstep
        obtain ⟨hhandlers, hissued⟩ := hkeep rfl
        refine hw₁.identify ?_ hopen hidle ?_ (hproper rfl)
        · rw [hhandlers]
          exact he
        · rw [hissued]
          exact hnew
      | false =>
        cases hstep
        exact hw₁
    next => cases hstep

theorem step (hw : Owned w) {a : SlotAct} (hc : w.Proper a)
    (hstep : w.apply a = some w') : Owned w' := by
  cases a with
  | tick n =>
    cases hstep
    exact ⟨hw.sessions, hw.handlers, hw.taken, hw.earned⟩
  | opens h =>
    simp only [SlotWorld.apply] at hstep
    split at hstep
    · cases hstep
    · cases hstep
      refine hw.setHandler h ⟨fun _ => ⟨rfl, rfl⟩, ?_, ?_, ?_, ?_⟩
      · intro sid hsid
        cases hsid
      · intro sid hsid
        cases hsid
      · intro p hp
        cases hp
      · intro x hx
        cases hx
  | connect h msg => exact hw.connect hc hstep
  | reachCivserver h => exact hw.reachCivserver hstep
  | civserverFails h => exact hw.civserverFails hstep
  | aborts h => exact hw.aborts hstep
  | assign h connInfo => exact hw.assign hc hstep
  | message h =>
    simp only [SlotWorld.apply] at hstep
    split at hstep
    next => cases hstep
    next e he =>
      split at hstep
      · cases hstep
        exact hw.validate he
      · cases hstep
  | close h => exact hw.close hstep
  | suspend sid =>
    cases hstep
    exact hw.kept (.suspendSession _ sid w.now)
  | cleanup =>
    cases hstep
    exact hw.kept (.cleanup w.sessions w.now)

theorem init : Owned SlotWorld.init := by
  have hempty : ∀ {κ ν : Type} [DecidableEq κ] (k : κ) {v : ν},
      ¬ (∅ : Dict κ ν).get? k = some v := by
    intro κ ν _ k v h
    cases h
  refine ⟨⟨?_, ?_, ?_, ?_, ?_, ?_⟩, ?_, nofun, rfl⟩
  · exact fun sid s hs => absurd hs (hempty sid)
  · exact fun a sid s hsid _ => absurd hsid (hempty a)
  · exact fun sid s hs => absurd hs (hempty sid)
  · exact fun a sid hsid => absurd hsid (hempty a)
  · exact fun sid s hs => absurd hs (hempty sid)
  · exact fun sid s hs => absurd hs (hempty sid)
  · exact fun h e he => absurd he (hempty h)

theorem oneAgentPerSlot (hw : Owned w) : w.OneAgentPerSlot := by
  have hbacked : ∀ x ∈ w.acting, Backed w.assigned x := by
    intro x hx
    rcases List.mem_append.mp hx with hx | hx
    · exact hw.taken x hx
    · obtain ⟨e, he, hmem⟩ := List.mem_flatMap.mp hx
      obtain ⟨h, he⟩ := Dict.mem_values_iff.mp he
      refine (hw.handlers h e he).backed x ?_
      unfold SlotHandler.acts at hmem
      unfold SlotHandler.carried
      split at hmem
      next a g ha hg =>
        split at hmem
        next ho =>
          rw [if_pos (Bool.and_eq_true_iff.mp ho).1, List.map_append]
          exact List.mem_append_left _ hmem
        next => cases hmem
      next => cases hmem
  refine ⟨?_, hw.earned⟩
  intro x hx y hy hg hp hslot
  have hx' := hbacked x hx hslot
  have hy' := hbacked y hy (by rw [← hp]; exact hslot)
  rw [hg, hp, hy'] at hx'
  exact (Option.some.inj hx').symm

end Owned

-- ==== the main result

/-- Over every run whose steps are proper, a slot is one agent's. -/
theorem slots_exclusive_via {w : SlotWorld}
    (h : slotRuns.ReachVia SlotWorld.Proper w) : w.OneAgentPerSlot := by
  have hw : Owned w := by
    refine h.invariant ?_ ?_
    · intro w hw
      rw [show w = .init from hw]
      exact Owned.init
    · intro w a w' hw hc hstep
      exact hw.step hc hstep
  exact hw.oneAgentPerSlot

namespace SlotWorld

def joinsG1 (agentId : AgentId) (playerId : Option Int)
    (newSessionId : String) : ConnectMessage :=
  ⟨agentId, "g1", playerId, fun _ => true, newSessionId, "hash"⟩

/-- Alice and bob are assigned players; alice reconnects. -/
def aliceReturns : List SlotAct :=
  [.opens 0, .connect 0 (joinsG1 "alice" none "s0"), .reachCivserver 0,
    .assign 0 (some 0), .opens 1, .connect 1 (joinsG1 "bob" none "s1"),
    .reachCivserver 1, .assign 1 (some 1), .close 0, .opens 2,
    .connect 2 (joinsG1 "alice" none "s2"), .reachCivserver 2,
    .assign 2 none]

end SlotWorld

theorem slots_exclusive_via_aliceReturns :
    ∃ w, slotRuns.exec .init SlotWorld.aliceReturns = some w
      ∧ w.OneAgentPerSlot := by
  obtain ⟨w, hw⟩ := Option.isSome_iff_exists.mp
    (show (slotRuns.exec .init SlotWorld.aliceReturns).isSome = true by decide)
  exact ⟨w, hw, slots_exclusive_via
    (Lts.ReachVia.exec (.init rfl) (by decide) hw)⟩

namespace SlotWorld

def bobNamesAlice : List SlotAct :=
  [.opens 0, .connect 0 (joinsG1 "alice" none "s0"), .reachCivserver 0,
    .assign 0 (some 0), .opens 1, .connect 1 (joinsG1 "bob" (some 0) "s1"),
    .reachCivserver 1, .assign 1 none]

end SlotWorld

/-- Bob is alice's player. -/
theorem slot_shared :
    ¬ slotRuns.Always SlotWorld.OneAgentPerSlot .init
      SlotWorld.bobNamesAlice := by
  decide

end Freeciv3d.Proxy
