/-
The index `agent_connections` of the gateway against `connections`: in
every state it holds the agent connections that no removal has begun
on (`Indexed`, `reach_indexed`), whatever the interleaving. What the
interleavings break is the absence of exceptions: a removal deletes
its connection after the close, when another one may have deleted it,
and the maintenance loop iterates the live dictionary across its
heartbeats. `Undisturbed` says of a resumption that neither happened.

# How the invariant moves

Most operations touch nothing the invariant reads (`Agree`). It moves
in three places: a connection is added, a removal begins (the id
leaves the index and joins the removals), a removal ends (the id
leaves `connections`).
-/
import Freeciv3d.Gateway.ConnectionManager

namespace Freeciv3d.Gateway

open Lib

-- ==== the invariant

namespace ConnectionManager

/-- `agent_connections[a]`, empty when absent. -/
def index (s : ConnectionManager) (a : String) : Finset ConnectionId :=
  (s.agentConnections.get? a).getD ∅

/-- `connections` holds the id with type agent and this identifier. -/
def HeldBy (s : ConnectionManager) (a : String) (id : ConnectionId) : Prop :=
  id ∈ s.connections ∧ (s.heap id).connectionType = .agent
    ∧ (s.heap id).identifier = a

/-- The connections whose removal waits for its close. -/
def removing (s : ConnectionManager) : List ConnectionId :=
  s.tasks.filterMap Task.removing?

/-- What holds of the index in every state. -/
structure Indexed (cfg : Settings) (s : ConnectionManager) : Prop where
  fresh : ∀ id ∈ s.connections, id < s.nextId
  freshRemoving : ∀ id ∈ s.removing, id < s.nextId
  nodup : s.connections.Nodup
  agents : ∀ a id, id ∈ s.index a ↔ s.HeldBy a id ∧ id ∉ s.removing
  sets : ∀ a ids, s.agentConnections.get? a = some ids →
    ids.Nonempty ∧ ids.card ≤ cfg.maxConnectionsPerAgent

/-- The two states agree on everything the invariant reads. -/
structure Agree (s s' : ConnectionManager) : Prop where
  connections : s'.connections = s.connections
  nextId : s'.nextId = s.nextId
  agentConnections : s'.agentConnections = s.agentConnections
  heap : ∀ id, (s'.heap id).connectionType = (s.heap id).connectionType
    ∧ (s'.heap id).identifier = (s.heap id).identifier
  removing : ∀ id, id ∈ s'.removing ↔ id ∈ s.removing

variable {cfg : Settings} {s s' t' : ConnectionManager}
variable {id : ConnectionId} {now : Int}

theorem Agree.refl (s : ConnectionManager) : s.Agree s :=
  ⟨rfl, rfl, rfl, fun _ => ⟨rfl, rfl⟩, fun _ => Iff.rfl⟩

theorem Agree.trans (h : s.Agree s') (h' : s'.Agree t') : s.Agree t' where
  connections := h'.connections.trans h.connections
  nextId := h'.nextId.trans h.nextId
  agentConnections := h'.agentConnections.trans h.agentConnections
  heap id :=
    ⟨(h'.heap id).1.trans (h.heap id).1, (h'.heap id).2.trans (h.heap id).2⟩
  removing id := (h'.removing id).trans (h.removing id)

theorem Agree.heldBy (h : s.Agree s') (a : String) (id : ConnectionId) :
    s'.HeldBy a id ↔ s.HeldBy a id := by
  unfold HeldBy
  rw [h.connections, (h.heap id).1, (h.heap id).2]

theorem Indexed.of_agree (hi : s.Indexed cfg) (h : s.Agree s') :
    s'.Indexed cfg where
  fresh id hid := by
    rw [h.connections] at hid
    rw [h.nextId]
    exact hi.fresh id hid
  freshRemoving id hid := by
    rw [h.nextId]
    exact hi.freshRemoving id ((h.removing id).mp hid)
  nodup := by
    rw [h.connections]
    exact hi.nodup
  agents a id := by
    rw [h.heldBy, h.removing, ← hi.agents]
    unfold index
    rw [h.agentConnections]
  sets a ids hids := by
    rw [h.agentConnections] at hids
    exact hi.sets a ids hids

-- ==== what agrees

theorem agree_raise (s : ConnectionManager) (e : PyError) :
    s.Agree (s.raise e) :=
  ⟨rfl, rfl, rfl, fun _ => ⟨rfl, rfl⟩, fun _ => Iff.rfl⟩

theorem agree_tasks (s : ConnectionManager) {ts : List Task}
    (h : ∀ t ∈ ts, t.removing? = none) :
    s.Agree { s with tasks := s.tasks ++ ts } := by
  refine ⟨rfl, rfl, rfl, fun _ => ⟨rfl, rfl⟩, fun id => ?_⟩
  have hnil : ts.filterMap Task.removing? = [] :=
    List.filterMap_eq_nil_iff.mpr h
  show id ∈ (s.tasks ++ ts).filterMap Task.removing? ↔ _
  rw [List.filterMap_append, hnil, List.append_nil]
  exact Iff.rfl

theorem agree_spawn (s : ConnectionManager) {t : Task}
    (h : t.removing? = none) : s.Agree (s.spawn t) :=
  s.agree_tasks (by simpa using h)

theorem agree_modifyInfo (s : ConnectionManager) (id : ConnectionId)
    (f : ConnectionInfo → ConnectionInfo)
    (hf : ∀ i, (f i).connectionType = i.connectionType
      ∧ (f i).identifier = i.identifier) :
    s.Agree (s.modifyInfo id f) := by
  refine ⟨rfl, rfl, rfl, fun c => ?_, fun _ => Iff.rfl⟩
  by_cases hc : c = id
  · subst hc
    simp [modifyInfo, hf]
  · simp [modifyInfo, Function.update_of_ne hc]

theorem agree_lastSeen (s : ConnectionManager) (id : ConnectionId) :
    s.Agree (s.modifyInfo id fun i => { i with lastSeen := now }) :=
  s.agree_modifyInfo id _ fun _ => ⟨rfl, rfl⟩

theorem agree_cleanSessions (s : ConnectionManager) :
    s.Agree (s.cleanSessions cfg now) :=
  ⟨rfl, rfl, rfl, fun _ => ⟨rfl, rfl⟩, fun _ => Iff.rfl⟩

theorem agree_cleanupDisconnect (s : ConnectionManager)
    (id : ConnectionId) (now : Int) : s.Agree (s.cleanupDisconnect id now) := by
  unfold cleanupDisconnect
  split
  · have h := s.agree_modifyInfo id
      (fun i => { i with disconnectedAt := some now })
      (fun _ => ⟨rfl, rfl⟩)
    exact ⟨h.connections, h.nextId, h.agentConnections, h.heap, h.removing⟩
  · exact .refl s

theorem agree_updateAgentAuth (s : ConnectionManager) (agentId : String)
    (p : Int) (g : Option String) (port : Option Int) :
    s.Agree (s.updateAgentAuth agentId p g port) := by
  refine ⟨rfl, rfl, rfl, fun c => ?_, fun _ => Iff.rfl⟩
  simp only [updateAgentAuth]
  split <;> exact ⟨rfl, rfl⟩

theorem agree_sendNext (s : ConnectionManager) (ids : List ConnectionId) :
    s.Agree (s.sendNext ids) := by
  induction ids with
  | nil => exact .refl s
  | cons id rest ih =>
    unfold sendNext
    split
    · exact s.agree_spawn rfl
    · exact ih

theorem agree_broadcastNext (s : ConnectionManager)
    (failed ids : List ConnectionId) :
    s.Agree (s.broadcastNext failed ids) := by
  cases ids with
  | nil =>
    refine s.agree_tasks fun t ht => ?_
    obtain ⟨c, -, rfl⟩ := List.mem_map.mp ht
    rfl
  | cons id rest => exact s.agree_spawn rfl

theorem agree_eraseIdx {i : Nat} {t : Task} (ht : s.tasks[i]? = some t)
    (hr : t.removing? = none) :
    s.Agree { s with tasks := s.tasks.eraseIdx i } := by
  refine ⟨rfl, rfl, rfl, fun _ => ⟨rfl, rfl⟩, fun id => ?_⟩
  show id ∈ (s.tasks.eraseIdx i).filterMap Task.removing?
    ↔ id ∈ s.tasks.filterMap Task.removing?
  simp only [List.mem_filterMap, List.mem_eraseIdx_iff_getElem?]
  constructor
  · intro h
    rcases h with ⟨u, ⟨j, -, hj⟩, hu⟩
    exact ⟨u, List.mem_of_getElem? hj, hu⟩
  · intro h
    rcases h with ⟨u, hmem, hu⟩
    obtain ⟨j, hj⟩ := List.mem_iff_getElem?.mp hmem
    refine ⟨u, ⟨j, ?_, hj⟩, hu⟩
    intro hji
    rw [hji, ht] at hj
    cases hj
    rw [hr] at hu
    cases hu

-- ==== a removal begins

theorem get?_discard (d : Dict String (Finset ConnectionId))
    (k k' : String) (id : ConnectionId) :
    ((discard d k id).get? k').getD ∅
      = if k' = k then ((d.get? k').getD ∅).erase id
        else (d.get? k').getD ∅ := by
  unfold discard
  by_cases hk : k' = k
  · subst hk
    cases hd : d.get? k' with
    | none => simp [hd]
    | some ids =>
      simp only [if_true, Option.getD_some]
      split
      next he => simp [he]
      next => simp
  · simp only [hk, if_false]
    cases hd : d.get? k with
    | none => rfl
    | some ids =>
      simp only
      split
      · rw [Dict.get?_erase_of_ne _ hk]
      · rw [Dict.get?_set_of_ne _ _ hk]

theorem of_get?_discard {d : Dict String (Finset ConnectionId)}
    {k a : String} {id : ConnectionId} {ids : Finset ConnectionId}
    (h : (discard d k id).get? a = some ids) :
    d.get? a = some ids
      ∨ ids.Nonempty ∧ ∃ ids', d.get? a = some ids' ∧ ids = ids'.erase id := by
  unfold discard at h
  cases hd : d.get? k with
  | none =>
    rw [hd] at h
    exact .inl h
  | some was =>
    rw [hd] at h
    by_cases ha : a = k
    · subst ha
      simp only at h
      split at h
      next => simp at h
      next hne =>
        rw [Dict.get?_set_self] at h
        cases h
        exact .inr ⟨Finset.nonempty_iff_ne_empty.mpr hne, was, hd, rfl⟩
    · simp only at h
      split at h
      · rw [Dict.get?_erase_of_ne _ ha] at h
        exact .inl h
      · rw [Dict.get?_set_of_ne _ _ ha] at h
        exact .inl h

theorem mem_index_beginRemove (hi : s.Indexed cfg) (a : String)
    (c : ConnectionId) :
    c ∈ (s.beginRemove id).index a ↔ c ∈ s.index a ∧ c ≠ id := by
  unfold beginRemove
  split
  next =>
    show c ∈ ((discard _ _ _).get? a).getD ∅ ↔ _
    rw [get?_discard]
    split
    next =>
      rw [Finset.mem_erase]
      exact and_comm
    next hne =>
      constructor
      · intro hc
        refine ⟨hc, ?_⟩
        intro hcid
        subst hcid
        exact hne (((hi.agents a c).mp hc).1.2.2).symm
      · intro hc
        exact hc.1
  next hspec =>
    constructor
    · intro hc
      refine ⟨hc, ?_⟩
      intro hcid
      subst hcid
      have := ((hi.agents a c).mp hc).1.2.1
      rw [hspec] at this
      cases this
    · intro hc
      exact hc.1

theorem beginRemove_sets (hi : s.Indexed cfg) {a : String}
    {ids : Finset ConnectionId}
    (h : (s.beginRemove id).agentConnections.get? a = some ids) :
    ids.Nonempty ∧ ids.card ≤ cfg.maxConnectionsPerAgent := by
  unfold beginRemove at h
  split at h
  · rcases of_get?_discard h with h | ⟨hne, was, hwas, rfl⟩
    · exact hi.sets a ids h
    · refine ⟨hne, ?_⟩
      have := (hi.sets a was hwas).2
      have hle := Finset.card_erase_le (s := was) (a := id)
      omega
  · exact hi.sets a ids h

theorem beginRemove_frame (s : ConnectionManager) (id : ConnectionId) :
    (s.beginRemove id).connections = s.connections
      ∧ (s.beginRemove id).nextId = s.nextId
      ∧ (s.beginRemove id).heap = s.heap
      ∧ (s.beginRemove id).tasks = s.tasks := by
  unfold beginRemove
  split <;> exact ⟨rfl, rfl, rfl, rfl⟩

theorem removing_spawn {t : Task} (ht : t.removing? = some id) :
    (s.spawn t).removing = s.removing ++ [id] := by
  show (s.tasks ++ [t]).filterMap Task.removing? = _
  rw [List.filterMap_append]
  simp [removing, ht]

theorem Indexed.begin (hi : s.Indexed cfg) (hid : id ∈ s.connections)
    {t : Task} (ht : t.removing? = some id) :
    ((s.beginRemove id).spawn t).Indexed cfg := by
  obtain ⟨hc, hn, hh, htasks⟩ := s.beginRemove_frame id
  have hrem : ((s.beginRemove id).spawn t).removing = s.removing ++ [id] := by
    rw [removing_spawn ht]
    unfold removing
    rw [htasks]
  refine ⟨?_, ?_, ?_, ?_, fun a ids h => beginRemove_sets hi h⟩
  · show ∀ c ∈ (s.beginRemove id).connections, c < (s.beginRemove id).nextId
    rw [hc, hn]
    exact hi.fresh
  · intro c hcr
    show c < (s.beginRemove id).nextId
    rw [hn]
    rw [hrem] at hcr
    rcases List.mem_append.mp hcr with h | h
    · exact hi.freshRemoving c h
    · cases List.mem_singleton.mp h
      exact hi.fresh id hid
  · show (s.beginRemove id).connections.Nodup
    rw [hc]
    exact hi.nodup
  · intro a c
    have hheld : ((s.beginRemove id).spawn t).HeldBy a c ↔ s.HeldBy a c := by
      show _ ∈ (s.beginRemove id).connections ∧ _ ↔ _
      rw [hc]
      show _ ∧ ((s.beginRemove id).heap c).connectionType = _
        ∧ ((s.beginRemove id).heap c).identifier = a ↔ _
      rw [hh]
      exact Iff.rfl
    rw [hheld, hrem]
    show c ∈ (s.beginRemove id).index a ↔ _
    rw [mem_index_beginRemove hi, hi.agents]
    simp only [List.mem_append, List.mem_singleton, not_or]
    exact and_assoc

-- ==== a removal ends

theorem Indexed.finish (hi : s.Indexed cfg) {i : Nat} {t : Task}
    (ht : s.tasks[i]? = some t) (hr : t.removing? = some id) :
    { s with tasks := s.tasks.eraseIdx i
             connections := s.connections.erase id }.Indexed cfg := by
  have hsub : ∀ c ∈ (s.tasks.eraseIdx i).filterMap Task.removing?,
      c ∈ s.removing := by
    intro c hc
    obtain ⟨u, hu, huc⟩ := List.mem_filterMap.mp hc
    exact List.mem_filterMap.mpr ⟨u, List.mem_of_mem_eraseIdx hu, huc⟩
  have hback : ∀ c, c ≠ id → c ∈ s.removing →
      c ∈ (s.tasks.eraseIdx i).filterMap Task.removing? := by
    intro c hne hc
    obtain ⟨u, hu, huc⟩ := List.mem_filterMap.mp hc
    obtain ⟨j, hj⟩ := List.mem_iff_getElem?.mp hu
    refine List.mem_filterMap.mpr ⟨u, ?_, huc⟩
    refine List.mem_eraseIdx_iff_getElem?.mpr ⟨j, ?_, hj⟩
    intro hji
    rw [hji, ht] at hj
    cases hj
    rw [hr] at huc
    cases huc
    exact hne rfl
  refine ⟨?_, ?_, hi.nodup.erase id, ?_, hi.sets⟩
  · intro c hc
    exact hi.fresh c (List.mem_of_mem_erase hc)
  · intro c hc
    exact hi.freshRemoving c (hsub c hc)
  · intro a c
    show c ∈ s.index a ↔ (c ∈ s.connections.erase id ∧ _) ∧ _
    rw [hi.agents, hi.nodup.mem_erase_iff]
    have hrid : id ∈ s.removing :=
      List.mem_filterMap.mpr ⟨t, List.mem_of_getElem? ht, hr⟩
    constructor
    · intro h
      rcases h with ⟨⟨hmem, hinfo⟩, hnot⟩
      refine ⟨⟨⟨?_, hmem⟩, hinfo⟩, fun hc => hnot (hsub c hc)⟩
      intro hcid
      subst hcid
      exact hnot hrid
    · intro h
      rcases h with ⟨⟨⟨hne, hmem⟩, hinfo⟩, hnot⟩
      exact ⟨⟨hmem, hinfo⟩, fun hc => hnot (hback c hne hc)⟩

-- ==== a connection is added

theorem createInfo_frame (s : ConnectionManager) (cfg : Settings)
    (t : ConnectionType) (ident : String) (now : Int) :
    let s' := s.createInfo cfg t ident now
    s'.connections = s.connections ∧ s'.nextId = s.nextId + 1
      ∧ s'.agentConnections = s.agentConnections ∧ s'.tasks = s.tasks
      ∧ (∀ c, c ≠ s.nextId → s'.heap c = s.heap c)
      ∧ (s'.heap s.nextId).connectionType = t
      ∧ (s'.heap s.nextId).identifier = ident := by
  have hcheck : ∃ d c, s.checkResumableSession cfg ident now
      = ({ s with disconnectedSessions := d }, c) := by
    unfold checkResumableSession
    split
    · exact ⟨_, _, rfl⟩
    · split
      · exact ⟨_, _, rfl⟩
      · split
        · exact ⟨_, _, rfl⟩
        · split <;> exact ⟨_, _, rfl⟩
  obtain ⟨d, c, hdc⟩ := hcheck
  unfold createInfo
  rw [hdc]
  refine ⟨rfl, rfl, rfl, rfl, ?_, ?_, ?_⟩
  · intro c' hc'
    exact Function.update_of_ne hc' ..
  · cases c <;> simp [newInfo]
  · cases c <;> simp [newInfo]

theorem Indexed.createInfo (hi : s.Indexed cfg) (t : ConnectionType)
    (ident : String) (now : Int) :
    (s.createInfo cfg t ident now).Indexed cfg := by
  obtain ⟨hc, hn, ha, ht, hh, -, -⟩ := s.createInfo_frame cfg t ident
    now
  have hrem : (s.createInfo cfg t ident now).removing = s.removing := by
    unfold removing
    rw [ht]
  refine ⟨?_, ?_, ?_, ?_, ?_⟩
  · intro c hcm
    rw [hc] at hcm
    rw [hn]
    exact Nat.lt_succ_of_lt (hi.fresh c hcm)
  · intro c hcm
    rw [hrem] at hcm
    rw [hn]
    exact Nat.lt_succ_of_lt (hi.freshRemoving c hcm)
  · rw [hc]
    exact hi.nodup
  · intro a c
    have hindex : (s.createInfo cfg t ident now).index a = s.index a := by
      unfold index
      rw [ha]
    rw [hindex, hrem, hi.agents]
    unfold HeldBy
    rw [hc]
    have hheap : c ∈ s.connections →
        (s.createInfo cfg t ident now).heap c = s.heap c := by
      intro hcm
      exact hh c (Nat.ne_of_lt (hi.fresh c hcm))
    constructor
    · intro h
      refine ⟨⟨h.1.1, ?_⟩, h.2⟩
      rw [hheap h.1.1]
      exact h.1.2
    · intro h
      refine ⟨⟨h.1.1, ?_⟩, h.2⟩
      rw [← hheap h.1.1]
      exact h.1.2
  · rw [ha]
    exact hi.sets

/-- A connection id not used yet joins `connections`; the index gains
it exactly under its own identifier. -/
theorem Indexed.push (hi : s.Indexed cfg) (hid : id < s.nextId)
    (hnew : id ∉ s.connections) (hnr : id ∉ s.removing)
    {index' : Dict String (Finset ConnectionId)}
    (hindex : ∀ a c, c ∈ (index'.get? a).getD ∅ ↔ c ∈ s.index a
      ∨ c = id ∧ (s.heap id).connectionType = .agent
        ∧ (s.heap id).identifier = a)
    (hsets : ∀ a ids, index'.get? a = some ids →
      ids.Nonempty ∧ ids.card ≤ cfg.maxConnectionsPerAgent) :
    { s with agentConnections := index'
             connections := s.connections ++ [id] }.Indexed cfg := by
  refine ⟨?_, hi.freshRemoving, ?_, ?_, hsets⟩
  · intro c hc
    rcases List.mem_append.mp hc with h | h
    · exact hi.fresh c h
    · cases List.mem_singleton.mp h
      exact hid
  · refine List.nodup_append.mpr ⟨hi.nodup, by simp, ?_⟩
    intro c hc d hd hcd
    cases List.mem_singleton.mp hd
    exact hnew (hcd ▸ hc)
  · intro a c
    show c ∈ (index'.get? a).getD ∅
      ↔ (c ∈ s.connections ++ [id] ∧ _) ∧ _
    rw [hindex, hi.agents]
    simp only [List.mem_append, List.mem_singleton]
    constructor
    · intro h
      rcases h with ⟨⟨hm, hinfo⟩, hnot⟩ | ⟨rfl, hinfo⟩
      · exact ⟨⟨.inl hm, hinfo⟩, hnot⟩
      · exact ⟨⟨.inr rfl, hinfo⟩, hnr⟩
    · intro h
      rcases h with ⟨⟨hm | rfl, hinfo⟩, hnot⟩
      · exact .inl ⟨⟨hm, hinfo⟩, hnot⟩
      · exact .inr ⟨rfl, hinfo⟩

theorem Indexed.addConnection (hi : s.Indexed cfg) (t : ConnectionType)
    (ident : String) : (s.addConnection cfg t ident now).Indexed cfg := by
  obtain ⟨hc, hn, ha, ht, -, htype, hident⟩ := s.createInfo_frame cfg t ident
    now
  have hi' := hi.createInfo t ident now
  have hid : s.nextId < (s.createInfo cfg t ident now).nextId := by
    rw [hn]
    exact Nat.lt_succ_self _
  have hnew : s.nextId ∉ (s.createInfo cfg t ident now).connections := by
    rw [hc]
    intro h
    exact Nat.lt_irrefl _ (hi.fresh _ h)
  have hnr : s.nextId ∉ (s.createInfo cfg t ident now).removing := by
    unfold removing
    rw [ht]
    intro h
    exact Nat.lt_irrefl _ (hi.freshRemoving _ h)
  cases t with
  | spectator =>
    refine (hi'.push hid hnew hnr ?_ hi'.sets).of_agree
      ⟨rfl, rfl, rfl, fun _ => ⟨rfl, rfl⟩, fun _ => Iff.rfl⟩
    intro a c
    rw [htype]
    simp [index]
  | agent =>
    unfold ConnectionManager.addConnection
    simp only
    split
    next => exact hi'.of_agree (agree_raise _ _)
    next hfull =>
      refine hi'.push hid hnew hnr ?_ ?_
      · intro a c
        rw [htype, hident, Dict.get?_set]
        by_cases haid : a = ident
        · subst haid
          simp only [if_true, Option.getD_some, Finset.mem_insert,
            and_true]
          exact or_comm
        · have hne : ident ≠ a := fun h => haid h.symm
          simp [haid, hne, index]
      · intro a ids hids
        rw [Dict.get?_set] at hids
        split at hids
        next =>
          cases hids
          refine ⟨⟨_, Finset.mem_insert_self ..⟩, ?_⟩
          have hle := Finset.card_insert_le s.nextId
            (((s.createInfo cfg .agent ident now).agentConnections.get?
              ident).getD ∅)
          have hmax := cfg.one_le_max
          cases hget : (s.createInfo cfg .agent ident now
              ).agentConnections.get? ident with
          | none =>
            rw [hget] at hle
            simp only [Option.getD_none, Finset.card_empty] at hle ⊢
            omega
          | some was =>
            rw [hget] at hle
            simp only [Dict.contains, hget, Option.isSome_some,
              Bool.true_and, Option.getD_some, decide_eq_true_eq,
              not_le] at hfull hle ⊢
            omega
        next => exact hi'.sets a ids hids

-- ==== one step

theorem Indexed.removeConnection (hi : s.Indexed cfg) :
    (s.removeConnection id).Indexed cfg := by
  unfold ConnectionManager.removeConnection
  split
  next hid => exact hi.begin hid rfl
  next => exact hi

theorem Indexed.handleDisconnect (hi : s.Indexed cfg) :
    (s.handleDisconnect id now).Indexed cfg := by
  unfold ConnectionManager.handleDisconnect
  split
  · exact (hi.of_agree (s.agree_cleanupDisconnect id now)).removeConnection
  · exact hi

theorem Indexed.removeExpired (hi : s.Indexed cfg)
    (ids : List ConnectionId) : (s.removeExpired cfg now ids).Indexed cfg := by
  induction ids with
  | nil => exact hi.of_agree (agree_cleanSessions s)
  | cons id rest ih =>
    unfold ConnectionManager.removeExpired
    split
    next hid =>
      have hagree := s.agree_cleanupDisconnect id now
      refine (hi.of_agree hagree).begin ?_ rfl
      rw [hagree.connections]
      exact hid
    next => exact ih

theorem Indexed.afterScan (hi : s.Indexed cfg) (r : Scan) :
    (s.afterScan cfg now r).Indexed cfg := by
  cases r with
  | heartbeat it id => exact hi.of_agree (s.agree_spawn rfl)
  | finished ids => exact hi.removeExpired ids
  | raised e => exact hi.of_agree (agree_raise s e)

theorem Indexed.resume (hi : s.Indexed cfg) {t : Task}
    (ht : t.removing? = none) (ok : Bool) :
    (s.resume cfg ok now t).Indexed cfg := by
  cases t with
  | handleDisconnect id => exact hi.handleDisconnect
  | closing id => cases ht
  | closingExpired id rest => cases ht
  | heartbeat it id =>
    simp only [ConnectionManager.resume]
    split
    · exact (hi.of_agree (s.agree_lastSeen id)).afterScan _
    · exact hi.afterScan _
  | sending id rest =>
    simp only [ConnectionManager.resume]
    split
    · exact hi
    · exact hi.of_agree ((s.agree_spawn rfl).trans (agree_sendNext _ rest))
  | broadcasting id rest failed =>
    simp only [ConnectionManager.resume]
    split
    · exact hi.of_agree
        ((s.agree_lastSeen id).trans (agree_broadcastNext _ _ _))
    · exact hi.of_agree (agree_broadcastNext _ _ _)

/-- Deleting an absent connection changes nothing but the log of
exceptions. -/
theorem delConnection_eq (s : ConnectionManager) (id : ConnectionId) :
    s.delConnection id
      = if id ∈ s.connections then
          .ok { s with connections := s.connections.erase id }
        else .error (.keyError id) := rfl

theorem Indexed.resume_removing (hi : s.Indexed cfg) {i : Nat} {t : Task}
    (ht : s.tasks[i]? = some t) (hr : t.removing? = some id) (ok : Bool) :
    ({ s with tasks := s.tasks.eraseIdx i }.resume cfg ok now t).Indexed
      cfg := by
  have hfin := hi.finish ht hr
  by_cases hid : id ∈ s.connections
  · cases t with
    | closing c =>
      cases hr
      simpa only [ConnectionManager.resume, delConnection_eq, hid, if_true]
        using hfin
    | closingExpired c rest =>
      cases hr
      simp only [ConnectionManager.resume, delConnection_eq, hid, if_true]
      exact hfin.removeExpired rest
    | handleDisconnect c | heartbeat it c | sending c rest
    | broadcasting c rest failed => cases hr
  · rw [List.erase_of_not_mem hid] at hfin
    cases t with
    | closing c | closingExpired c rest =>
      cases hr
      simp only [ConnectionManager.resume, delConnection_eq, hid, if_false]
      exact hfin.of_agree (agree_raise _ _)
    | handleDisconnect c | heartbeat it c | sending c rest
    | broadcasting c rest failed => cases hr

theorem Indexed.step (hi : s.Indexed cfg) {a : Act}
    (h : (gateway cfg).step s a = some s') : s'.Indexed cfg := by
  change s.apply cfg a = some s' at h
  cases a with
  | addConnection t ident now =>
    cases h
    exact hi.addConnection t ident
  | removeConnection id =>
    cases h
    exact hi.removeConnection
  | handleDisconnect id now =>
    cases h
    exact hi.handleDisconnect
  | updateAgentAuth agentId p g port =>
    cases h
    exact hi.of_agree (s.agree_updateAgentAuth agentId p g port)
  | sendToAgent agentId order =>
    simp only [apply, sendToAgent] at h
    split at h
    · cases h
      exact hi.of_agree (agree_sendNext _ _)
    · cases h
  | broadcastToSpectators gameId order =>
    simp only [apply, broadcastToSpectators] at h
    split at h
    · cases h
      exact hi.of_agree (agree_broadcastNext _ _ _)
    · cases h
  | maintainConnections now =>
    cases h
    exact hi.afterScan _
  | resume i ok now =>
    obtain ⟨t, ht, rfl⟩ := Option.map_eq_some_iff.mp h
    cases hr : t.removing? with
    | none => exact (hi.of_agree (agree_eraseIdx ht hr)).resume hr ok
    | some id => exact hi.resume_removing ht hr ok

theorem indexed_init (heap : ConnectionId → ConnectionInfo) :
    (init heap).Indexed cfg := by
  refine ⟨by simp [init], by simp [init, removing], by simp [init], ?_, ?_⟩
  · intro a c
    simp [index, init, HeldBy, Dict.get?_empty]
  · intro a ids h
    simp [init, Dict.get?_empty] at h

end ConnectionManager

-- ==== exceptions

namespace ConnectionManager

variable {cfg : Settings} {s s' : ConnectionManager}
variable {id : ConnectionId} {now : Int}

/-- The next entry is ahead of the iterator's place, so fewer entries
are ahead of the place behind it. -/
theorem countP_ahead_lt {l : List ConnectionId} {place id : ConnectionId}
    (hid : id ∈ l) (hp : place ≤ id) :
    l.countP (fun c => decide (id + 1 ≤ c))
      < l.countP (fun c => decide (place ≤ c)) := by
  have hle : ∀ c, id + 1 ≤ c → place ≤ c := by
    intro c hc
    exact Nat.le_trans hp (Nat.le_of_succ_le hc)
  have hmono : ∀ m : List ConnectionId,
      m.countP (fun c => decide (id + 1 ≤ c))
        ≤ m.countP (fun c => decide (place ≤ c)) := by
    intro m
    refine List.countP_mono_left fun c _ hc => ?_
    simp only [decide_eq_true_eq] at hc ⊢
    exact hle c hc
  induction l with
  | nil => cases hid
  | cons c rest ih =>
    rcases List.mem_cons.mp hid with rfl | hrest
    · rw [List.countP_cons_of_neg (by simp),
        List.countP_cons_of_pos (by simpa using hp)]
      have := hmono rest
      omega
    · have := ih hrest
      simp only [List.countP_cons]
      by_cases hc : id + 1 ≤ c
      · simp only [hc, hle c hc, decide_true, if_true]
        omega
      · simp only [hc, decide_false, Bool.false_eq_true, if_false]
        omega

/-- An iterator whose dict kept its size, with no more entries ahead
than it expects, does not raise. -/
theorem scan_ne_raised {size : Nat} (hsize : s.connections.length = size)
    {left : Nat} {place : ConnectionId} {expired : List ConnectionId}
    (hleft : s.connections.countP (fun c => decide (place ≤ c)) ≤ left)
    (e : PyError) : s.scan cfg now size left place expired ≠ .raised e := by
  have hnext : ∀ p, s.nextEntry size p
      = .ok (s.connections.find? fun c => decide (p ≤ c)) := by
    intro p
    simp [nextEntry, hsize]
  induction left generalizing place expired with
  | zero =>
    have hnone :
        s.connections.find? (fun c => decide (place ≤ c)) = none := by
      refine List.find?_eq_none.mpr fun c hc hp => ?_
      have hpos : 0 < s.connections.countP
          (fun c => decide (place ≤ c)) :=
        List.countP_pos_iff.mpr ⟨c, hc, hp⟩
      omega
    simp [scan, hnext, hnone]
  | succ left ih =>
    unfold scan
    rw [hnext]
    cases hfind : s.connections.find? (fun c => decide (place ≤ c)) with
    | none => simp
    | some c =>
      have hp : place ≤ c := by simpa using List.find?_some hfind
      have hlt := countP_ahead_lt (List.mem_of_find?_eq_some hfind) hp
      have hrest : s.connections.countP
          (fun d => decide (c + 1 ≤ d)) ≤ left := by omega
      simp only
      split
      · exact ih hrest
      · split
        · simp
        · exact ih hrest

theorem raised_beginRemove (s : ConnectionManager) (id : ConnectionId) :
    (s.beginRemove id).raised = s.raised := by
  unfold beginRemove
  split <;> rfl

theorem raised_cleanupDisconnect (s : ConnectionManager)
    (id : ConnectionId) : (s.cleanupDisconnect id now).raised = s.raised := by
  unfold cleanupDisconnect
  split <;> rfl

theorem raised_removeConnection (s : ConnectionManager)
    (id : ConnectionId) : (s.removeConnection id).raised = s.raised := by
  unfold removeConnection
  split
  · exact s.raised_beginRemove id
  · rfl

theorem raised_handleDisconnect (s : ConnectionManager)
    (id : ConnectionId) : (s.handleDisconnect id now).raised = s.raised := by
  unfold handleDisconnect
  split
  · rw [raised_removeConnection, raised_cleanupDisconnect]
  · rfl

theorem raised_removeExpired (s : ConnectionManager)
    (ids : List ConnectionId) :
    (s.removeExpired cfg now ids).raised = s.raised := by
  induction ids with
  | nil => rfl
  | cons id rest ih =>
    unfold removeExpired
    split
    · show ((s.cleanupDisconnect id now).beginRemove id).raised = _
      rw [raised_beginRemove, raised_cleanupDisconnect]
    · exact ih

theorem raised_sendNext (s : ConnectionManager) (ids : List ConnectionId) :
    (s.sendNext ids).raised = s.raised := by
  induction ids with
  | nil => rfl
  | cons id rest ih =>
    unfold sendNext
    split
    · rfl
    · exact ih

theorem raised_broadcastNext (s : ConnectionManager)
    (failed ids : List ConnectionId) :
    (s.broadcastNext failed ids).raised = s.raised := by
  cases ids <;> rfl

theorem raised_afterScan {r : Scan} (s : ConnectionManager)
    (h : ∀ e, r ≠ .raised e) : (s.afterScan cfg now r).raised = s.raised := by
  cases r with
  | heartbeat it id => rfl
  | finished ids => exact s.raised_removeExpired ids
  | raised e => exact absurd rfl (h e)

theorem raised_maintainConnections (s : ConnectionManager) :
    (s.maintainConnections cfg now).raised = s.raised :=
  s.raised_afterScan (scan_ne_raised rfl List.countP_le_length)

theorem raised_addConnection (s : ConnectionManager) (cfg : Settings)
    (t : ConnectionType) (ident : String) (now : Int) :
    (s.addConnection cfg t ident now).raised = s.raised
      ∨ (s.addConnection cfg t ident now).raised
        = s.raised ++ [tooManyConnections ident] := by
  have hcreate : (s.createInfo cfg t ident now).raised = s.raised := by
    show (s.checkResumableSession cfg ident now).1.raised = _
    unfold checkResumableSession
    split
    · rfl
    · split
      · rfl
      · split
        · rfl
        · split <;> rfl
  cases t with
  | spectator => exact .inl hcreate
  | agent =>
    simp only [addConnection]
    split
    · right
      show (s.createInfo cfg .agent ident now).raised ++ _ = _
      rw [hcreate]
    · exact .inl hcreate

end ConnectionManager

-- ==== the condition

/-- What a coroutine must find when it runs on: a removal its
connection, the maintenance loop a dict of the size it started on with
no more entries ahead than it still expects. -/
def Task.Undisturbed (s : ConnectionManager) : Task → Prop
  | closing id => id ∈ s.connections
  | closingExpired id _ => id ∈ s.connections
  | heartbeat it _ =>
    s.connections.length = it.size
      ∧ s.connections.countP (fun c => decide (it.place ≤ c)) ≤ it.left
  | _ => True

/-- The coroutine a step resumes finds what it needs; other steps are
free. -/
def Undisturbed (s : ConnectionManager) : Act → Prop
  | .resume i _ _ => ∀ t ∈ s.tasks[i]?, t.Undisturbed s
  | _ => True

instance (s : ConnectionManager) (t : Task) : Decidable (t.Undisturbed s) :=
  match t with
  | .closing id => inferInstanceAs (Decidable (id ∈ s.connections))
  | .closingExpired id _ => inferInstanceAs (Decidable (id ∈ s.connections))
  | .heartbeat _ _ => inferInstanceAs (Decidable (_ ∧ _))
  | .handleDisconnect _ => isTrue trivial
  | .sending _ _ => isTrue trivial
  | .broadcasting _ _ _ => isTrue trivial

instance (s : ConnectionManager) (a : Act) : Decidable (Undisturbed s a) :=
  match a with
  | .resume i _ _ =>
    inferInstanceAs (Decidable (∀ t ∈ s.tasks[i]?, t.Undisturbed s))
  | .addConnection _ _ _ => isTrue trivial
  | .removeConnection _ => isTrue trivial
  | .handleDisconnect _ _ => isTrue trivial
  | .updateAgentAuth _ _ _ _ => isTrue trivial
  | .sendToAgent _ _ => isTrue trivial
  | .broadcastToSpectators _ _ => isTrue trivial
  | .maintainConnections _ => isTrue trivial

variable {cfg : Settings} {s s' : ConnectionManager}

/-- A coroutine that finds what it needs runs on without an
exception. -/
theorem raised_resume {t : Task} {i : Nat} (h : t.Undisturbed s)
    (ok : Bool) (now : Int) :
    ({ s with tasks := s.tasks.eraseIdx i }.resume cfg ok now t).raised
      = s.raised := by
  cases t with
  | handleDisconnect id => exact ConnectionManager.raised_handleDisconnect _ id
  | closing id =>
    have hid : id ∈ s.connections := h
    simp [ConnectionManager.resume, ConnectionManager.delConnection, hid]
  | closingExpired id rest =>
    have hid : id ∈ s.connections := h
    simp only [ConnectionManager.resume, ConnectionManager.delConnection,
      hid, if_true]
    exact ConnectionManager.raised_removeExpired _ rest
  | heartbeat it id =>
    have hit : s.connections.length = it.size
      ∧ s.connections.countP (fun c => decide (it.place ≤ c)) ≤ it.left := h
    simp only [ConnectionManager.resume]
    split
    · refine ConnectionManager.raised_afterScan _ fun e =>
        ConnectionManager.scan_ne_raised ?_ ?_ e
      · exact hit.1
      · exact hit.2
    · refine ConnectionManager.raised_afterScan _ fun e =>
        ConnectionManager.scan_ne_raised ?_ ?_ e
      · exact hit.1
      · exact hit.2
  | sending id rest =>
    simp only [ConnectionManager.resume]
    split
    · rfl
    · exact ConnectionManager.raised_sendNext _ rest
  | broadcasting id rest failed =>
    simp only [ConnectionManager.resume]
    split
    · exact ConnectionManager.raised_broadcastNext _ _ _
    · exact ConnectionManager.raised_broadcastNext _ _ _

/-- A step under the condition raises nothing but the limit's
`ValueError`. -/
theorem raised_step {a : Act} (hc : Undisturbed s a)
    (h : (gateway cfg).step s a = some s') :
    s'.raised = s.raised
      ∨ ∃ ident, s'.raised
        = s.raised ++ [ConnectionManager.tooManyConnections ident] := by
  change s.apply cfg a = some s' at h
  cases a with
  | addConnection t ident now =>
    cases h
    rcases s.raised_addConnection cfg t ident now with h | h
    · exact .inl h
    · exact .inr ⟨ident, h⟩
  | removeConnection id =>
    cases h
    exact .inl (s.raised_removeConnection id)
  | handleDisconnect id now =>
    cases h
    exact .inl (s.raised_handleDisconnect id)
  | updateAgentAuth agentId p g port =>
    cases h
    exact .inl rfl
  | sendToAgent agentId order =>
    simp only [ConnectionManager.apply, ConnectionManager.sendToAgent] at h
    split at h
    · cases h
      exact .inl (s.raised_sendNext _)
    · cases h
  | broadcastToSpectators gameId order =>
    simp only [ConnectionManager.apply,
      ConnectionManager.broadcastToSpectators] at h
    split at h
    · cases h
      exact .inl (s.raised_broadcastNext _ _)
    · cases h
  | maintainConnections now =>
    cases h
    exact .inl s.raised_maintainConnections
  | resume i ok now =>
    obtain ⟨t, ht, rfl⟩ := Option.map_eq_some_iff.mp h
    exact .inl (raised_resume (hc t ht) ok now)

-- ==== the main result

/-- In every run whose coroutines are not disturbed across their
suspensions, no operation raises anything but the limit's
`ValueError`; with no removal in flight the index holds exactly the
agent connections; and no agent has an empty set or more connections
than the limit. -/
theorem undisturbed_runs (cfg : Settings) {s : ConnectionManager}
    (h : (gateway cfg).ReachVia Undisturbed s) :
    (∀ e ∈ s.raised, ∃ ident, e = ConnectionManager.tooManyConnections ident)
      ∧ (s.removing = [] → ∀ a id, id ∈ s.index a ↔ s.HeldBy a id)
      ∧ ∀ a ids, s.agentConnections.get? a = some ids →
          ids ≠ ∅ ∧ ids.card ≤ cfg.maxConnectionsPerAgent := by
  have hinv : s.Indexed cfg ∧ ∀ e ∈ s.raised, ∃ ident,
      e = ConnectionManager.tooManyConnections ident := by
    refine h.invariant (I := fun s => s.Indexed cfg ∧ ∀ e ∈ s.raised,
      ∃ ident, e = ConnectionManager.tooManyConnections ident) ?_ ?_
    · intro s hs
      obtain ⟨heap, rfl⟩ := hs
      exact ⟨ConnectionManager.indexed_init heap,
        by simp [ConnectionManager.init]⟩
    · intro s a s' hi hc hstep
      refine ⟨hi.1.step hstep, ?_⟩
      rcases raised_step hc hstep with heq | ⟨ident, heq⟩
      · rw [heq]
        exact hi.2
      · rw [heq]
        intro e he
        rcases List.mem_append.mp he with he | he
        · exact hi.2 e he
        · exact ⟨ident, List.mem_singleton.mp he⟩
  obtain ⟨hi, hraised⟩ := hinv
  refine ⟨hraised, ?_, ?_⟩
  · intro hnone a id
    rw [hi.agents, hnone]
    simp
  · intro a ids hids
    obtain ⟨hne, hcard⟩ := hi.sets a ids hids
    exact ⟨Finset.nonempty_iff_ne_empty.mp hne, hcard⟩

/-- Two connections to an agent, heartbeats from an idle time of an
hour on. -/
def defaultSettings : Settings where
  maxConnectionsPerAgent := 2
  agentTimeout := 600
  sessionResumptionWindow := 3600
  minReconnectCooldownSecs := 5
  one_le_max := by decide

def unusedInfo : ConnectionId → ConnectionInfo := fun id =>
  { connectionType := .spectator, identifier := "", sessionId := id
    lastSeen := 0, authenticated := false, playerId := none, gameId := none
    civserverPort := none, disconnectedAt := none }

/-- An agent connects, is authenticated, gets a heartbeat and
disconnects. -/
def quietRun : List Act :=
  [.addConnection .agent "alice" 100, .updateAgentAuth "alice" 0 none none,
    .maintainConnections 130, .resume 0 true 131, .handleDisconnect 0 140,
    .resume 0 true 141]

theorem undisturbed_runs_quiet :
    ∃ s, (gateway defaultSettings).exec (.init unusedInfo) quietRun = some s
      ∧ (∀ e ∈ s.raised,
        ∃ ident, e = ConnectionManager.tooManyConnections ident)
      ∧ (s.removing = [] → ∀ a id, id ∈ s.index a ↔ s.HeldBy a id)
      ∧ ∀ a ids, s.agentConnections.get? a = some ids →
          ids ≠ ∅ ∧ ids.card ≤ 2 := by
  obtain ⟨s, hs⟩ := Option.isSome_iff_exists.mp
    (show ((gateway defaultSettings).exec (.init unusedInfo)
      quietRun).isSome = true by decide +kernel)
  have hvia : (gateway defaultSettings).ReachVia Undisturbed s :=
    Lts.ReachVia.exec (.init ⟨unusedInfo, rfl⟩) (by decide +kernel) hs
  exact ⟨s, hs, undisturbed_runs defaultSettings hvia⟩

/-- A second agent connects while the maintenance loop waits for its
heartbeat to the first. -/
def connectDuringHeartbeat : List Act :=
  [.addConnection .agent "alice" 100, .updateAgentAuth "alice" 0 none none,
    .maintainConnections 130, .addConnection .agent "bob" 130,
    .resume 0 true 131]

/-- The maintenance loop then ends with a `RuntimeError`. -/
theorem maintenance_raises :
    ¬ ∀ s, (gateway defaultSettings).Reach s → ∀ e ∈ s.raised,
      ∃ ident, e = ConnectionManager.tooManyConnections ident := by
  intro hall
  have hrun : ((gateway defaultSettings).exec (.init unusedInfo)
      connectDuringHeartbeat).map ConnectionManager.raised
      = some [.runtimeError "dictionary changed size during iteration"] := by
    decide +kernel
  obtain ⟨s, hs, hraised⟩ := Option.map_eq_some_iff.mp hrun
  have hreach : (gateway defaultSettings).Reach s :=
    Lts.Reach.exec (.init ⟨unusedInfo, rfl⟩) hs
  obtain ⟨ident, he⟩ := hall s hreach
    (.runtimeError "dictionary changed size during iteration")
    (by rw [hraised]; simp)
  cases he

/-- A failed send makes a task that removes the connection while its
own handler removes it: the second removal raises `KeyError`. -/
example : ((gateway defaultSettings).exec (.init unusedInfo)
    [.addConnection .agent "alice" 100, .updateAgentAuth "alice" 0 none none,
      .sendToAgent "alice" [0], .resume 0 false 110, .resume 0 true 110,
      .handleDisconnect 0 110, .resume 0 true 111,
      .resume 0 true 111]).map ConnectionManager.raised
    = some [.keyError 0] := by decide +kernel

end Freeciv3d.Gateway
