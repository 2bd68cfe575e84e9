/-
`global_state_query`: `LLMWSHandler._handle_global_state_query` over
`CivCom.get_full_state_global`.

# References

`_normalize_to_dict` returns a dict it is given, so the `units` and
`cities` of the returned state are the *live* stores `player_units`
and `player_cities` of the CivCom that built it. A state therefore
holds the owner of these dicts, and the updates of the aggregation are
writes to that owner's mirror. The other sections of a state are new
dicts, and plain values here.

# Where a query writes

`get_full_state_global` writes the entries of `other_units` into the
live `player_units` of the CivCom it runs on. The aggregation writes
the units and cities of every other CivCom of the game into the live
stores of the querying one, so what only another player sees becomes
part of the querying player's mirror.

# What this closes

`query_frame_iff`: a query changes no store exactly when there is
nothing to write, that is when every CivCom it reads is *settled*
(its `other_units` are already among its `player_units`) and every
merged CivCom is *covered* by the querying one (no unit or city key is
new to it).
-/
import Freeciv3d.Proxy.Mirror
import Freeciv3d.Proxy.Registry

namespace Freeciv3d.Proxy

open Lib

/-- The mirrors of all `CivCom` objects. -/
abbrev Mirrors := CivComId → Mirror

namespace Mirrors

def modify (w : Mirrors) (c : CivComId) (f : Mirror → Mirror) : Mirrors :=
  Function.update w c (f (w c))

theorem modify_apply (w : Mirrors) (c d : CivComId) (f : Mirror → Mirror) :
    w.modify c f d = if d = c then f (w d) else w d := by
  by_cases h : d = c
  · subst h
    simp [modify]
  · simp [modify, h]

end Mirrors

structure GlobalState where
  /-- `units` is the live `player_units` of this CivCom. -/
  units : CivComId
  /-- `cities` is the live `player_cities` of this CivCom. -/
  cities : CivComId
  sections : StateSections
  combatLog : Option (List CombatEvent)

namespace Mirror

/-- `all_units.update(other_units)` where `all_units` is
`player_units`. -/
def updateUnits (m : Mirror) : Mirror :=
  { m with playerUnits := m.playerUnits.update m.otherUnits }

/-- `get_full_state_global` on the CivCom `c`: the state, and the
mirror it leaves. -/
def getFullStateGlobal (m : Mirror) (c : CivComId) :
    Mirror × GlobalState :=
  let (m, sections) := m.updateUnits.buildStateDict none
  let (m, combatLog) := m.drainCombatLog
  (m, { units := c, cities := c, sections := sections
        combatLog := combatLog })

end Mirror

namespace GlobalQuery

/-- `get_full_state_global` in the process. -/
def build (w : Mirrors) (c : CivComId) : Mirrors × GlobalState :=
  let (m, state) := (w c).getFullStateGlobal c
  (Function.update w c m, state)

/-- Merge the entry under one key of `o` into `d`, if `o` has it. -/
def takeKey {ν : Type} (d o : Dict String ν) (k : String) : Dict String ν :=
  match o.get? k with
  | some v => d.set k v
  | none => d

/-- Write the units and cities of `other` that `full` lacks into the
dicts of `full`, which are the stores of its owner. -/
def mergeStores (w : Mirrors) (full other : GlobalState) : Mirrors :=
  let units := (w other.units).playerUnits
  let cities := (w other.cities).playerCities
  let w := w.modify full.units fun m =>
    { m with playerUnits := m.playerUnits.addMissing units }
  w.modify full.cities fun m =>
    { m with playerCities := m.playerCities.addMissing cities }

/-- The sections that are new dicts: techs and spaceships by missing
key, and the other player's own entry of players and wonders. -/
def mergeSections (full other : StateSections) (otherPid : Option Int) :
    StateSections :=
  { full with
    techs := full.techs.addMissing other.techs
    players := match otherPid with
      | none => full.players
      | some pid => takeKey full.players other.players (toString pid)
    wonders := match otherPid with
      | none => full.wonders
      | some pid =>
        takeKey full.wonders other.wonders (Mirror.playerKey pid)
    spaceship := full.spaceship.addMissing other.spaceship }

def mergeOne (h : Heap) (acc : Mirrors × GlobalState) (c : CivComId) :
    Mirrors × GlobalState :=
  let (w, other) := build acc.1 c
  let sections :=
    mergeSections acc.2.sections other.sections (h c).playerId
  (mergeStores w acc.2 other, { acc.2 with sections := sections })

def observerAgentId : AgentId := "__observer__"

/-- The live observer of the game, if there is one. -/
def liveObserver (r : Registry) (h : Heap) (gameId : GameId) :
    Option CivComId :=
  (r.getCivcom gameId observerAgentId).filter fun o =>
    !(h o).stopped && (h o).alive

/-- The CivComs the aggregation loop merges into the state of `q`. -/
def others (r : Registry) (h : Heap) (gameId : GameId) (q : CivComId) :
    List CivComId :=
  ((r.getAllForGame gameId).entries.filter fun e =>
    !(e.2 == q || (h e.2).stopped || e.1.2 == observerAgentId)).map
    Prod.snd

/-- The state of a query of the CivCom `q`, for the handler's game id
(which may be missing). -/
def globalState (r : Registry) (h : Heap) (w : Mirrors) (q : CivComId)
    (gameId : Option GameId) : Mirrors × GlobalState :=
  match gameId.filter (· != "") with
  | none => build w q
  | some g =>
    match liveObserver r h g with
    | some o => build w o
    | none => (others r h g q).foldl (mergeOne h) (build w q)

structure Querier where
  isLlmAgent : Bool
  agentId : AgentId
  gameId : Option GameId
  civcom : Option CivComId

inductive Response where
  | error (code message : String)
  | globalState (data : GlobalState)

/-- `_handle_global_state_query`. -/
def handle (r : Registry) (h : Heap) (w : Mirrors) (q : Querier) :
    Mirrors × Response :=
  if !q.isLlmAgent then
    (w, .error "E120" "Not authenticated as LLM agent")
  else match q.civcom.filter fun c => !(h c).stopped with
  | none => (w, .error "E123" "Connection to game server lost")
  | some c =>
    let (w', state) := globalState r h w c q.gameId
    (w', .globalState state)

end GlobalQuery

-- ==== the frame of a query

structure Stores where
  playerUnits : Dict Int UnitInfo
  otherUnits : Dict Int UnitInfo
  playerCities : Dict Int CityInfo

def Mirror.stores (m : Mirror) : Stores :=
  ⟨m.playerUnits, m.otherUnits, m.playerCities⟩

/-- Every store of every CivCom is as it was. -/
def SameStores (w w' : Mirrors) : Prop := ∀ c, (w' c).stores = (w c).stores

/-- The other units are among the player units already. -/
def Settled (m : Mirror) : Prop :=
  ∀ id u, m.otherUnits.get? id = some u → m.playerUnits.get? id = some u

/-- No unit id and no city id of `m` is new to `q`. -/
structure CoveredBy (m q : Mirror) : Prop where
  units : ∀ id ∈ m.playerUnits.keys, id ∈ q.playerUnits.keys
  cities : ∀ id ∈ m.playerCities.keys, id ∈ q.playerCities.keys

open GlobalQuery

/-- The query has nothing to write: the one CivCom it reads is
settled, or, when it aggregates, all it reads are settled and the
querying one covers the rest. -/
def NothingToWrite (r : Registry) (h : Heap) (w : Mirrors) (q : CivComId)
    (gameId : Option GameId) : Prop :=
  match gameId.filter (· != "") with
  | none => Settled (w q)
  | some g =>
    match liveObserver r h g with
    | some o => Settled (w o)
    | none => Settled (w q)
        ∧ ∀ c ∈ others r h g q, Settled (w c) ∧ CoveredBy (w c) (w q)

variable {r : Registry} {h : Heap} {w : Mirrors} {q : CivComId}

namespace Stores

/-- What `get_full_state_global` does to the stores. -/
def settle (s : Stores) : Stores :=
  { s with playerUnits := s.playerUnits.update s.otherUnits }

theorem settle_settle (s : Stores) : s.settle.settle = s.settle := by
  simp only [settle, Dict.update_update]

theorem settle_eq_self_iff (m : Mirror) :
    m.stores.settle = m.stores ↔ Settled m := by
  rw [Settled, ← Dict.update_eq_self_iff]
  simp [settle, Mirror.stores]

/-- Add what a list of stores has and this one lacks. -/
def addAll (s : Stores) (l : List Stores) : Stores :=
  { s with
    playerUnits := (l.map Stores.playerUnits).foldl Dict.addMissing
      s.playerUnits
    playerCities := (l.map Stores.playerCities).foldl Dict.addMissing
      s.playerCities }

theorem addAll_nil (s : Stores) : s.addAll [] = s := rfl

theorem addAll_cons (s t : Stores) (l : List Stores) :
    s.addAll (t :: l) = (s.addAll [t]).addAll l := rfl

end Stores

-- ==== what one build writes

theorem buildWondersDict_stores (m : Mirror) (ps : List PlayerInfo) :
    (m.buildWondersDict ps).1.stores = m.stores := by
  induction ps generalizing m with
  | nil => rfl
  | cons p rest ih =>
    have hone : (m.getPlayerWonders p.id).1.stores = m.stores := by
      unfold Mirror.getPlayerWonders
      dsimp only
      split <;> rfl
    show ((m.getPlayerWonders p.id).1.buildWondersDict rest).1.stores = _
    rw [ih, hone]

theorem drainCombatLog_stores (m : Mirror) :
    m.drainCombatLog.1.stores = m.stores := by
  unfold Mirror.drainCombatLog
  split <;> rfl

theorem build_stores (w : Mirrors) (c d : CivComId) :
    ((build w c).1 d).stores
      = if d = c then (w d).stores.settle else (w d).stores := by
  unfold build
  by_cases hd : d = c
  · subst hd
    simp only [Function.update_self, if_true]
    unfold Mirror.getFullStateGlobal Mirror.buildStateDict
    simp only [drainCombatLog_stores, buildWondersDict_stores]
    rfl
  · simp [hd]

theorem build_refs (w : Mirrors) (c : CivComId) :
    (build w c).2.units = c ∧ (build w c).2.cities = c := ⟨rfl, rfl⟩

/-- One pass of the loop on another CivCom: it is settled, and what it
has is added to the querying one. -/
theorem mergeOne_stores {acc : Mirrors × GlobalState} {c : CivComId}
    (hunits : acc.2.units = q) (hcities : acc.2.cities = q) (hc : c ≠ q)
    (d : CivComId) :
    ((mergeOne h acc c).1 d).stores
      = if d = q then (acc.1 q).stores.addAll [(acc.1 c).stores.settle]
        else if d = c then (acc.1 d).stores.settle
        else (acc.1 d).stores := by
  have hbc := build_stores acc.1 c c
  have hbq := build_stores acc.1 c q
  have hbd := build_stores acc.1 c d
  rw [if_pos rfl] at hbc
  rw [if_neg (Ne.symm hc)] at hbq
  unfold mergeOne mergeStores
  simp only [hunits, hcities, (build_refs acc.1 c).1, (build_refs acc.1 c).2,
    Mirrors.modify_apply]
  by_cases hd : d = q
  · subst hd
    simp only [if_true, Mirror.stores, Stores.addAll, Stores.mk.injEq,
      List.map_cons, List.map_nil, List.foldl_cons, List.foldl_nil]
    have hu := congrArg Stores.playerUnits hbc
    have hci := congrArg Stores.playerCities hbc
    have hqu := congrArg Stores.playerUnits hbq
    have hqo := congrArg Stores.otherUnits hbq
    have hqc := congrArg Stores.playerCities hbq
    simp only [Mirror.stores] at hu hci hqu hqo hqc
    rw [hu, hci, hqu, hqo, hqc]
    exact ⟨rfl, rfl, rfl⟩
  · simp only [hd, if_false]
    exact hbd

theorem mergeOne_refs (acc : Mirrors × GlobalState) (c : CivComId) :
    (mergeOne h acc c).2.units = acc.2.units
      ∧ (mergeOne h acc c).2.cities = acc.2.cities := ⟨rfl, rfl⟩

/-- The whole loop: every merged CivCom is settled, and the querying
one receives all they have. -/
theorem merge_stores {cs : List CivComId} {acc : Mirrors × GlobalState}
    (hunits : acc.2.units = q) (hcities : acc.2.cities = q) (hq : q ∉ cs)
    (d : CivComId) :
    ((cs.foldl (mergeOne h) acc).1 d).stores
      = if d = q
        then (acc.1 q).stores.addAll (cs.map fun c => (acc.1 c).stores.settle)
        else if d ∈ cs then (acc.1 d).stores.settle
        else (acc.1 d).stores := by
  induction cs generalizing acc with
  | nil => by_cases hd : d = q <;> simp [hd, Stores.addAll_nil]
  | cons c rest ih =>
    have hc : c ≠ q := fun he => hq (he ▸ List.mem_cons_self ..)
    have hrest : q ∉ rest := fun hm => hq (List.mem_cons_of_mem _ hm)
    have hone := mergeOne_stores (h := h) hunits hcities hc
    -- settling is idempotent, so the rest reads what it would have read
    have hsettle : ∀ e, e ≠ q →
        (((mergeOne h acc c).1 e).stores).settle
          = (acc.1 e).stores.settle := by
      intro e he
      rw [hone, if_neg he]
      split
      · exact Stores.settle_settle _
      · rfl
    obtain ⟨hru, hrc⟩ := mergeOne_refs (h := h) acc c
    rw [List.foldl_cons, ih (hru.trans hunits) (hrc.trans hcities) hrest]
    by_cases hd : d = q
    · subst hd
      have hmap : (rest.map fun e =>
            ((mergeOne h acc c).1 e).stores.settle)
          = rest.map fun e => (acc.1 e).stores.settle := by
        refine List.map_congr_left fun e he => hsettle e ?_
        intro hk
        subst hk
        exact hrest he
      rw [if_pos rfl, if_pos rfl, hmap, hone, if_pos rfl]
      exact (Stores.addAll_cons ..).symm
    · rw [if_neg hd, if_neg hd]
      by_cases hdr : d ∈ rest
      · rw [if_pos hdr, if_pos (List.mem_cons_of_mem _ hdr), hsettle d hd]
      · rw [if_neg hdr, hone, if_neg hd]
        by_cases hdc : d = c
        · rw [if_pos hdc, if_pos (hdc ▸ List.mem_cons_self ..)]
        · rw [if_neg hdc, if_neg (by simp [hdc, hdr])]

-- ==== no-op exactly

theorem sameStores_build_iff (c : CivComId) :
    SameStores w (build w c).1 ↔ Settled (w c) := by
  rw [← Stores.settle_eq_self_iff]
  constructor
  · intro hs
    have := hs c
    rwa [build_stores, if_pos rfl] at this
  · intro hs d
    rw [build_stores]
    split
    case isTrue hd => rw [hd, hs]
    case isFalse => rfl

/-- Settling and then adding is the identity exactly when nothing is
unsettled and nothing is missing. -/
theorem Stores.addAll_settle_eq_self_iff (m : Mirror)
    (l : List Stores) :
    m.stores.settle.addAll l = m.stores
      ↔ Settled m ∧ ∀ t ∈ l,
        (∀ id ∈ t.playerUnits.keys, id ∈ m.playerUnits.keys)
        ∧ ∀ id ∈ t.playerCities.keys, id ∈ m.playerCities.keys := by
  constructor
  · intro hs
    have hunits := congrArg Stores.playerUnits hs
    have hcities := congrArg Stores.playerCities hs
    simp only [Stores.addAll, Stores.settle, Mirror.stores] at hunits hcities
    have hsettled : Settled m := by
      intro id u hu
      have hget : (m.playerUnits.update m.otherUnits).get? id = some u := by
        rw [Dict.get?_update, hu]
        rfl
      have := Dict.get?_foldl_addMissing hget (l.map Stores.playerUnits)
      rwa [hunits] at this
    rw [Dict.update_eq_self_iff.mpr hsettled] at hunits
    refine ⟨hsettled, fun t ht => ⟨?_, ?_⟩⟩
    · exact Dict.foldl_addMissing_eq_self_iff.mp hunits _
        (List.mem_map_of_mem ht)
    · exact Dict.foldl_addMissing_eq_self_iff.mp hcities _
        (List.mem_map_of_mem ht)
  · intro hp
    rcases hp with ⟨hsettled, hcov⟩
    rw [(Stores.settle_eq_self_iff m).mpr hsettled]
    have hunits : (l.map Stores.playerUnits).foldl Dict.addMissing
        m.playerUnits = m.playerUnits := by
      refine Dict.foldl_addMissing_eq_self_iff.mpr fun o ho => ?_
      obtain ⟨t, ht, rfl⟩ := List.mem_map.mp ho
      exact (hcov t ht).1
    have hcities : (l.map Stores.playerCities).foldl Dict.addMissing
        m.playerCities = m.playerCities := by
      refine Dict.foldl_addMissing_eq_self_iff.mpr fun o ho => ?_
      obtain ⟨t, ht, rfl⟩ := List.mem_map.mp ho
      exact (hcov t ht).2
    simp only [Stores.addAll, Mirror.stores, hunits, hcities]

/-- The aggregation changes no store exactly when all are settled and
the querying one covers the rest. -/
theorem sameStores_merge_iff {cs : List CivComId} (hq : q ∉ cs) :
    SameStores w (cs.foldl (mergeOne h) (build w q)).1
      ↔ Settled (w q) ∧ ∀ c ∈ cs, Settled (w c) ∧ CoveredBy (w c) (w q) := by
  have hfinal := merge_stores (h := h) (build_refs w q).1
    (build_refs w q).2 hq
  have hother : ∀ c ∈ cs, ((build w q).1 c).stores = (w c).stores := by
    intro c hc
    rw [build_stores, if_neg]
    intro hk
    subst hk
    exact hq hc
  have hmap : (cs.map fun c => ((build w q).1 c).stores.settle)
      = cs.map fun c => (w c).stores.settle :=
    List.map_congr_left fun c hc => by rw [hother c hc]
  constructor
  · intro hs
    have hself := hs q
    rw [hfinal, if_pos rfl, build_stores, if_pos rfl, hmap,
      Stores.addAll_settle_eq_self_iff] at hself
    obtain ⟨hqs, hcov⟩ := hself
    refine ⟨hqs, fun c hc => ?_⟩
    have hcs := hs c
    have hne : c ≠ q := fun he => hq (he ▸ hc)
    rw [hfinal, if_neg hne, if_pos hc, hother c hc] at hcs
    obtain ⟨hu, hci⟩ := hcov _ (List.mem_map_of_mem hc)
    rw [hcs] at hu hci
    exact ⟨(Stores.settle_eq_self_iff _).mp hcs, hu, hci⟩
  · intro hp d
    rcases hp with ⟨hqs, hcov⟩
    rw [hfinal]
    by_cases hd : d = q
    · rw [if_pos hd, hd, build_stores, if_pos rfl, hmap,
        Stores.addAll_settle_eq_self_iff]
      refine ⟨hqs, fun t ht => ?_⟩
      obtain ⟨c, hc, rfl⟩ := List.mem_map.mp ht
      obtain ⟨hset, hcov⟩ := hcov c hc
      rw [(Stores.settle_eq_self_iff _).mpr hset]
      exact ⟨hcov.units, hcov.cities⟩
    · rw [if_neg hd]
      split
      case isTrue hdc =>
        rw [hother d hdc]
        exact (Stores.settle_eq_self_iff _).mpr (hcov d hdc).1
      case isFalse => rw [build_stores, if_neg hd]

theorem not_mem_others (g : GameId) : q ∉ others r h g q := by
  intro hq
  obtain ⟨e, he, heq⟩ := List.mem_map.mp hq
  have := (List.mem_filter.mp he).2
  simp [heq] at this

/-- A global state query leaves `player_units`, `other_units` and
`player_cities` of every CivCom unchanged exactly when it has nothing
to write. -/
theorem query_frame_iff (r : Registry) (h : Heap) (w : Mirrors)
    (q : CivComId) (gameId : Option GameId) :
    SameStores w (globalState r h w q gameId).1
      ↔ NothingToWrite r h w q gameId := by
  unfold globalState NothingToWrite
  cases gameId.filter (· != "") with
  | none => exact sameStores_build_iff q
  | some g =>
    simp only []
    cases liveObserver r h g with
    | some o => exact sameStores_build_iff o
    | none => exact sameStores_merge_iff (not_mem_others g)

namespace TwoPlayers

/-- The unit of player 1 that player 0 does not see. -/
def hidden : UnitInfo where
  id := 101
  owner := 1
  type := "warriors"
  typeId := some 4
  tile := 90
  homecity := 0
  movesLeft := 3
  hp := 10
  veteran := 0
  transported := false
  doneMoving := false
  activity := some "idle"
  x := 10
  y := 1

/-- Two agents of one game, CivComs 0 and 1, and no observer. -/
def registry : Registry where
  instances := ((∅ : Dict Key CivComId).set ("g1", "alice") 0).set
    ("g1", "bob") 1
  metadata := ∅

def heap : Heap := fun c => { CivCom.init c with playerId := some c }

def mirrors : Mirrors := fun c =>
  if c = 1 then
    { Mirror.init with playerUnits := (∅ : Dict Int UnitInfo).set 101 hidden }
  else Mirror.init

end TwoPlayers

/-- One query of player 0 puts player 1's hidden unit into player 0's
own `player_units`. -/
theorem query_changes_mirror :
    ¬∀ r h w q gameId, SameStores w (globalState r h w q gameId).1 := by
  intro hall
  have hsame := hall TwoPlayers.registry TwoPlayers.heap TwoPlayers.mirrors
    0 (some "g1") 0
  have hleak : ((globalState TwoPlayers.registry TwoPlayers.heap
      TwoPlayers.mirrors 0 (some "g1")).1 0).stores.playerUnits.get? 101
      = some TwoPlayers.hidden := by decide
  rw [hsame] at hleak
  exact absurd hleak (by decide)

end Freeciv3d.Proxy
