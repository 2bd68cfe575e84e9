/-
Combat events against the states returned to the agent: when every
recorded event is in exactly one of them.

# Where events go missing

The drain hands the log to whoever built a state, and most of those who
build one do not return it: the action queries, the handler's first
full state, the extractor's full format, which has no `combat_log` at
all, and `_get_unit_actions`, which `build_llm_optimized_state` itself
runs for every unit with moves left before it drains on its own
account. A replayed state takes nothing from the log, so what waits
there counts against the bound of a later window.

# What this closes

`combat_delivered_iff`: a run of one `CivCom` accounts for all its
events exactly when every step is `Delivering`. The counting is the
library's (`Lib/DeliveryLog.lean`); this module shows which of its
operations each packet and each query is.
-/
import Freeciv3d.Lib.DeliveryLog
import Freeciv3d.Lib.Lts
import Freeciv3d.Proxy.StateQueries

namespace Freeciv3d.Proxy

open Lib UnitActions

namespace Mirror

-- ==== the mirror's readers

/-- A lookup of `_get_unit_actions` happens: some unit has moves. -/
def anyMovable (l : List (Int × UnitInfo)) : Bool :=
  l.any fun e => decide (0 < e.2.movesLeft)

/-- The loop looks at the mirror through full states only, so the log
is gone as soon as one unit is looked up. -/
theorem unitActionsLoop_fst (pid : Int) (l : List (Int × UnitInfo))
    (m : Mirror) :
    ∃ cache, (unitActionsLoop pid m l).1
      = { m with
          wonderCache := cache
          combatLog := if anyMovable l then [] else m.combatLog } := by
  induction l generalizing m with
  | nil => exact ⟨m.wonderCache, rfl⟩
  | cons e rest ih =>
    obtain ⟨id, u⟩ := e
    unfold unitActionsLoop
    by_cases hu : u.movesLeft ≤ 0
    · obtain ⟨cache, hc⟩ := ih m
      refine ⟨cache, ?_⟩
      have hany : anyMovable ((id, u) :: rest) = anyMovable rest := by
        simp [anyMovable, show ¬ 0 < u.movesLeft by omega]
      rw [if_pos hu, hc, hany]
    · obtain ⟨cache, hc⟩ := m.getFullState_fst pid
      obtain ⟨cache', hc'⟩ := ih (m.getFullState pid).1
      refine ⟨cache', ?_⟩
      have hany : anyMovable ((id, u) :: rest) = true := by
        simp [anyMovable, show 0 < u.movesLeft by omega]
      have hfst : (unitActionsLoop pid (m.getFullState pid).1 rest).1
          = { m with wonderCache := cache', combatLog := [] } := by
        rw [hc', hc, ite_self]
      rw [if_neg hu, hany, if_pos rfl]
      dsimp only [getUnitActions]
      split
      · exact hfst
      · exact hfst

/-- The unit lookups of `build_llm_optimized_state` reach this log. -/
def drainsWhileBuilding (m : Mirror) (playerId : Option Int)
    (pid : Int) : Bool :=
  playerId == some pid && anyMovable m.playerUnits.entries

theorem getLegalActionsOptimized_fst (m : Mirror) (playerId : Option Int)
    (pid : Int) :
    ∃ cache, (m.getLegalActionsOptimized playerId pid).1
      = { m with
          wonderCache := cache
          combatLog := if m.drainsWhileBuilding playerId pid then []
            else m.combatLog } := by
  unfold getLegalActionsOptimized drainsWhileBuilding
  by_cases h : playerId = some pid
  · obtain ⟨cache, hc⟩ := unitActionsLoop_fst pid m.playerUnits.entries m
    refine ⟨cache, ?_⟩
    rw [if_pos h, hc]
    simp [h]
  · refine ⟨m.wonderCache, ?_⟩
    rw [if_neg h]
    simp [h]

/-- An `llm_optimized` state takes the log, and carries it unless the
lookups took it before. -/
theorem buildLlmOptimizedState_log (m : Mirror) (playerId : Option Int)
    (pid : Int) :
    (m.buildLlmOptimizedState playerId pid).1.combatLog = []
      ∧ (StateAnswer.llm (m.buildLlmOptimizedState playerId pid).2).events
        = if m.drainsWhileBuilding playerId pid then []
          else m.combatLog := by
  obtain ⟨cache, hc⟩ := m.getLegalActionsOptimized_fst playerId pid
  generalize hm1 : (m.getLegalActionsOptimized playerId pid).1 = m1 at hc
  obtain ⟨cache', hc'⟩ := m1.buildWondersDict_fst m1.allPlayers
  have hfst : (m.buildLlmOptimizedState playerId pid).1
      = (m1.buildWondersDict m1.allPlayers).1.drainCombatLog.1 := by
    rw [← hm1]
    rfl
  have hsnd :
      (StateAnswer.llm (m.buildLlmOptimizedState playerId pid).2).events
        = (m1.buildWondersDict
            m1.allPlayers).1.drainCombatLog.2.getD [] := by
    rw [← hm1]
    rfl
  constructor
  · rw [hfst, drainCombatLog_fst]
  · rw [hsnd, drainCombatLog_snd, hc', hc]

theorem handleStateQuery_log (m : Mirror) (playerId : Option Int)
    (format : StateFormat) (pid : Int) :
    (m.handleStateQuery playerId format pid).1.combatLog = []
      ∧ (m.handleStateQuery playerId format pid).2.events
        = if format = .llmOptimized ∧ m.drainsWhileBuilding playerId pid
          then [] else m.combatLog := by
  cases format with
  | full =>
    refine ⟨m.getFullState_combatLog pid, ?_⟩
    rw [if_neg (by simp)]
    exact m.getFullState_events pid
  | llmOptimized =>
    simp only [true_and]
    exact m.buildLlmOptimizedState_log playerId pid

theorem extractState_log (m : Mirror) (playerId : Option Int)
    (format : StateFormat) (pid : Int) :
    (m.extractState playerId format pid).1.combatLog = []
      ∧ (m.extractState playerId format pid).2.events
        = if format = .full ∨ m.drainsWhileBuilding playerId pid
          then [] else m.combatLog := by
  cases format with
  | full =>
    refine ⟨m.getFullState_combatLog pid, ?_⟩
    rw [if_pos (Or.inl rfl)]
    rfl
  | llmOptimized =>
    simp only [reduceCtorEq, false_or]
    exact m.buildLlmOptimizedState_log playerId pid

theorem getLegalActions_log (m : Mirror) (playerId : Option Int)
    (pid : Int) : (m.getLegalActions playerId pid).1.combatLog = [] := by
  obtain ⟨cache, hc⟩ :=
    (m.getFullState pid).1.getLegalActionsOptimized_fst playerId pid
  show ((m.getFullState pid).1.getLegalActionsOptimized
    playerId pid).1.combatLog = []
  rw [hc, getFullState_combatLog, ite_self]

end Mirror

namespace QueryWorld

-- ==== the cached states

/-- No cached state carries events. -/
def CachesBare (w : QueryWorld) : Prop :=
  (∀ s ∈ w.extractorCache.values, s.events = [])
    ∧ ∀ s ∈ w.stateCache.values, s.events = []

end QueryWorld

namespace CacheFate

variable {fate : CacheFate} {cache : Dict String StateAnswer}
  {key : String} {P : StateAnswer → Prop}

theorem get_values (h : ∀ s ∈ cache.values, P s) :
    ∀ s ∈ (fate.get cache key).1.values, P s := by
  intro s hs
  unfold get at hs
  split at hs
  · exact h s hs
  · obtain ⟨k, hk⟩ := Dict.mem_values_iff.mp hs
    rw [Dict.get?_erase] at hk
    split at hk
    · cases hk
    · exact h s (Dict.mem_values_iff.mpr ⟨k, hk⟩)

theorem get_hit {s : StateAnswer} (h : ∀ s ∈ cache.values, P s)
    (hs : (fate.get cache key).2 = some s) : P s := by
  unfold get at hs
  split at hs
  · exact h s (Dict.mem_values_iff.mpr ⟨key, hs⟩)
  · cases hs

theorem set_values {s : StateAnswer} (h : ∀ t ∈ cache.values, P t)
    (hs : P s) : ∀ t ∈ (fate.set cache key s).values, P t := by
  intro t ht
  unfold set at ht
  split at ht
  · obtain ⟨k, hk⟩ := Dict.mem_values_iff.mp ht
    rw [Dict.get?_set] at hk
    split at hk
    · cases hk
      exact hs
    · exact h t (Dict.mem_values_iff.mpr ⟨k, hk⟩)
  · exact h t ht

end CacheFate

namespace QueryWorld

-- ==== the WebSocket state query

def cacheHit (w : QueryWorld) (format : StateFormat) (pid : Int)
    (outer : CacheFate) : Bool :=
  (outer.get w.stateCache (w.stateKey format pid)).2.isSome

/-- Behind the extractor's cache, with an empty log: no events come
out, by either way. -/
theorem extractCached_log {w : QueryWorld} (hB : w.CachesBare)
    (hlog : w.mirror.combatLog = []) (format : StateFormat) (pid : Int)
    (inner : CacheFate) :
    (w.extractCached format pid inner).1.CachesBare
      ∧ (w.extractCached format pid inner).1.mirror.combatLog = []
      ∧ (w.extractCached format pid inner).2.events = [] := by
  unfold extractCached
  dsimp only
  split
  next s hs =>
    exact ⟨⟨CacheFate.get_values hB.1, hB.2⟩, hlog,
      CacheFate.get_hit hB.1 hs⟩
  next =>
    obtain ⟨hl, hev⟩ := w.mirror.extractState_log w.playerId format pid
    rw [hlog, ite_self] at hev
    exact ⟨⟨CacheFate.set_values (CacheFate.get_values hB.1) hev, hB.2⟩,
      hl, hev⟩

/-- The handler's state carries no events: its own full state took
them. -/
theorem buildOptimizedState_log {w : QueryWorld} (hB : w.CachesBare)
    (format : StateFormat) (includeActions : Bool) (pid : Int)
    (inner : CacheFate) :
    let r := w.buildOptimizedState format includeActions pid inner
    r.1.CachesBare ∧ r.1.mirror.combatLog = [] ∧ r.2.events = [] := by
  have hB' : CachesBare { w with mirror := (w.mirror.getFullState pid).1 } :=
    hB
  have hex := extractCached_log hB' (w.mirror.getFullState_combatLog pid)
    format pid inner
  unfold buildOptimizedState
  dsimp only
  generalize extractCached { w with mirror := (w.mirror.getFullState pid).1 }
    format pid inner = x at hex ⊢
  obtain ⟨w', state⟩ := x
  obtain ⟨hC, hl, hev⟩ := hex
  cases format with
  | full => exact ⟨hC, hl, hev⟩
  | llmOptimized =>
    cases state with
    | llm s => exact ⟨hC, Mirror.getFullState_combatLog _ pid, hev⟩
    | raw s | full s => exact ⟨hC, hl, hev⟩

/-- A WebSocket state query: a replay leaves the log, a new state
empties it, and neither carries events. -/
theorem handleStateQuery_log {w : QueryWorld} (hB : w.CachesBare)
    (format : StateFormat) (includeActions : Bool) (pid : Int)
    (outer inner : CacheFate) :
    let r := w.handleStateQuery format includeActions pid outer inner
    r.1.CachesBare
      ∧ r.1.mirror.combatLog
        = (if !w.cacheHit format pid outer then [] else w.mirror.combatLog)
      ∧ r.2.events = [] := by
  unfold handleStateQuery cacheHit
  dsimp only
  split
  next s hs =>
    rw [hs]
    exact ⟨⟨hB.1, CacheFate.get_values hB.2⟩, rfl,
      CacheFate.get_hit hB.2 hs⟩
  next hs =>
    rw [hs]
    have hB' : CachesBare { w with
        stateCache := (outer.get w.stateCache (w.stateKey format pid)).1 } :=
      ⟨hB.1, CacheFate.get_values hB.2⟩
    obtain ⟨hC, hl, hev⟩ :=
      buildOptimizedState_log hB' format includeActions pid inner
    exact ⟨⟨hC.1, CacheFate.set_values hC.2 hev⟩, hl, hev⟩

end QueryWorld

-- ==== the run

/-- One `CivCom` with the account of its combat events: the events
recorded, those recorded since the last state query, those the bound of
the log may cost, and those the returned states carried. -/
structure CombatRun where
  world : QueryWorld
  recorded : List CombatEvent
  sinceQuery : List CombatEvent
  overrun : List CombatEvent
  returned : List CombatEvent

namespace CombatRun

/-- A `CivCom` before its first combat packet and its first query. -/
def start (gameId : String) (playerId : Option Int) (m : Mirror) :
    CombatRun where
  world :=
    { gameId := gameId, playerId := playerId
      mirror := { m with combatLog := [] }
      extractorCache := ∅, stateCache := ∅ }
  recorded := []
  sinceQuery := []
  overrun := []
  returned := []

def act (s : CombatRun) (a : QueryAct) : CombatRun :=
  let (w, outcome) := s.world.act a
  match outcome with
  | .recorded (some e) =>
    { world := w
      recorded := s.recorded ++ [e]
      sinceQuery := s.sinceQuery ++ [e]
      overrun := s.overrun
        ++ Ledger.overflow Mirror.combatLogMaxlen s.sinceQuery e
      returned := s.returned }
  | .state answer =>
    { s with world := w, sinceQuery := []
             returned := s.returned ++ answer.events }
  | _ => { s with world := w }

/-- The runs of one `CivCom`. -/
def combatRuns : Lts CombatRun QueryAct where
  init s := ∃ gameId playerId m, s = start gameId playerId m
  step s a := some (s.act a)

/-- Every recorded event is in exactly one returned state or still in
the log, except the oldest of more than 500 since the last query. -/
def DeliveredOnce (s : CombatRun) : Prop :=
  s.recorded.Perm (s.overrun ++ s.returned ++ s.world.mirror.combatLog)

/-- The steps that lose and repeat nothing: no event reaches a log that
a replay left full; a state that is not returned is built with an empty
log, and so is one whose building looks units up. -/
def Delivering (s : CombatRun) : QueryAct → Prop
  | .combat p now =>
    s.world.mirror.combatEvent p now = none
      ∨ s.world.mirror.combatLog.length < Mirror.combatLogMaxlen
      ∨ Mirror.combatLogMaxlen ≤ s.sinceQuery.length
  | .packet _ _ => True
  | .stateQuery format pid =>
    ¬ (format = .llmOptimized
        ∧ s.world.mirror.drainsWhileBuilding s.world.playerId pid)
      ∨ s.world.mirror.combatLog = []
  | .extractState format pid =>
    ¬ (format = .full
        ∨ s.world.mirror.drainsWhileBuilding s.world.playerId pid)
      ∨ s.world.mirror.combatLog = []
  | .wsStateQuery format _ pid outer _ =>
    s.world.cacheHit format pid outer
      ∨ s.world.mirror.combatLog = []
  | .legalActions _ => s.world.mirror.combatLog = []
  | .unitActions _ pid =>
    s.world.serves pid → s.world.mirror.combatLog = []
  | .cityActions _ pid =>
    s.world.serves pid → s.world.mirror.combatLog = []

instance (s : CombatRun) : Decidable (DeliveredOnce s) :=
  inferInstanceAs (Decidable (List.Perm _ _))

instance (s : CombatRun) (a : QueryAct) : Decidable (Delivering s a) := by
  cases a <;> unfold Delivering <;> infer_instance

-- ==== the library's operations

def ledger (s : CombatRun) : Ledger CombatEvent where
  log := s.world.mirror.combatLog
  recorded := s.recorded
  sinceRead := s.sinceQuery
  overrun := s.overrun
  returned := s.returned

def logOp (w : QueryWorld) : QueryAct → LogOp CombatEvent
  | .combat p now =>
    match w.mirror.combatEvent p now with
    | some e => .record e
    | none => .touch false
  | .packet _ _ => .touch false
  | .stateQuery format pid =>
    .read true !(decide (format = .llmOptimized
      ∧ w.mirror.drainsWhileBuilding w.playerId pid))
  | .extractState format pid =>
    .read true !(decide (format = .full
      ∨ w.mirror.drainsWhileBuilding w.playerId pid))
  | .wsStateQuery format _ pid outer _ =>
    .read (!w.cacheHit format pid outer) false
  | .legalActions _ => .touch true
  | .unitActions _ pid => .touch (w.serves pid)
  | .cityActions _ pid => .touch (w.serves pid)

theorem act_cachesBare {s : CombatRun} (hB : s.world.CachesBare)
    (a : QueryAct) : (s.act a).world.CachesBare := by
  have hworld : (s.act a).world = (s.world.act a).1 := by
    unfold act
    dsimp only
    split <;> rfl
  rw [hworld]
  cases a with
  | wsStateQuery format includeActions pid outer inner =>
    exact (QueryWorld.handleStateQuery_log hB format includeActions pid
      outer inner).1
  | unitActions unitId pid | cityActions cityId pid =>
    unfold QueryWorld.act
    dsimp only
    split <;> exact hB
  | _ => exact hB

theorem ledger_read (s : CombatRun) (w : QueryWorld) (answer : StateAnswer)
    (drains carries : Bool)
    (hlog : w.mirror.combatLog
      = if drains then [] else s.world.mirror.combatLog)
    (hev : answer.events
      = if carries then s.world.mirror.combatLog else []) :
    ledger { s with world := w, sinceQuery := []
                    returned := s.returned ++ answer.events }
      = s.ledger.apply Mirror.combatLogMaxlen (.read drains carries) := by
  show Ledger.mk w.mirror.combatLog s.recorded [] s.overrun
    (s.returned ++ answer.events) = _
  rw [hlog, hev]
  rfl

theorem ledger_touch (s : CombatRun) (w : QueryWorld) (drains : Bool)
    (hlog : w.mirror.combatLog
      = if drains then [] else s.world.mirror.combatLog) :
    ledger { s with world := w }
      = s.ledger.apply Mirror.combatLogMaxlen (.touch drains) := by
  show Ledger.mk w.mirror.combatLog s.recorded s.sinceQuery s.overrun
    s.returned = _
  rw [hlog]
  rfl

theorem ledger_act {s : CombatRun} (hB : s.world.CachesBare)
    (a : QueryAct) :
    (s.act a).ledger
      = s.ledger.apply Mirror.combatLogMaxlen (logOp s.world a) := by
  cases a with
  | combat p now =>
    unfold act QueryWorld.act logOp Mirror.handleCombatInfo
    dsimp only
    cases hc : s.world.mirror.combatEvent p now with
    | none => rfl
    | some e =>
      simp only [ledger, Ledger.apply, Mirror.appendCombat]
  | packet m playerId => rfl
  | stateQuery format pid =>
    obtain ⟨hl, hev⟩ :=
      s.world.mirror.handleStateQuery_log s.world.playerId format pid
    refine ledger_read s _ _ _ _ hl (hev.trans ?_)
    simp only [Bool.not_eq_true', decide_eq_false_iff_not, ite_not]
  | extractState format pid =>
    obtain ⟨hl, hev⟩ :=
      s.world.mirror.extractState_log s.world.playerId format pid
    refine ledger_read s _ _ _ _ hl (hev.trans ?_)
    simp only [Bool.not_eq_true', decide_eq_false_iff_not, ite_not]
  | wsStateQuery format includeActions pid outer inner =>
    obtain ⟨-, hl, hev⟩ := QueryWorld.handleStateQuery_log hB format
      includeActions pid outer inner
    exact ledger_read s _ _ _ _ hl hev
  | legalActions pid =>
    exact ledger_touch s _ true
      (s.world.mirror.getLegalActions_log s.world.playerId pid)
  | unitActions unitId pid | cityActions cityId pid =>
    unfold act QueryWorld.act logOp
    dsimp only
    cases s.world.serves pid with
    | false => rfl
    | true =>
      rw [if_pos rfl]
      exact ledger_touch s _ true
        (s.world.mirror.getFullState_combatLog pid)

theorem delivering_iff (s : CombatRun) (a : QueryAct) :
    Delivering s a
      ↔ Ledger.Fair Mirror.combatLogMaxlen s.ledger (logOp s.world a) := by
  cases a with
  | combat p now =>
    unfold Delivering logOp
    cases hc : s.world.mirror.combatEvent p now with
    | none => simp [Ledger.Fair, hc]
    | some e => simp [Ledger.Fair, ledger, hc]
  | packet m playerId => simp [Delivering, logOp, Ledger.Fair]
  | stateQuery format pid =>
    unfold Delivering logOp Ledger.Fair ledger
    simp only [Bool.true_eq, Bool.not_eq_true', decide_eq_false_iff_not]
  | extractState format pid
  | wsStateQuery format includeActions pid outer inner =>
    unfold Delivering logOp Ledger.Fair ledger
    simp
  | legalActions pid => simp [Delivering, logOp, Ledger.Fair, ledger]
  | unitActions unitId pid =>
    simp [Delivering, logOp, Ledger.Fair, ledger]
  | cityActions cityId pid =>
    simp [Delivering, logOp, Ledger.Fair, ledger]

/-- What delivering steps keep beside the account. -/
def RunInv (s : CombatRun) : Prop :=
  s.world.CachesBare ∧ s.ledger.Inv Mirror.combatLogMaxlen

theorem start_runInv (gameId : String) (playerId : Option Int)
    (m : Mirror) : RunInv (start gameId playerId m) := by
  have hbare : ∀ s ∈ (∅ : Dict String StateAnswer).values,
      s.events = [] := by
    intro s hs
    cases hs
  exact ⟨⟨hbare, hbare⟩, List.nil_suffix, List.nil_suffix,
    Nat.zero_le _, Nat.min_le_right _ _⟩

/-- In every run, of any packets and any queries, the recorded events
are each in exactly one returned state (or still to be returned), but
for the oldest of more than 500 between two state queries, if and only
if every step is a delivering one. -/
theorem combat_delivered_iff (gameId : String) (playerId : Option Int)
    (m : Mirror) (l : List QueryAct) :
    combatRuns.Always DeliveredOnce (start gameId playerId m) l
      ↔ combatRuns.Along Delivering (start gameId playerId m) l := by
  have h0 : 0 < Mirror.combatLogMaxlen := by decide
  refine Lts.always_iff_along_of (J := RunInv) ?_ ?_ (List.Perm.refl _)
    (start_runInv gameId playerId m) l
  · intro s a s' hP hJ hs
    cases hs
    rw [delivering_iff, ← Ledger.apply_accounted_iff h0 hJ.2 hP,
      ← ledger_act hJ.1]
    exact Iff.rfl
  · intro s a s' _ hJ hC hs
    cases hs
    refine ⟨act_cachesBare hJ.1 a, ?_⟩
    rw [ledger_act hJ.1]
    exact Ledger.apply_inv h0 hJ.2 _ ((delivering_iff s a).mp hC)

namespace Skirmish

def unit : UnitInfo where
  id := 101
  owner := 0
  type := "Warriors"
  typeId := none
  tile := 0
  homecity := 0
  movesLeft := 1
  hp := 10
  veteran := 0
  transported := false
  doneMoving := false
  activity := none
  x := 0
  y := 0

def packet : CombatPacket :=
  ⟨some 101, some 7, 6, 0, false, false⟩

/-- The unit appears, fights, and the agent asks for its
`llm_optimized` state. -/
def run : List QueryAct :=
  [.packet { Mirror.init with playerUnits := Dict.ofList [(101, unit)] }
    (some 0), .combat packet 0, .stateQuery .llmOptimized 0]

end Skirmish

/-- The state built for the agent has lost the event to its own list of
legal actions. -/
theorem combat_event_lost :
    ¬ combatRuns.Always DeliveredOnce (start "g1" none Mirror.init)
      Skirmish.run := by
  decide

end CombatRun

end Freeciv3d.Proxy
