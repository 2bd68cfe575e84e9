/-
The count of an agent's connections against its handlers: the two
agree, and stay within the maximum, as long as no refused handler ends
while its agent still holds a connection.

# The one bad step

`track_connection` counts exactly the handlers it tracks
(`trackConnection_cases`) and messages leave the count alone
(`sameCount_checkRateLimits`). Only `release_connection` goes wrong: it
takes a connection from the agent whether or not the handler had one.
-/
import Freeciv3d.Gateway.RateLimiter

namespace Freeciv3d.Gateway

open Lib

namespace RateLimiter

/-- Two limiters agree on the connections. -/
def SameCount (r r' : RateLimiter) : Prop :=
  r'.activeConnections = r.activeConnections
    ∧ r'.maxConnections = r.maxConnections

variable {r r' s : RateLimiter} {identifier : String} {now : Rat}

theorem SameCount.refl (r : RateLimiter) : r.SameCount r := ⟨rfl, rfl⟩

theorem SameCount.trans (h : r.SameCount r') (h' : r'.SameCount s) :
    r.SameCount s :=
  ⟨h'.1.trans h.1, h'.2.trans h.2⟩

theorem SameCount.active (h : r.SameCount r') (a : String) :
    r'.active a = r.active a := by
  unfold RateLimiter.active
  rw [h.1]

-- ==== the messages

theorem sameCount_isBlocked (r : RateLimiter) (identifier : String)
    (now : Rat) : r.SameCount (r.isBlocked identifier now).1 := by
  unfold isBlocked
  split
  · exact .refl r
  · split
    · exact .refl r
    · exact ⟨rfl, rfl⟩

theorem sameCount_refuse (r : RateLimiter) (reason : String) :
    r.SameCount (r.refuse identifier now reason).1 := by
  unfold refuse addViolation
  dsimp only
  split
  · exact ⟨rfl, rfl⟩
  · exact ⟨rfl, rfl⟩

theorem sameCount_consumeBucket (r : RateLimiter) (key : String)
    (capacity n : Nat) (now : Rat) :
    r.SameCount (r.consumeBucket key capacity n now).1 := ⟨rfl, rfl⟩

theorem sameCount_setMinute (r : RateLimiter)
    (l : SlidingWindowRateLimiter) :
    let d := r.rateLimiters.set .requestsPerMinute l
    r.SameCount { r with rateLimiters := d } := by
  refine ⟨rfl, ?_⟩
  unfold maxConnections
  rw [Dict.get?_set_of_ne _ _ (by decide)]

theorem sameCount_checkLimiters (size : Nat)
    (limiters : List (RateLimitType × SlidingWindowRateLimiter))
    (r : RateLimiter) :
    r.SameCount (r.checkLimiters identifier size now limiters).1 := by
  induction limiters generalizing r with
  | nil => exact .refl r
  | cons e rest ih =>
    obtain ⟨limitType, limiter⟩ := e
    cases limitType with
    | requestsPerMinute =>
      have hset := r.sameCount_setMinute
        (limiter.isAllowed identifier now).1
      simp only [checkLimiters]
      split
      · exact hset.trans (ih _)
      · exact hset.trans (sameCount_refuse _ _)
    | bytesPerMinute =>
      have hconsume := r.sameCount_consumeBucket
        ("bytes_" ++ identifier) limiter.limit size now
      simp only [checkLimiters]
      split
      · split
        · exact hconsume.trans (ih _)
        · exact hconsume.trans (sameCount_refuse _ _)
      · exact ih r
    | requestsPerSecond | connectionsPerAgent | burstProtection => exact ih r

theorem sameCount_checkType (type : PyVal) (size : Nat)
    (r : RateLimiter) :
    r.SameCount (r.checkType identifier type size now).1 := by
  unfold checkType
  split
  · dsimp only
    split
    · exact r.sameCount_consumeBucket _ _ _ _
    · exact (r.sameCount_consumeBucket _ _ _ _).trans (sameCount_refuse _ _)
  · split
    · dsimp only
      split
      · exact r.sameCount_consumeBucket _ _ _ _
      · exact (r.sameCount_consumeBucket _ _ _ _).trans (sameCount_refuse _ _)
    · exact sameCount_checkLimiters size _ r

theorem sameCount_checkRateLimits (r : RateLimiter) (identifier : String)
    (m : Message) (now : Rat) :
    r.SameCount (r.checkRateLimits identifier m now).1 := by
  have hblock := r.sameCount_isBlocked identifier now
  unfold checkRateLimits
  split
  next r' hr =>
    rw [hr] at hblock
    exact hblock
  next r' hr =>
    rw [hr] at hblock
    split
    · exact hblock.trans (sameCount_checkType _ _ _)
    · split
      · exact hblock.trans (sameCount_refuse _ _)
      · exact hblock.trans (sameCount_checkType _ _ _)

-- ==== the connections

/-- A tracked connection is counted, below the maximum; a refused one
changes no count. -/
theorem trackConnection_cases (r : RateLimiter) (identifier : String)
    (now : Rat) :
    (r.trackConnection identifier now).1.maxConnections = r.maxConnections
      ∧ if (r.trackConnection identifier now).2 = true then
          r.active identifier < r.maxConnections
            ∧ (r.trackConnection identifier now).1.activeConnections
              = r.activeConnections.set identifier (r.active identifier + 1)
        else (r.trackConnection identifier now).1.activeConnections
          = r.activeConnections := by
  have hblock := r.sameCount_isBlocked identifier now
  unfold trackConnection
  split
  next r' hr =>
    rw [hr] at hblock
    exact ⟨hblock.2, hblock.1⟩
  next r' hr =>
    rw [hr] at hblock
    have hactive := hblock.active identifier
    rw [← hblock.1, ← hblock.2, ← hactive]
    unfold trackUnblocked
    dsimp only
    split
    · exact ⟨rfl, rfl⟩
    · split
      · exact ⟨rfl, rfl⟩
      next hmax => exact ⟨rfl, Nat.lt_of_not_le hmax, rfl⟩

theorem active_set {d : Dict String Nat} {a b : String} {n : Nat} :
    ((d.set a n).get? b).getD 0
      = if b = a then n else (d.get? b).getD 0 := by
  rw [Dict.get?_set]
  split
  · rfl
  · rfl

theorem active_releaseConnection (r : RateLimiter) (a b : String) :
    (r.releaseConnection a).active b
      = if b = a then r.active a - 1 else r.active b := by
  unfold releaseConnection
  split
  next =>
    unfold active
    rw [active_set]
  next hzero =>
    split
    next hb =>
      rw [hb]
      omega
    next => rfl

theorem maxConnections_releaseConnection (r : RateLimiter) (a : String) :
    (r.releaseConnection a).maxConnections = r.maxConnections := by
  unfold releaseConnection
  split
  · rfl
  · rfl

end RateLimiter

namespace AgentLifecycles

open RateLimiter

variable {w w' : AgentLifecycles}

theorem holding_append (w : AgentLifecycles) (limiter : RateLimiter)
    (h : AgentHandler) (a : String) :
    AgentLifecycles.holding ⟨limiter, w.handlers ++ [h]⟩ a
      = w.holding a + if h.agentId = a ∧ h.phase = .tracked then 1 else 0 := by
  unfold holding
  rw [List.countP_append, List.countP_singleton]
  simp

theorem holding_finish {i : Nat} {h : AgentHandler}
    (hi : w.handlers[i]? = some h) (limiter : RateLimiter) (a : String) :
    AgentLifecycles.holding ⟨limiter,
        w.handlers.set i { h with phase := .released }⟩ a
      = w.holding a - if h.agentId = a ∧ h.phase = .tracked then 1 else 0 := by
  obtain ⟨hlt, hget⟩ := List.getElem?_eq_some_iff.mp hi
  unfold holding
  rw [List.countP_set hlt, hget]
  simp

/-- A step keeps the account exactly when a refused handler finds
nothing to take. -/
theorem accounted_step_iff (h : w.Accounted) {e : LifecycleEvent}
    (hs : w.step e = some w') : w'.Accounted ↔ w.FindsNothing e := by
  cases e with
  | connect agentId now =>
    cases hs
    refine ⟨fun _ => trivial, fun _ a => ?_⟩
    obtain ⟨hmax, hcases⟩ := w.limiter.trackConnection_cases agentId now
    show (w.limiter.trackConnection agentId now).1.active a
        = AgentLifecycles.holding ⟨_, w.handlers ++ [_]⟩ a
      ∧ (w.limiter.trackConnection agentId now).1.active a
        ≤ (w.limiter.trackConnection agentId now).1.maxConnections
    rw [holding_append, hmax]
    obtain ⟨hcount, hle⟩ := h a
    cases htracked : (w.limiter.trackConnection agentId now).2 with
    | true =>
      rw [htracked, if_pos rfl] at hcases
      obtain ⟨hlt, hset⟩ := hcases
      have hactive : (w.limiter.trackConnection agentId now).1.active a
          = if a = agentId then w.limiter.active agentId + 1
            else w.limiter.active a := by
        show (((w.limiter.trackConnection agentId
          now).1.activeConnections).get? a).getD 0 = _
        rw [hset, active_set]
        rfl
      rw [hactive]
      by_cases ha : a = agentId
      · subst ha
        simp only [if_true, and_self]
        omega
      · have ha' : ¬ agentId = a := fun hc => ha hc.symm
        simp only [ha, ha', if_false, false_and]
        omega
    | false =>
      rw [htracked, if_neg Bool.false_ne_true] at hcases
      have hactive : (w.limiter.trackConnection agentId now).1.active a
          = w.limiter.active a := by
        unfold RateLimiter.active
        rw [hcases]
      rw [hactive]
      simp only [Bool.false_eq_true, if_false]
      simp only [reduceCtorEq, and_false, if_false]
      exact ⟨hcount, hle⟩
  | message agentId m now =>
    cases hs
    refine ⟨fun _ => trivial, fun _ a => ?_⟩
    have hsame := w.limiter.sameCount_checkRateLimits agentId m now
    show (w.limiter.checkRateLimits agentId m now).1.active a = w.holding a
      ∧ (w.limiter.checkRateLimits agentId m now).1.active a
        ≤ (w.limiter.checkRateLimits agentId m now).1.maxConnections
    rw [hsame.active, hsame.2]
    exact h a
  | finish i =>
    obtain ⟨handler, hf, rfl⟩ := Option.map_eq_some_iff.mp hs
    obtain ⟨hi, hphase⟩ := Option.filter_eq_some_iff.mp hf
    have hwhole : AgentLifecycles.Accounted
          ⟨w.limiter.releaseConnection handler.agentId,
            w.handlers.set i { handler with phase := .released }⟩
        ↔ ∀ a, (if a = handler.agentId
            then w.limiter.active handler.agentId - 1
            else w.limiter.active a)
          = w.holding a
            - if handler.agentId = a ∧ handler.phase = .tracked then 1
              else 0 := by
      unfold Accounted
      simp only [active_releaseConnection, holding_finish hi,
        maxConnections_releaseConnection]
      constructor
      · intro hall a
        exact (hall a).1
      · intro hall a
        refine ⟨hall a, ?_⟩
        have hle := (h a).2
        have hle' := (h handler.agentId).2
        split
        · omega
        · exact hle
    rw [hwhole]
    have hown := (h handler.agentId).1
    cases hp : handler.phase with
    | tracked =>
      refine ⟨?_, ?_⟩
      · intro _ h' hh' hrefused
        rw [hi] at hh'
        cases hh'
        rw [hp] at hrefused
        cases hrefused
      · intro _ a
        by_cases ha : a = handler.agentId
        · subst ha
          simp only [if_true, and_self]
          omega
        · have ha' : ¬ handler.agentId = a := fun hc => ha hc.symm
          simp only [ha, ha', if_false, false_and]
          exact (h a).1
    | refused =>
      constructor
      · intro hall h' hh' _
        rw [hi] at hh'
        cases hh'
        have hthis := hall handler.agentId
        simp at hthis
        omega
      · intro hnone a
        have hzero := hnone handler hi hp
        by_cases ha : a = handler.agentId
        · subst ha
          simp
          omega
        · simp [ha, (h a).1]
    | released =>
      rw [hp] at hphase
      exact absurd hphase (by decide)

theorem accounted_init (limiter : RateLimiter)
    (hnone : limiter.activeConnections = ∅) :
    AgentLifecycles.Accounted ⟨limiter, []⟩ := by
  intro a
  have hzero : limiter.active a = 0 := by
    unfold RateLimiter.active
    rw [hnone]
    rfl
  rw [hzero]
  exact ⟨rfl, Nat.zero_le _⟩

/-- In a run of a fresh limiter the count of every agent is always the
number of its handlers, and within the maximum, exactly when no refused
handler ends while its agent is counted. -/
theorem accounted_iff (limiter : RateLimiter)
    (hnone : limiter.activeConnections = ∅) (events : List LifecycleEvent) :
    (runs limiter).Always Accounted ⟨limiter, []⟩ events
      ↔ (runs limiter).Along FindsNothing ⟨limiter, []⟩ events := by
  have hinit : Accounted ⟨limiter, []⟩ := accounted_init limiter hnone
  refine Lts.always_iff_along (I := Accounted) ?_ hinit events
  intro w e w' h hs
  exact accounted_step_iff h hs

/-- The theorem for one agent that comes and goes. -/
theorem accounted_iff_alone :
    (runs .default).Always Accounted ⟨.default, []⟩
        [.connect "alice" 0, .finish 0]
      ↔ (runs .default).Along FindsNothing ⟨.default, []⟩
        [.connect "alice" 0, .finish 0] :=
  accounted_iff .default rfl _

/-- Five connections, a sixth that is refused and ends, a seventh. -/
def refusedSixth : List LifecycleEvent :=
  [.connect "alice" 0, .connect "alice" 1, .connect "alice" 2,
    .connect "alice" 3, .connect "alice" 4, .connect "alice" 5,
    .finish 5, .connect "alice" 6]

/-- Then six handlers hold a connection, and five are counted. -/
theorem six_of_five :
    ∃ w, (runs .default).Reach w ∧ w.limiter.active "alice" = 5
      ∧ w.holding "alice" = 6 ∧ w.limiter.maxConnections = 5
      ∧ ¬ w.Accounted := by
  have hrun : ((runs .default).exec ⟨.default, []⟩ refusedSixth).map (fun w =>
      (w.limiter.active "alice", w.holding "alice", w.limiter.maxConnections))
      = some (5, 6, 5) := by decide +kernel
  obtain ⟨w, hw, heq⟩ := Option.map_eq_some_iff.mp hrun
  obtain ⟨hactive, hholding, hmax⟩ : w.limiter.active "alice" = 5
      ∧ w.holding "alice" = 6 ∧ w.limiter.maxConnections = 5 := by
    simpa using heq
  refine ⟨w, Lts.Reach.exec (.init rfl) hw, hactive, hholding, hmax, ?_⟩
  intro h
  have hcount := (h "alice").1
  omega

end AgentLifecycles

end Freeciv3d.Gateway
