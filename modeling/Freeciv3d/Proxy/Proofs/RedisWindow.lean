/-
How many calls the Redis rate limiter lets through in a window.

# What the log holds

The entries under a key, less those a rejected call has still to remove
(`log`), are the calls that were let through, as long as their window is
not over (`Logged`): a pipeline that counts fewer than `limit` entries
counts at least these.

# When it loses one

A member of a sorted set is a printed reading. When a call finds its own
reading in the set, its entry is not a second one; and when it is
rejected, it removes the entry of the call before, which was let
through. So calls at one reading are not counted (`NewReading` excludes
them).
-/
import Mathlib.Data.List.MinMax
import Freeciv3d.Lib.RateLimits
import Freeciv3d.Lib.Tasks
import Freeciv3d.Proxy.RateLimiters

namespace Freeciv3d.Proxy

open Lib

namespace LimiterRun

variable {str : Rat → String} {limits : KeyLimits} {r r' : LimiterRun}
variable {key : String} {now s : Rat}

-- ==== the statement

/-- The calls on a key that were let through inside a set of times. -/
def passedIn (r : LimiterRun) (key : String) (inside : Rat → Bool) : Nat :=
  r.passed.countP fun e => e.1 == key && inside e.2

/-- From `s` on, for a window. -/
def fromWindow (limits : KeyLimits) (key : String) (s t : Rat) : Bool :=
  decide (s ≤ t) && decide (t < s + limits.window key)

/-- After `s`, for a window. -/
def afterWindow (limits : KeyLimits) (key : String) (s t : Rat) : Bool :=
  decide (s < t) && decide (t ≤ s + limits.window key)

/-- No half-open interval of the window's length has more than the
limit. -/
def WithinLimit (limits : KeyLimits) (r : LimiterRun) : Prop :=
  ∀ key s, r.passedIn key (fromWindow limits key s) ≤ limits.limit key
    ∧ r.passedIn key (afterWindow limits key s) ≤ limits.limit key

/-- The call's printed reading is neither in the set nor in a removal
that waits. -/
def NewReading (str : Rat → String) (limits : KeyLimits)
    (r : LimiterRun) : LimiterAct → Prop
  | .check key now =>
    (RedisRateLimiter.current r.redis key (limits.window key)
      now).get? (str now) = none
      ∧ (key, str now) ∉ r.removals
  | .remove _ => True

instance : DecidableRel (NewReading str limits) := by
  intro r act
  cases act <;> unfold NewReading <;> infer_instance

-- ==== the log

def members (redis : Redis) (key : String) : List (String × Rat) :=
  ((redis.get? key).map fun set => set.scores.entries).getD []

/-- The entries no rejected call has still to remove. -/
def unremoved (removals : List (String × String)) (key : String)
    (l : List (String × Rat)) : List (String × Rat) :=
  l.filter fun e => decide ((key, e.1) ∉ removals)

/-- What a key's sorted set holds of the calls that were let through. -/
def log (limits : KeyLimits) (r : LimiterRun) (key : String) :
    SlidingWindow Rat where
  limit := limits.limit key
  windowSeconds := limits.window key
  requests := (unremoved r.removals key (members r.redis key)).map Prod.snd

/-- The calls that were let through are in the log while their window
is not over, and their sets do not expire before. -/
structure Logged (limits : KeyLimits) (r : LimiterRun) : Prop where
  scores : ∀ key set, r.redis.get? key = some set →
    ∀ e ∈ set.scores.entries, e.2 ≤ r.clock
      ∧ e.2 + (limits.window key + 1) ≤ set.expiresAt
  within : ∀ key s,
    r.passedIn key (fromWindow limits key s) ≤ limits.limit key
  counted : ∀ key s, r.clock < s + limits.window key →
    (r.log limits key).Windowed s
      (r.passedIn key (fromWindow limits key s))

-- ==== what is current

theorem mem_members_iff {redis : Redis} {e : String × Rat} :
    e ∈ members redis key
      ↔ ∃ set, redis.get? key = some set ∧ e ∈ set.scores.entries := by
  unfold members
  cases redis.get? key with
  | none => simp
  | some set => simp

theorem current_entries (redis : Redis) (key : String) (window : Nat)
    (now : Rat) :
    (RedisRateLimiter.current redis key window now).entries
      = (members redis key).filter fun e =>
          (redis.get? key).any (fun set => decide (now < set.expiresAt))
            && !(decide (0 ≤ e.2) && decide (e.2 ≤ now - window)) := by
  show (RedisRateLimiter.zrange redis key now).entries.filter _ = _
  unfold RedisRateLimiter.zrange members
  cases redis.get? key with
  | none => rfl
  | some set =>
    show (if _ then _ else _ : Dict String Rat).entries.filter _ = _
    by_cases hexpired : set.expiresAt ≤ now
    · rw [if_pos hexpired]
      symm
      refine List.filter_eq_nil_iff.mpr fun e _ => ?_
      simp [hexpired]
    · rw [if_neg hexpired]
      refine List.filter_congr fun e _ => ?_
      simp [lt_of_not_ge hexpired]

theorem mem_current (h : Logged limits r)
    (hs : now < s + limits.window key) {e : String × Rat}
    (he : e ∈ members r.redis key) (hse : s ≤ e.2) :
    e ∈ (RedisRateLimiter.current r.redis key (limits.window key)
      now).entries := by
  rw [current_entries]
  refine List.mem_filter.mpr ⟨he, ?_⟩
  obtain ⟨set, hget, hin⟩ := mem_members_iff.mp he
  have hexpires := (h.scores key set hget e hin).2
  have hlive : now < set.expiresAt := by linarith
  have hlate : ¬ e.2 ≤ now - limits.window key := by
    intro hold
    linarith
  rw [hget]
  simp [hlive, hlate]

theorem countP_current (h : Logged limits r)
    (hs : now < s + limits.window key) :
    ((unremoved r.removals key (RedisRateLimiter.current r.redis key
        (limits.window key) now).entries).map Prod.snd).countP
        (fun t => decide (s ≤ t))
      = (r.log limits key).requests.countP fun t => decide (s ≤ t) := by
  have hmem : ∀ e ∈ members r.redis key, s ≤ e.2 →
      e ∈ (RedisRateLimiter.current r.redis key (limits.window key)
        now).entries := fun e he hse => mem_current h hs he hse
  rw [current_entries] at hmem ⊢
  unfold log unremoved
  rw [List.countP_map, List.countP_map, List.countP_filter,
    List.countP_filter, List.countP_filter]
  refine List.countP_congr fun e he => ?_
  have hkept : s ≤ e.2 → _ := fun hse => (List.mem_filter.mp (hmem e he hse)).2
  simp only [Function.comp, Bool.and_eq_true, decide_eq_true_eq] at hkept ⊢
  refine ⟨And.left, fun hand => ⟨hand, hkept hand.1⟩⟩

-- ==== a call

def kept (limits : KeyLimits) (r : LimiterRun) (key : String)
    (now : Rat) : SlidingWindow Rat :=
  { r.log limits key with
    requests := (unremoved r.removals key (RedisRateLimiter.current r.redis
      key (limits.window key) now).entries).map Prod.snd }

theorem check_passed (h : (r.pipeline str limits key now).2 = true) :
    r.check str limits key now
      = { r with
          redis := (r.pipeline str limits key now).1
          clock := now
          passed := r.passed ++ [(key, now)] } := if_pos h

theorem check_rejected (h : ¬ (r.pipeline str limits key now).2 = true) :
    r.check str limits key now
      = { r with
          redis := (r.pipeline str limits key now).1
          clock := now
          removals := r.removals ++ [(key, str now)] } := if_neg h

theorem members_pipeline_self
    (hnew : (RedisRateLimiter.current r.redis key (limits.window key)
      now).get? (str now) = none) :
    members (r.pipeline str limits key now).1 key
      = (RedisRateLimiter.current r.redis key (limits.window key)
          now).entries ++ [(str now, now)] := by
  unfold members pipeline RedisRateLimiter.pipeline
  rw [Dict.get?_set_self]
  exact Dict.entries_set_of_new hnew now

theorem get?_pipeline_of_ne {k : String} (hk : k ≠ key) :
    (r.pipeline str limits key now).1.get? k = r.redis.get? k :=
  Dict.get?_set_of_ne _ _ hk

theorem unremoved_append (removals : List (String × String)) (k : String)
    (l l' : List (String × Rat)) :
    unremoved removals k (l ++ l')
      = unremoved removals k l ++ unremoved removals k l' :=
  List.filter_append l l'

theorem unremoved_of_ne {removals : List (String × String)}
    {removal : String × String} {k : String} {l : List (String × Rat)}
    (hk : ∀ e ∈ l, (k, e.1) ≠ removal) :
    unremoved (removals ++ [removal]) k l = unremoved removals k l := by
  refine List.filter_congr fun e he => ?_
  have hne := hk e he
  simp [hne]

theorem log_check_passed
    (hnew : NewReading str limits r (.check key now))
    (h : (r.pipeline str limits key now).2 = true) :
    (r.check str limits key now).log limits key
      = { r.kept limits key now with
          requests := (r.kept limits key now).requests ++ [now] } := by
  rw [check_passed h]
  unfold log kept
  rw [members_pipeline_self hnew.1]
  have hone : unremoved r.removals key [(str now, now)]
      = [(str now, now)] :=
    List.filter_cons_of_pos (decide_eq_true hnew.2)
  rw [unremoved_append, hone, List.map_append]
  rfl

theorem log_check_rejected
    (hnew : NewReading str limits r (.check key now))
    (h : ¬ (r.pipeline str limits key now).2 = true) :
    (r.check str limits key now).log limits key
      = r.kept limits key now := by
  rw [check_rejected h]
  unfold log kept
  rw [members_pipeline_self hnew.1]
  have hown : unremoved (r.removals ++ [(key, str now)]) key
      [(str now, now)] = [] :=
    List.filter_cons_of_neg (by simp)
  have hothers : ∀ e ∈ (RedisRateLimiter.current r.redis key
      (limits.window key) now).entries, (key, e.1) ≠ (key, str now) := by
    intro e he heq
    have hget := Dict.mem_entries_iff.mp he
    rw [(Prod.mk.inj heq).2, hnew.1] at hget
    cases hget
  rw [unremoved_append, hown, List.append_nil, unremoved_of_ne hothers]
  rfl

theorem log_check_of_ne {k : String} (hk : k ≠ key) :
    (r.check str limits key now).log limits k = r.log limits k := by
  by_cases h : (r.pipeline str limits key now).2 = true
  · rw [check_passed h]
    unfold log members
    rw [get?_pipeline_of_ne hk]
  · rw [check_rejected h]
    unfold log members
    rw [get?_pipeline_of_ne hk, unremoved_of_ne]
    exact fun e _ heq => hk (Prod.mk.inj heq).1

theorem check_clock : (r.check str limits key now).clock = now := by
  unfold check
  dsimp only
  split <;> rfl

theorem check_redis :
    (r.check str limits key now).redis
      = (r.pipeline str limits key now).1 := by
  unfold check
  dsimp only
  split <;> rfl

theorem passedIn_check (k : String) (inside : Rat → Bool) :
    (r.check str limits key now).passedIn k inside
      = r.passedIn k inside
        + if (r.pipeline str limits key now).2 = true ∧ key = k
            ∧ inside now = true then 1 else 0 := by
  unfold check passedIn
  dsimp only
  by_cases h : (r.pipeline str limits key now).2 = true
  · rw [if_pos h, List.countP_append, List.countP_singleton]
    simp [h]
  · rw [if_neg h]
    simp [h]

theorem kept_length_le :
    (r.kept limits key now).requests.length
      ≤ (RedisRateLimiter.current r.redis key (limits.window key)
          now).size := by
  unfold kept unremoved
  rw [List.length_map]
  exact List.length_filter_le _ _

theorem Logged.counted_check (h : Logged limits r)
    (hnew : NewReading str limits r (.check key now))
    (hs : now < s + limits.window key) (hclock : r.clock ≤ now) :
    ((r.check str limits key now).log limits key).Windowed s
      ((r.check str limits key now).passedIn key
        (fromWindow limits key s)) := by
  have hkept : (r.kept limits key now).Windowed s
      (r.passedIn key (fromWindow limits key s)) :=
    (h.counted key s (lt_of_le_of_lt hclock hs)).drop (countP_current h hs)
  rw [passedIn_check]
  by_cases hpass : (r.pipeline str limits key now).2 = true
  · have hroom : (r.kept limits key now).requests.length
        < (r.kept limits key now).limit :=
      lt_of_le_of_lt kept_length_le (of_decide_eq_true hpass)
    rw [log_check_passed hnew hpass]
    refine (hkept.push now hroom).mono ?_
    by_cases hsnow : s ≤ now
    · simp [hpass, fromWindow, hsnow, hs]
    · simp [fromWindow, hsnow]
  · rw [log_check_rejected hnew hpass, if_neg fun hand => hpass hand.1]
    exact hkept

-- ==== the steps

theorem Logged.scores_check (h : Logged limits r)
    (hnew : NewReading str limits r (.check key now))
    (hclock : r.clock ≤ now) {k : String} {set : SortedSet}
    (hget : (r.check str limits key now).redis.get? k = some set)
    {e : String × Rat} (he : e ∈ set.scores.entries) :
    e.2 ≤ now ∧ e.2 + (limits.window k + 1) ≤ set.expiresAt := by
  rw [check_redis] at hget
  by_cases hk : k = key
  · subst hk
    have hself : (r.pipeline str limits k now).1.get? k
        = some ⟨(RedisRateLimiter.current r.redis k (limits.window k)
            now).set (str now) now, now + (limits.window k + 1)⟩ :=
      Dict.get?_set_self _ _ _
    rw [hself] at hget
    cases hget
    rw [Dict.entries_set_of_new hnew.1] at he
    have hle : e.2 ≤ now := by
      rcases List.mem_append.mp he with hold | hown
      · rw [current_entries] at hold
        obtain ⟨set, hget, hin⟩ :=
          mem_members_iff.mp (List.mem_filter.mp hold).1
        exact (h.scores k set hget e hin).1.trans hclock
      · cases List.mem_singleton.mp hown
        exact le_refl now
    refine ⟨hle, ?_⟩
    show e.2 + _ ≤ now + _
    linarith
  · rw [get?_pipeline_of_ne hk] at hget
    obtain ⟨hle, hexpires⟩ := h.scores k set hget e he
    exact ⟨hle.trans hclock, hexpires⟩

theorem Logged.check (h : Logged limits r)
    (hnew : NewReading str limits r (.check key now))
    (hclock : r.clock ≤ now) :
    Logged limits (r.check str limits key now) := by
  have hcounted : ∀ k s, now < s + limits.window k →
      ((r.check str limits key now).log limits k).Windowed s
        ((r.check str limits key now).passedIn k
          (fromWindow limits k s)) := by
    intro k s hs
    by_cases hk : k = key
    · subst hk
      exact h.counted_check hnew hs hclock
    · rw [log_check_of_ne hk, passedIn_check,
        if_neg fun hand => hk hand.2.1.symm]
      exact h.counted k s (lt_of_le_of_lt hclock hs)
  refine ⟨?_, fun k s => ?_, ?_⟩
  · rw [check_clock]
    exact fun k set hget e he => h.scores_check hnew hclock hget he
  · by_cases hs : now < s + limits.window k
    · exact (hcounted k s hs).within
    · -- the interval is over
      have hout : fromWindow limits k s now = false := by
        simp [fromWindow, hs]
      rw [passedIn_check, if_neg fun hand =>
        Bool.false_ne_true (hout.symm.trans hand.2.2)]
      exact h.within k s
  · rw [check_clock]
    exact hcounted

def removed (r : LimiterRun) (i : Nat) (removal : String × String) :
    LimiterRun :=
  { r with
    redis := RedisRateLimiter.zrem r.redis removal.1 removal.2
    removals := r.removals.eraseIdx i }

theorem log_removed {i : Nat} {removal : String × String}
    (hi : r.removals[i]? = some removal) (k : String) :
    (r.removed i removal).log limits k = r.log limits k := by
  have hiff : ∀ member : String, (k, member) ≠ removal →
      ((k, member) ∈ r.removals.eraseIdx i ↔ (k, member) ∈ r.removals) := by
    intro member hne
    refine ⟨List.mem_of_mem_eraseIdx, fun hmem => ?_⟩
    rcases eq_or_mem_eraseIdx hi hmem with heq | hin
    · exact absurd heq hne
    · exact hin
  have hsame : unremoved (r.removals.eraseIdx i) k
      (members (RedisRateLimiter.zrem r.redis removal.1 removal.2) k)
      = unremoved r.removals k (members r.redis k) := by
    unfold members RedisRateLimiter.zrem
    rw [Dict.get?_modify]
    by_cases hk : k = removal.1
    · rw [if_pos hk]
      cases r.redis.get? k with
      | none => rfl
      | some set =>
        show (set.scores.entries.filter _).filter _
          = set.scores.entries.filter _
        rw [List.filter_filter]
        refine List.filter_congr fun e _ => ?_
        by_cases he : (k, e.1) = removal
        · have hwaits : (k, e.1) ∈ r.removals :=
            he ▸ List.mem_of_getElem? hi
          have hmember : e.1 = removal.2 := congrArg Prod.snd he
          rw [hmember] at hwaits
          simp [hwaits, hmember]
        · have hmember : e.1 ≠ removal.2 := fun heq =>
            he (Prod.ext hk heq)
          simp [hiff e.1 he, hmember]
    · rw [if_neg hk]
      refine List.filter_congr fun e _ => ?_
      have hne : (k, e.1) ≠ removal := fun heq => hk (congrArg Prod.fst heq)
      simp [hiff e.1 hne]
  unfold log
  show SlidingWindow.mk _ _ ((unremoved _ _ _).map _)
    = SlidingWindow.mk _ _ ((unremoved _ _ _).map _)
  rw [← hsame]
  rfl

theorem Logged.removed (h : Logged limits r) {i : Nat}
    {removal : String × String} (hi : r.removals[i]? = some removal) :
    Logged limits (r.removed i removal) := by
  refine ⟨fun k set hget e he => ?_, h.within, fun k s hs => ?_⟩
  · have hzrem : (RedisRateLimiter.zrem r.redis removal.1 removal.2).get? k
        = some set := hget
    rcases Dict.of_get?_modify hzrem with ⟨-, old, hold, rfl⟩ | ⟨-, hold⟩
    · exact h.scores k old hold e ((Dict.erase_sublist _ _).subset he)
    · exact h.scores k set hold e he
  · rw [log_removed hi]
    exact h.counted k s hs

theorem Logged.of_init (h : (limiterRuns str limits).init r) :
    Logged limits r := by
  obtain ⟨hredis, -, hpassed⟩ := h
  have hnone : ∀ k inside, r.passedIn k inside = 0 := by
    intro k inside
    unfold passedIn
    rw [hpassed]
    rfl
  refine ⟨fun k set hget => ?_, fun k s => ?_, fun k s _ => ?_⟩
  · rw [hredis] at hget
    cases hget
  · rw [hnone]
    exact Nat.zero_le _
  · rw [hnone]
    exact ⟨Nat.zero_le _, Nat.zero_le _⟩

theorem reach_logged
    (h : (limiterRuns str limits).ReachVia (NewReading str limits) r) :
    Logged limits r := by
  refine h.invariant (I := fun r => Logged limits r)
    (fun _ h => Logged.of_init h) ?_
  intro r act r' hlogged hnew hstep
  cases act with
  | check key now =>
    obtain ⟨hclock, hsome⟩ := Option.ite_none_right_eq_some.mp hstep
    cases hsome
    exact hlogged.check hnew hclock
  | remove i =>
    obtain ⟨removal, hi, hr'⟩ := Option.map_eq_some_iff.mp hstep
    cases hr'
    exact hlogged.removed hi

-- ==== runs

/-- A window that is open at its start has no call, or lies in the one
that starts at its first call. -/
theorem passedIn_afterWindow_le (limits : KeyLimits) (r : LimiterRun)
    (key : String) (s : Rat) :
    r.passedIn key (afterWindow limits key s) = 0
      ∨ ∃ first, r.passedIn key (afterWindow limits key s)
        ≤ r.passedIn key (fromWindow limits key first) := by
  let inside := r.passed.filter fun e =>
    e.1 == key && afterWindow limits key s e.2
  cases hfirst : inside.argmin Prod.snd with
  | none =>
    refine .inl ?_
    unfold passedIn
    rw [List.countP_eq_length_filter]
    exact congrArg List.length (List.argmin_eq_none.mp hfirst)
  | some first =>
    refine .inr ⟨first.2, ?_⟩
    have hin := (List.mem_filter.mp (List.argmin_mem hfirst)).2
    simp only [afterWindow, Bool.and_eq_true, decide_eq_true_eq] at hin
    refine List.countP_mono_left fun e he hafter => ?_
    have hmin : first.2 ≤ e.2 :=
      List.le_of_mem_argmin (List.mem_filter.mpr ⟨he, hafter⟩) hfirst
    simp only [afterWindow, fromWindow, Bool.and_eq_true,
      decide_eq_true_eq] at hafter ⊢
    exact ⟨hafter.1, hmin, by linarith [hin.2.1, hafter.2.2]⟩

/-- When no call finds its own reading in the set or in a waiting
removal, no window has more calls than the limit. -/
theorem withinLimit_of_newReadings
    (h : (limiterRuns str limits).ReachVia (NewReading str limits) r) :
    WithinLimit limits r := by
  have hwithin := (reach_logged h).within
  refine fun key s => ⟨hwithin key s, ?_⟩
  rcases passedIn_afterWindow_le limits r key s with
    hnone | ⟨first, hle⟩
  · rw [hnone]
    exact Nat.zero_le _
  · exact hle.trans (hwithin key first)

def strOfSeconds (t : Rat) : String := toString t.floor ++ ".0"

def oneAMinute : KeyLimits := ⟨fun _ => 1, fun _ => 60⟩

def noCalls : LimiterRun := ⟨∅, [], 0, []⟩

def afterActs (acts : List LimiterAct) : LimiterRun :=
  ((limiterRuns strOfSeconds oneAMinute).exec noCalls acts).getD noCalls

/-- Three calls at one reading, each over before the next. -/
def atOnce : List LimiterAct :=
  [.check "agent" 100, .check "agent" 100, .remove 0, .check "agent" 100]

/-- The second call removes the entry of the first, and the third is let
through as well. -/
theorem limit_exceeded :
    (limiterRuns strOfSeconds oneAMinute).Reach (afterActs atOnce)
      ∧ ¬ WithinLimit oneAMinute (afterActs atOnce) := by
  have hinit : (limiterRuns strOfSeconds oneAMinute).init noCalls :=
    ⟨rfl, rfl, rfl⟩
  refine ⟨(Lts.Reach.init hinit).exec_getD atOnce, fun h => ?_⟩
  have htwo : (afterActs atOnce).passedIn "agent"
      (fromWindow oneAMinute "agent" 100) = 2 := by decide +kernel
  have hle := (h "agent" 100).1
  rw [htwo] at hle
  exact absurd hle (by decide)

def apart : List LimiterAct :=
  [.check "agent" 100, .check "agent" 101, .remove 0, .check "agent" 102]

theorem withinLimit_of_apart : WithinLimit oneAMinute (afterActs apart) := by
  have hinit : (limiterRuns strOfSeconds oneAMinute).init noCalls :=
    ⟨rfl, rfl, rfl⟩
  have hrun : (limiterRuns strOfSeconds oneAMinute).exec noCalls apart
      = some (afterActs apart) := by decide +kernel
  exact withinLimit_of_newReadings
    ((Lts.ReachVia.init hinit).exec (by decide +kernel) hrun)

end LimiterRun

end Freeciv3d.Proxy
