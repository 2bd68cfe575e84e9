/-
How many calls the in-memory rate limiter lets through in an interval.

# What is kept

The bucket of a key is the metered bucket of `Lib.Metered` for the calls
on this key that were let through, and while there is no bucket none
was (`Accounted`). A call on another key changes neither side. A call on
the key is a refill, from a reading no later than its own, and a draw.
-/
import Freeciv3d.Lib.TokenLevel
import Freeciv3d.Proxy.RateLimiters

namespace Freeciv3d.Proxy

open Lib

namespace InMemoryRateLimiter

variable {l : InMemoryRateLimiter} {key other : String}
variable {limit window now : Rat}

def tokensAt (l : InMemoryRateLimiter) (key : String)
    (limit window now : Rat) : Rat :=
  match l.buckets.get? key with
  | none => levelAt limit (limit / window) limit now now
  | some bucket =>
    levelAt limit (limit / window) bucket.tokens bucket.lastRefill now

theorem checkLimit_eq (l : InMemoryRateLimiter) (key : String)
    (limit now : Rat) (hwindow : window ≠ 0) :
    l.checkLimit key limit window now
      = if 1 ≤ l.tokensAt key limit window now then
          (.ok true, ⟨l.buckets.set key
            ⟨l.tokensAt key limit window now - 1, now⟩⟩)
        else
          (.ok false, ⟨l.buckets.set key
            ⟨l.tokensAt key limit window now, now⟩⟩) := by
  unfold checkLimit tokensAt
  cases l.buckets.get? key with
  | none | some bucket => exact if_neg hwindow

theorem get?_checkLimit_of_ne (h : key ≠ other) :
    (l.checkLimit other limit window now).2.buckets.get? key
      = l.buckets.get? key := by
  unfold checkLimit
  dsimp only
  split
  · exact Dict.get?_set_of_ne _ _ h
  · split
    · exact Dict.get?_set_of_ne _ _ h
    · exact Dict.get?_set_of_ne _ _ h

end InMemoryRateLimiter

namespace MemoryLimiterRun

variable {r : MemoryLimiterRun} {c : LimitCall} {key : String}
variable {limit window s t : Rat}

-- ==== one call

theorem passed_check (r : MemoryLimiterRun) (c : LimitCall) :
    (r.check c).passed
      = if (r.limiter.checkLimit c.key c.limit c.window c.now).1 = .ok true
        then r.passed ++ [(c.key, c.now)] else r.passed := rfl

theorem passedIn_check_of_ne (h : c.key ≠ key) :
    (r.check c).passedIn key s t = r.passedIn key s t := by
  unfold passedIn
  rw [passed_check]
  split
  · rw [List.countP_append, List.countP_singleton, if_neg (by simp [h]),
      Nat.add_zero]
  · rfl

theorem passedIn_check (h : c.key = key) :
    (r.check c).passedIn key s t
      = if (r.limiter.checkLimit c.key c.limit c.window c.now).1 = .ok true
          ∧ s ≤ c.now ∧ c.now ≤ t
        then r.passedIn key s t + 1 else r.passedIn key s t := by
  unfold passedIn
  rw [passed_check]
  by_cases hok : (r.limiter.checkLimit c.key c.limit c.window c.now).1
      = .ok true
  · rw [if_pos hok, List.countP_append, List.countP_singleton]
    have hinside : (c.key == key
        && (decide (s ≤ c.now) && decide (c.now ≤ t))) = true
          ↔ s ≤ c.now ∧ c.now ≤ t := by simp [h]
    by_cases hin : s ≤ c.now ∧ c.now ≤ t
    · rw [if_pos (hinside.mpr hin), if_pos ⟨hok, hin⟩]
    · rw [if_neg (mt hinside.mp hin), if_neg (fun hand => hin hand.2)]
      rfl
  · rw [if_neg hok, if_neg (fun hand => hok hand.1)]

-- ==== the invariant

/-- What a key's bucket accounts for. -/
structure Accounted (key : String) (limit window s t : Rat)
    (r : MemoryLimiterRun) : Prop where
  bucket : ∀ b, r.limiter.buckets.get? key = some b →
    Metered limit (limit / window) s t (r.passedIn key s t)
      b.tokens b.lastRefill
  unused : r.limiter.buckets.get? key = none → r.passedIn key s t = 0

/-- The key's bucket was not refilled after `now`. -/
def RefilledBy (r : MemoryLimiterRun) (key : String) (now : Rat) : Prop :=
  ∀ b, r.limiter.buckets.get? key = some b → b.lastRefill ≤ now

theorem Accounted.found (h : Accounted key limit window s t r)
    (hlimit : 0 < limit) (hwindow : 0 < window) (hst : s ≤ t) {now : Rat}
    (hnow : r.RefilledBy key now) :
    Metered limit (limit / window) s t (r.passedIn key s t)
      (r.limiter.tokensAt key limit window now) now := by
  have hrate : 0 ≤ limit / window := (div_pos hlimit hwindow).le
  unfold InMemoryRateLimiter.tokensAt
  cases hget : r.limiter.buckets.get? key with
  | none =>
    rw [h.unused hget, Nat.cast_zero]
    exact (Metered.full hrate hlimit.le hst now).refill hrate le_rfl
  | some b => exact (h.bucket b hget).refill hrate (hnow b hget)

theorem Accounted.check (h : Accounted key limit window s t r)
    (hlimit : 0 < limit) (hwindow : 0 < window) (hst : s ≤ t)
    (hc : c.key = key → c.limit = limit ∧ c.window = window)
    (hnow : c.key = key → r.RefilledBy key c.now) :
    Accounted key limit window s t (r.check c) := by
  by_cases hkey : c.key = key
  · obtain ⟨hl, hw⟩ := hc hkey
    have hfound := h.found hlimit hwindow hst (hnow hkey)
    have hrate : 0 ≤ limit / window := (div_pos hlimit hwindow).le
    have hcall := InMemoryRateLimiter.checkLimit_eq r.limiter key limit c.now
      hwindow.ne'
    have hcount := passedIn_check (r := r) (s := s) (t := t) hkey
    have hbuckets : (r.check c).limiter
        = (r.limiter.checkLimit key limit window c.now).2 := by
      rw [← hkey, ← hl, ← hw]
      rfl
    rw [hkey, hl, hw] at hcount
    by_cases hone : 1 ≤ r.limiter.tokensAt key limit window c.now
    · rw [if_pos hone] at hcall
      rw [hcall] at hbuckets hcount
      have hdraw := hfound.draw hrate hone
      simp only [true_and] at hcount
      constructor
      · intro b hb
        rw [hbuckets, Dict.get?_set, if_pos rfl] at hb
        cases hb
        rw [hcount]
        push_cast
        exact hdraw
      · intro hnone
        rw [hbuckets, Dict.get?_set, if_pos rfl] at hnone
        cases hnone
    · rw [if_neg hone] at hcall
      rw [hcall] at hbuckets hcount
      rw [if_neg (by simp)] at hcount
      constructor
      · intro b hb
        rw [hbuckets, Dict.get?_set, if_pos rfl] at hb
        cases hb
        rw [hcount]
        exact hfound
      · intro hnone
        rw [hbuckets, Dict.get?_set, if_pos rfl] at hnone
        cases hnone
  · have hget : (r.check c).limiter.buckets.get? key
        = r.limiter.buckets.get? key :=
      InMemoryRateLimiter.get?_checkLimit_of_ne (Ne.symm hkey)
    have hcount := passedIn_check_of_ne (r := r) (s := s) (t := t) hkey
    constructor
    · intro b hb
      rw [hcount]
      exact h.bucket b (hget ▸ hb)
    · intro hnone
      rw [hcount]
      exact h.unused (hget ▸ hnone)

theorem refilledBy_check {now : Rat} (h : r.RefilledBy key now)
    (hwindow : c.key = key → c.window ≠ 0)
    (hc : c.key = key → c.now ≤ now) : (r.check c).RefilledBy key now := by
  intro b hb
  by_cases hkey : c.key = key
  · have hcall := InMemoryRateLimiter.checkLimit_eq r.limiter c.key c.limit
      c.now (hwindow hkey)
    have hbuckets : (r.check c).limiter
        = (r.limiter.checkLimit c.key c.limit c.window c.now).2 := rfl
    rw [hcall] at hbuckets
    split at hbuckets
    · rw [hbuckets, ← hkey, Dict.get?_set, if_pos rfl] at hb
      cases hb
      exact hc hkey
    · rw [hbuckets, ← hkey, Dict.get?_set, if_pos rfl] at hb
      cases hb
      exact hc hkey
  · have hget : (r.check c).limiter.buckets.get? key
        = r.limiter.buckets.get? key :=
      InMemoryRateLimiter.get?_checkLimit_of_ne (Ne.symm hkey)
    exact h b (hget ▸ hb)

-- ==== the runs

/-- The calls on a key, with one limit and one window, at readings that
do not decrease. -/
structure Steady (key : String) (limit window : Rat)
    (calls : List LimitCall) : Prop where
  limits : ∀ c ∈ calls, c.key = key → c.limit = limit ∧ c.window = window
  ordered : calls.Pairwise fun c d =>
    c.key = key → d.key = key → c.now ≤ d.now

theorem Accounted.foldl {calls : List LimitCall}
    (h : Accounted key limit window s t r)
    (hlimit : 0 < limit) (hwindow : 0 < window) (hst : s ≤ t)
    (hcalls : Steady key limit window calls)
    (hnow : ∀ c ∈ calls, c.key = key → r.RefilledBy key c.now) :
    Accounted key limit window s t (calls.foldl MemoryLimiterRun.check r) := by
  induction calls generalizing r with
  | nil => exact h
  | cons c rest ih =>
    obtain ⟨hfirst, hrest⟩ := List.pairwise_cons.mp hcalls.ordered
    have hlimits := hcalls.limits c List.mem_cons_self
    refine ih (h.check hlimit hwindow hst hlimits
      (hnow c List.mem_cons_self)) ⟨fun d hd =>
        hcalls.limits d (List.mem_cons_of_mem c hd), hrest⟩ ?_
    intro d hd hdkey
    refine refilledBy_check (hnow d (List.mem_cons_of_mem c hd) hdkey)
      (fun hkey => ?_) (fun hkey => hfirst d hd hkey hdkey)
    rw [(hlimits hkey).2]
    exact hwindow.ne'

theorem accounted_run {calls : List LimitCall} (hlimit : 0 < limit)
    (hwindow : 0 < window) (hst : s ≤ t)
    (hcalls : Steady key limit window calls) :
    Accounted key limit window s t (run calls) := by
  refine Accounted.foldl ⟨fun b hb => ?_, fun _ => rfl⟩ hlimit hwindow hst
    hcalls fun c _ _ b hb => ?_
  · cases hb
  · cases hb

/-- A new limiter lets no more than `limit + (t - s) * limit / window`
calls on a key through in `[s, t]`, and the key's tokens stay between
none and the limit. -/
theorem passedIn_run_le (calls : List LimitCall) (key : String)
    (limit window : Rat) (hlimit : 0 < limit) (hwindow : 0 < window)
    (hcalls : Steady key limit window calls) :
    (∀ s t, s ≤ t → ((run calls).passedIn key s t : Rat)
        ≤ limit + (t - s) * limit / window)
      ∧ ∀ bucket, (run calls).limiter.buckets.get? key = some bucket →
          0 ≤ bucket.tokens ∧ bucket.tokens ≤ limit := by
  constructor
  · intro s t hst
    have hwithin := (accounted_run hlimit hwindow hst hcalls).bucket
    have hunused := (accounted_run hlimit hwindow hst hcalls).unused
    rw [mul_div_assoc]
    cases hget : (run calls).limiter.buckets.get? key with
    | none =>
      rw [hunused hget, Nat.cast_zero]
      exact (Metered.full (div_pos hlimit hwindow).le hlimit.le hst 0).within
    | some b => exact (hwithin b hget).within
  · intro bucket hbucket
    have hmetered := (accounted_run hlimit hwindow (le_refl (0 : Rat))
      hcalls).bucket bucket hbucket
    exact ⟨hmetered.level_nonneg, hmetered.level_le⟩

/-- Two tokens a second: of four calls in half a second two pass, and
the fifth, a second later, does. -/
def burst : List LimitCall :=
  [⟨"a", 2, 1, 0⟩, ⟨"b", 1, 0, 0⟩, ⟨"a", 2, 1, 1 / 8⟩, ⟨"a", 2, 1, 1 / 4⟩,
    ⟨"a", 2, 1, 5 / 4⟩]

/-- The bound holds of a burst, with calls on another key in between. -/
theorem passedIn_run_burst :
    (run burst).passedIn "a" 0 (5 / 4) = 3
      ∧ ((run burst).passedIn "a" 0 (5 / 4) : Rat) ≤ 2 + (5 / 4 - 0) * 2 / 1 :=
  ⟨by decide +kernel,
    (passedIn_run_le burst "a" 2 1 (by decide +kernel) (by decide +kernel)
      ⟨by decide +kernel, by decide +kernel⟩).1 0 (5 / 4) (by decide +kernel)⟩

end MemoryLimiterRun

end Freeciv3d.Proxy
