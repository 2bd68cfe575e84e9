/-
`APIRateLimiter`: token buckets for each player and each address. Times
and tokens are rational; the source computes them in floats.

# Without Redis

`InMemoryRateLimiter`: a token bucket for each key, which the proxy uses
while there is no Redis.

The capacity and the window are arguments of each call: a bucket knows
only its tokens.

# With Redis

`RedisRateLimiter`: a sliding window log that several processes keep in
Redis, a sorted set a key.

A call of `check_limit` is a pipeline, which Redis runs as one, and, for
a call that is rejected, the removal of the entry the pipeline made,
which comes some time after it: pipelines of other calls may come
between.

# What is a parameter

The members of a sorted set are printed clock readings; how a reading is
printed is `str`, of which nothing is used. Readings are rational: for
a clock of this size the subtraction of a window is exact. Redis has
the same clock, and is always available.
-/
import Mathlib.Algebra.Order.Ring.Rat
import Mathlib.Data.Rat.Defs
import Freeciv3d.Lib.Dict
import Freeciv3d.Lib.Lts
import Freeciv3d.Proxy.InputSanitizer

namespace Freeciv3d.Proxy

open Lib

structure TokenBucket where
  capacity : Rat
  tokens : Rat
  fillRate : Rat
  lastUpdate : Rat

namespace TokenBucket

/-- The tokens there are at `now`. -/
def available (b : TokenBucket) (now : Rat) : Rat :=
  min b.capacity (b.tokens + (now - b.lastUpdate) * b.fillRate)

/-- `consume`, of one token. -/
def consume (b : TokenBucket) (now : Rat) : Bool × TokenBucket :=
  if 1 ≤ b.available now then
    (true, { b with tokens := b.available now - 1, lastUpdate := now })
  else (false, { b with tokens := b.available now, lastUpdate := now })

/-- `time_until_tokens`, of one token. -/
def timeUntilTokens (b : TokenBucket) : Except Raised Rat :=
  if 1 ≤ b.tokens then .ok 0
  else if b.fillRate = 0 then .error (.exception "float division by zero")
  else .ok ((1 - b.tokens) / b.fillRate)

end TokenBucket

structure APIRateLimiter where
  playerBuckets : Dict Int TokenBucket
  playerRequestsPerMinute : Int
  ipBuckets : Dict String TokenBucket
  ipRequestsPerMinute : Int
  lastCleanup : Rat

inductive LimitAnswer where
  | allowed
  | limited (retryAfter : Rat) (limitType : String)
  deriving DecidableEq

namespace APIRateLimiter

/-- `__init__`, with the per-minute limits of the environment. -/
def init (playerRpm ipRpm : Int) (now : Rat) : APIRateLimiter where
  playerBuckets := ∅
  playerRequestsPerMinute := playerRpm
  ipBuckets := ∅
  ipRequestsPerMinute := ipRpm
  lastCleanup := now

def newBucket (rpm : Int) (now : Rat) : TokenBucket where
  capacity := rpm
  tokens := rpm
  fillRate := rpm / 60
  lastUpdate := now

def cleanupInterval : Rat := 300

/-- `cleanup_old_buckets`: from time to time, buckets unused for an
hour go. -/
def cleanupOldBuckets (l : APIRateLimiter) (now : Rat) : APIRateLimiter :=
  if now - l.lastCleanup < cleanupInterval then l
  else
    { l with
      playerBuckets :=
        l.playerBuckets.filter fun _ b => !decide (b.lastUpdate < now - 3600)
      ipBuckets :=
        l.ipBuckets.filter fun _ b => !decide (b.lastUpdate < now - 3600)
      lastCleanup := now }

/-- One limit: take a token of the key's bucket, which is made if there
is none. -/
def checkLimit {κ : Type} [DecidableEq κ] (buckets : Dict κ TokenBucket)
    (rpm : Int) (key : κ) (now : Rat) :
    Except Raised (Option Rat) × Dict κ TokenBucket :=
  let (allowed, bucket) :=
    ((buckets.get? key).getD (newBucket rpm now)).consume now
  (if allowed then .ok none else bucket.timeUntilTokens.map some,
    buckets.set key bucket)

def checkPlayerLimit (l : APIRateLimiter) (playerId : Int) (now : Rat) :
    Except Raised (Option Rat) × APIRateLimiter :=
  let (answer, buckets) :=
    checkLimit l.playerBuckets l.playerRequestsPerMinute playerId now
  (answer, { l with playerBuckets := buckets })

def checkIpLimit (l : APIRateLimiter) (ipAddress : String) (now : Rat) :
    Except Raised (Option Rat) × APIRateLimiter :=
  let (answer, buckets) :=
    checkLimit l.ipBuckets l.ipRequestsPerMinute ipAddress now
  (answer, { l with ipBuckets := buckets })

/-- `check_limits`: the address first, then the player. -/
def checkLimits (l : APIRateLimiter) (playerId : Int) (ipAddress : String)
    (now : Rat) : Except Raised LimitAnswer × APIRateLimiter :=
  match (l.cleanupOldBuckets now).checkIpLimit ipAddress now with
  | (.error e, l) => (.error e, l)
  | (.ok (some retryAfter), l) => (.ok (.limited retryAfter "ip"), l)
  | (.ok none, l) =>
    match l.checkPlayerLimit playerId now with
    | (.error e, l) => (.error e, l)
    | (.ok (some retryAfter), l) => (.ok (.limited retryAfter "player"), l)
    | (.ok none, l) => (.ok .allowed, l)

/-- The limiter lets a request of a player from an address through. -/
def WithinLimits (l : APIRateLimiter) (playerId : Int) (ipAddress : String)
    (now : Rat) : Prop :=
  (l.checkLimits playerId ipAddress now).1 = .ok .allowed

instance (l : APIRateLimiter) (playerId : Int) (ipAddress : String)
    (now : Rat) : Decidable (l.WithinLimits playerId ipAddress now) :=
  inferInstanceAs (Decidable (_ = _))

end APIRateLimiter

-- ==== buckets in memory

structure MemoryBucket where
  tokens : Rat
  lastRefill : Rat

structure InMemoryRateLimiter where
  buckets : Dict String MemoryBucket

namespace InMemoryRateLimiter

def init : InMemoryRateLimiter := ⟨∅⟩

/-- `check_limit`. Without a window it raises; a bucket that was missing
is there by then. -/
def checkLimit (l : InMemoryRateLimiter) (key : String)
    (limit window now : Rat) : Except Raised Bool × InMemoryRateLimiter :=
  let bucket := (l.buckets.get? key).getD { tokens := limit, lastRefill := now }
  if window = 0 then
    (.error (.exception "division by zero"), ⟨l.buckets.set key bucket⟩)
  else
    let timePassed := now - bucket.lastRefill
    let tokensToAdd := timePassed * (limit / window)
    let tokens := min limit (bucket.tokens + tokensToAdd)
    if 1 ≤ tokens then
      (.ok true,
        ⟨l.buckets.set key { tokens := tokens - 1, lastRefill := now }⟩)
    else
      (.ok false, ⟨l.buckets.set key { tokens := tokens, lastRefill := now }⟩)

end InMemoryRateLimiter

/-- A call of `check_limit`, and when it reads the clock. -/
structure LimitCall where
  key : String
  limit : Rat
  window : Rat
  now : Rat

/-- A limiter and the calls that returned `True`. -/
structure MemoryLimiterRun where
  limiter : InMemoryRateLimiter
  passed : List (String × Rat)

namespace MemoryLimiterRun

def check (r : MemoryLimiterRun) (c : LimitCall) : MemoryLimiterRun :=
  let (answer, limiter) :=
    r.limiter.checkLimit c.key c.limit c.window c.now
  { limiter := limiter
    passed := if answer = .ok true then r.passed ++ [(c.key, c.now)]
      else r.passed }

/-- The calls, one after the other, of a new limiter. -/
def run (calls : List LimitCall) : MemoryLimiterRun :=
  calls.foldl check ⟨.init, []⟩

/-- The calls on a key in an interval that returned `True`. -/
def passedIn (r : MemoryLimiterRun) (key : String) (s t : Rat) : Nat :=
  r.passed.countP fun e => e.1 == key && (decide (s ≤ e.2) && decide (e.2 ≤ t))

end MemoryLimiterRun

-- ==== windows in Redis

/-- A sorted set, and when Redis drops it. One without members, which
Redis does not keep, is as good as none. -/
structure SortedSet where
  scores : Dict String Rat
  expiresAt : Rat
  deriving DecidableEq

abbrev Redis := Dict String SortedSet

namespace RedisRateLimiter

def zrange (redis : Redis) (key : String) (now : Rat) : Dict String Rat :=
  match redis.get? key with
  | none => ∅
  | some set => if set.expiresAt ≤ now then ∅ else set.scores

def zremrangebyscore (scores : Dict String Rat) (low high : Rat) :
    Dict String Rat :=
  scores.filter fun _ score => !(decide (low ≤ score) && decide (score ≤ high))

def zrem (redis : Redis) (key member : String) : Redis :=
  redis.modify key fun set => { set with scores := set.scores.erase member }

/-- What is left of the entries when the expired ones are removed. -/
def current (redis : Redis) (key : String) (window : Nat) (now : Rat) :
    Dict String Rat :=
  zremrangebyscore (zrange redis key now) 0 (now - window)

variable (str : Rat → String)

/-- The pipeline of `check_limit`, and whether the count in it is below
the limit. The call's own entry is added after it was counted. -/
def pipeline (redis : Redis) (key : String) (limit window : Nat)
    (now : Rat) : Redis × Bool :=
  let scores := current redis key window now
  let currentCount := scores.size
  let set : SortedSet :=
    { scores := scores.set (str now) now, expiresAt := now + (window + 1) }
  (redis.set key set, decide (currentCount < limit))

/-- `check_limit`, when nothing comes between its commands. -/
def checkLimit (redis : Redis) (key : String) (limit window : Nat)
    (now : Rat) : Redis × Bool :=
  let (redis, passed) := pipeline str redis key limit window now
  if passed then (redis, true) else (zrem redis key (str now), false)

end RedisRateLimiter

structure KeyLimits where
  limit : String → Nat
  window : String → Nat

structure LimiterRun where
  redis : Redis
  /-- Entries of rejected calls that are still to be removed. -/
  removals : List (String × String)
  clock : Rat
  /-- The calls that returned `True`, with their readings. -/
  passed : List (String × Rat)
  deriving DecidableEq

inductive LimiterAct where
  | check (key : String) (now : Rat)
  /-- The `i`-th waiting removal is made. -/
  | remove (i : Nat)

namespace LimiterRun

variable (str : Rat → String) (limits : KeyLimits) (r : LimiterRun)

/-- The pipeline of a call on `key`. -/
def pipeline (key : String) (now : Rat) : Redis × Bool :=
  RedisRateLimiter.pipeline str r.redis key (limits.limit key)
    (limits.window key) now

/-- A call that is let through is noted; one that is rejected has an
entry to remove. -/
def check (key : String) (now : Rat) : LimiterRun :=
  let (redis, passed) := r.pipeline str limits key now
  if passed then
    { r with redis := redis, clock := now, passed := r.passed ++ [(key, now)] }
  else
    { r with
      redis := redis, clock := now
      removals := r.removals ++ [(key, str now)] }

def step : LimiterAct → Option LimiterRun
  | .check key now =>
    if r.clock ≤ now then some (r.check str limits key now) else none
  | .remove i => r.removals[i]?.map fun removal =>
    { r with
      redis := RedisRateLimiter.zrem r.redis removal.1 removal.2
      removals := r.removals.eraseIdx i }

end LimiterRun

/-- Calls of `check_limit`, in any interleaving. -/
def limiterRuns (str : Rat → String) (limits : KeyLimits) :
    Lts LimiterRun LimiterAct where
  init r := r.redis = ∅ ∧ r.removals = [] ∧ r.passed = []
  step := LimiterRun.step str limits

end Freeciv3d.Proxy
