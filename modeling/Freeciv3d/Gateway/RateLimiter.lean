/-
`ComprehensiveRateLimiter` of the LLM gateway: the limits on messages,
by their type, and the count of connections an agent has.

# One call, one time

The locks are never held across an await, so a call runs without a
break; the readings of the clock in one call are one time here. Times
are exact.

# What a message is

The limiter sees the size of a message and what `json.loads` makes of
it; the parser itself is not modelled.

# What is left out

The statistics, and what only reports on an identifier.

# Connections

The life of an agent's WebSocket, as far as the count of connections
goes: `handle_connection` acquires in `track_connection` and releases in
its `finally`.

# The phases

A handler whose origin is not allowed, or whose `accept` fails, never
gets to the count. Every other one is counted or refused, and its
`finally` ends with `release_connection` whichever it was; whether
`add_connection` or a message raised on the way makes no difference.
A `finally` that an exception ends early (a failing `close`) never
releases: such a handler stays where it is.
-/
import Freeciv3d.Lib.Lts
import Freeciv3d.Lib.PyVal
import Freeciv3d.Lib.RateLimits

namespace Freeciv3d.Gateway

open Lib

inductive RateLimitType where
  | requestsPerMinute
  | requestsPerSecond
  | bytesPerMinute
  | connectionsPerAgent
  | burstProtection
  deriving DecidableEq

/-- `SlidingWindowRateLimiter`: one log an identifier. -/
structure SlidingWindowRateLimiter where
  limit : Nat
  windowSeconds : Rat
  requests : Dict String (List Rat)

namespace SlidingWindowRateLimiter

def window (l : SlidingWindowRateLimiter) (identifier : String) :
    SlidingWindow Rat where
  limit := l.limit
  windowSeconds := l.windowSeconds
  requests := (l.requests.get? identifier).getD []

def isAllowed (l : SlidingWindowRateLimiter) (identifier : String)
    (now : Rat) : SlidingWindowRateLimiter × Bool :=
  let (w, allowed) := (l.window identifier).isAllowed now
  ({ l with requests := l.requests.set identifier w.requests }, allowed)

end SlidingWindowRateLimiter

structure Message where
  /-- `len(data.encode('utf-8'))`. -/
  size : Nat
  /-- `json.loads(data)`, or the text of its error. -/
  parsed : Except String PyVal

namespace MessageSizeValidator

def maxMessageSize : Nat := 1000000

def maxJsonDepth : Nat := 10

mutual

/-- `validate_json_depth`; `left` is what may still be nested. -/
def validateJsonDepth (left : Nat) : PyVal → Bool
  | .dict entries =>
    match left with
    | 0 => entries.isEmpty
    | left + 1 => validateEntries left entries
  | .list items =>
    match left with
    | 0 => items.isEmpty
    | left + 1 => validateItems left items
  | _ => true

def validateEntries (left : Nat) : List (PyKey × PyVal) → Bool
  | [] => true
  | (_, v) :: rest => validateJsonDepth left v && validateEntries left rest

def validateItems (left : Nat) : List PyVal → Bool
  | [] => true
  | v :: rest => validateJsonDepth left v && validateItems left rest

end

def validateMessageContent (m : Message) : Except String PyVal :=
  if maxMessageSize < m.size then
    .error ("Message size exceeds limit (" ++ toString maxMessageSize
      ++ " bytes)")
  else match m.parsed with
    | .error e => .error ("Invalid JSON format: " ++ e)
    | .ok data =>
      if validateJsonDepth maxJsonDepth data then .ok data
      else .error ("JSON nesting depth exceeds limit ("
        ++ toString maxJsonDepth ++ ")")

end MessageSizeValidator

structure RateLimiter where
  rateLimiters : Dict RateLimitType SlidingWindowRateLimiter
  tokenBuckets : Dict String (TokenBucket Rat)
  blockedIdentifiers : Dict String Rat
  activeConnections : Dict String Nat
  connectionTimestamps : Dict String (List Rat)
  /-- How many violations, and when the last one was. -/
  gracePeriodViolations : Dict String (Nat × Rat)
  gracePeriodSeconds : Rat
  maxViolationsBeforeBlock : Nat

namespace RateLimiter

def addRateLimit (r : RateLimiter) (limitType : RateLimitType)
    (limit : Nat) (windowSeconds : Rat) : RateLimiter :=
  { r with rateLimiters :=
      r.rateLimiters.set limitType ⟨limit, windowSeconds, ∅⟩ }

def defaultRequestsPerMinute : Nat := 200

def defaultBurstSize : Nat := 40

/-- The limiter after `setup_default_rate_limits`. -/
def default : RateLimiter :=
  let r : RateLimiter :=
    { rateLimiters := ∅, tokenBuckets := ∅, blockedIdentifiers := ∅
      activeConnections := ∅, connectionTimestamps := ∅
      gracePeriodViolations := ∅, gracePeriodSeconds := 30
      maxViolationsBeforeBlock := 3 }
  ((r.addRateLimit .requestsPerMinute defaultRequestsPerMinute 60
    |>.addRateLimit .requestsPerSecond defaultBurstSize 1)
    |>.addRateLimit .bytesPerMinute 2000000 60)

-- ==== the violations

/-- `_is_blocked`: a block that has expired is dropped. -/
def isBlocked (r : RateLimiter) (identifier : String) (now : Rat) :
    RateLimiter × Bool :=
  match r.blockedIdentifiers.get? identifier with
  | none => (r, false)
  | some blockUntil =>
    if now < blockUntil then (r, true)
    else ({ r with blockedIdentifiers :=
      r.blockedIdentifiers.erase identifier }, false)

def violationCount (r : RateLimiter) (identifier : String) (now : Rat) :
    Nat :=
  match r.gracePeriodViolations.get? identifier with
  | some (count, last) =>
    if now - last ≤ r.gracePeriodSeconds then count + 1 else 1
  | none => 1

/-- `_add_violation`, with the block duration of its default. -/
def addViolation (r : RateLimiter) (identifier : String) (now : Rat) :
    RateLimiter :=
  let count := r.violationCount identifier now
  if r.maxViolationsBeforeBlock ≤ count then
    { r with
      blockedIdentifiers := r.blockedIdentifiers.set identifier (now + 60)
      gracePeriodViolations := r.gracePeriodViolations.erase identifier }
  else
    { r with gracePeriodViolations :=
        r.gracePeriodViolations.set identifier (count, now) }

def refuse (r : RateLimiter) (identifier : String) (now : Rat)
    (reason : String) : RateLimiter × Except String Unit :=
  (r.addViolation identifier now, .error reason)

-- ==== the limits

/-- `consume` on the bucket of a key, which is made when it is first
asked. -/
def consumeBucket (r : RateLimiter) (key : String) (capacity : Nat)
    (n : Nat) (now : Rat) : RateLimiter × Bool :=
  let bucket := (r.tokenBuckets.get? key).getD
    (.full capacity (capacity / 60) 1 now)
  let (bucket, consumed) := bucket.consume n now
  ({ r with tokenBuckets := r.tokenBuckets.set key bucket }, consumed)

/-- The loop over `rate_limiters` for the messages without a bucket of
their own. -/
def checkLimiters (r : RateLimiter) (identifier : String) (size : Nat)
    (now : Rat) :
    List (RateLimitType × SlidingWindowRateLimiter) →
      RateLimiter × Except String Unit
  | [] => (r, .ok ())
  | (.requestsPerMinute, limiter) :: rest =>
    let (limiter, allowed) := limiter.isAllowed identifier now
    let r := { r with rateLimiters :=
      r.rateLimiters.set .requestsPerMinute limiter }
    if allowed then checkLimiters r identifier size now rest
    else r.refuse identifier now "Request rate limit exceeded"
  | (.bytesPerMinute, limiter) :: rest =>
    if 0 < size then
      let (r, consumed) :=
        r.consumeBucket ("bytes_" ++ identifier) limiter.limit size now
      if consumed then checkLimiters r identifier size now rest
      else r.refuse identifier now "Byte rate limit exceeded"
    else checkLimiters r identifier size now rest
  | (_, _) :: rest => checkLimiters r identifier size now rest

/-- The type of a message: 'unknown' without content, and for anything
but a dict. -/
def messageType : PyVal → PyVal
  | .dict entries => (PyVal.field? entries "type").getD (.str "unknown")
  | _ => .str "unknown"

def checkType (r : RateLimiter) (identifier : String) (type : PyVal)
    (size : Nat) (now : Rat) : RateLimiter × Except String Unit :=
  if type.str? = some "action" then
    let (r, consumed) := r.consumeBucket ("action_" ++ identifier) 80 1 now
    if consumed then (r, .ok ())
    else r.refuse identifier now "Action rate limit exceeded (80/min)"
  else if type.str? = some "state_query" then
    let (r, consumed) := r.consumeBucket ("query_" ++ identifier) 20 1 now
    if consumed then (r, .ok ())
    else r.refuse identifier now "State query rate limit exceeded (20/min)"
  else r.checkLimiters identifier size now r.rateLimiters.entries

/-- `check_rate_limits`, on a message as the handler passes it: its
content and its size. An empty content is not validated. -/
def checkRateLimits (r : RateLimiter) (identifier : String) (m : Message)
    (now : Rat) : RateLimiter × Except String Unit :=
  match r.isBlocked identifier now with
  | (r, true) =>
    (r, .error "Temporarily blocked due to rate limit violation")
  | (r, false) =>
    if m.size = 0 then
      r.checkType identifier (.str "unknown") m.size now
    else match MessageSizeValidator.validateMessageContent m with
      | .error e =>
        r.refuse identifier now ("Message validation failed: " ++ e)
      | .ok data => r.checkType identifier (messageType data) m.size now

-- ==== connections

def maxConnectionAttemptsPerMinute : Nat := 10

def connectionAttemptBlockDuration : Rat := 300

/-- The configured maximum: `MAX_CONNECTIONS_PER_AGENT`, unless a limit
is set. -/
def maxConnections (r : RateLimiter) : Nat :=
  match r.rateLimiters.get? .connectionsPerAgent with
  | some l => l.limit
  | none => 5

/-- `active_connections[identifier]`. -/
def active (r : RateLimiter) (identifier : String) : Nat :=
  (r.activeConnections.get? identifier).getD 0

/-- `track_connection`, for an identifier that is not blocked. -/
def trackUnblocked (r : RateLimiter) (identifier : String) (now : Rat) :
    RateLimiter × Bool :=
  let attempts := (r.connectionTimestamps.get? identifier).getD []
  let recent := attempts.filter fun t => decide (now - t < 60)
  if maxConnectionAttemptsPerMinute ≤ recent.length then
    let blockUntil := now + connectionAttemptBlockDuration
    ({ r with blockedIdentifiers :=
        r.blockedIdentifiers.set identifier blockUntil }, false)
  else if r.maxConnections ≤ r.active identifier then (r, false)
  else
    ({ r with
      activeConnections :=
        r.activeConnections.set identifier (r.active identifier + 1)
      connectionTimestamps :=
        r.connectionTimestamps.set identifier (attempts ++ [now]) }, true)

def trackConnection (r : RateLimiter) (identifier : String) (now : Rat) :
    RateLimiter × Bool :=
  match r.isBlocked identifier now with
  | (r, true) => (r, false)
  | (r, false) => r.trackUnblocked identifier now

def releaseConnection (r : RateLimiter) (identifier : String) :
    RateLimiter :=
  if 0 < r.active identifier then
    { r with activeConnections :=
        r.activeConnections.set identifier (r.active identifier - 1) }
  else r

end RateLimiter

-- ==== the life of a connection

/-- What `track_connection` told a handler. -/
inductive HandlerPhase where
  | tracked
  | refused
  | released
  deriving DecidableEq

structure AgentHandler where
  agentId : String
  phase : HandlerPhase

/-- The limiter and the handlers, in the order they came. -/
structure AgentLifecycles where
  limiter : RateLimiter
  handlers : List AgentHandler

inductive LifecycleEvent where
  /-- A handler gets to `track_connection`. -/
  | connect (agentId : String) (now : Rat)
  /-- A handler gets to `check_rate_limits`. -/
  | message (agentId : String) (m : Message) (now : Rat)
  /-- A handler gets to `release_connection`. -/
  | finish (i : Nat)

namespace AgentLifecycles

def step (w : AgentLifecycles) : LifecycleEvent → Option AgentLifecycles
  | .connect agentId now =>
    let r := w.limiter.trackConnection agentId now
    let phase := if r.2 then HandlerPhase.tracked else .refused
    some ⟨r.1, w.handlers ++ [⟨agentId, phase⟩]⟩
  | .message agentId m now =>
    some { w with limiter := (w.limiter.checkRateLimits agentId m now).1 }
  | .finish i =>
    (w.handlers[i]?.filter fun h => h.phase != .released).map fun h =>
      { limiter := w.limiter.releaseConnection h.agentId
        handlers := w.handlers.set i { h with phase := .released } }

/-- The runs of the gateway with a given limiter, before any agent came. -/
def runs (limiter : RateLimiter) : Lts AgentLifecycles LifecycleEvent where
  init w := w = ⟨limiter, []⟩
  step := step

/-- The handlers of an agent that were tracked and have not released. -/
def holding (w : AgentLifecycles) (agentId : String) : Nat :=
  w.handlers.countP fun h => h.agentId = agentId ∧ h.phase = .tracked

/-- The count of every agent is the number of its handlers, and at most
the maximum. -/
def Accounted (w : AgentLifecycles) : Prop :=
  ∀ agentId, w.limiter.active agentId = w.holding agentId
    ∧ w.limiter.active agentId ≤ w.limiter.maxConnections

/-- A refused handler ends only while its agent has nothing to lose. -/
def FindsNothing (w : AgentLifecycles) : LifecycleEvent → Prop
  | .finish i => ∀ h ∈ w.handlers[i]?, h.phase = .refused →
      w.limiter.active h.agentId = 0
  | _ => True

end AgentLifecycles

end Freeciv3d.Gateway
