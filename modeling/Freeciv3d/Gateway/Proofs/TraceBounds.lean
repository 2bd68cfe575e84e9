/-
What the default limits let one identifier through in any interval of a
trace of calls.

# One account a bucket, one log

Actions, state queries and the bytes of the other messages each have a
token bucket; the number of the other messages has the log of a minute.
A call touches the bucket of its own kind alone (`accounts_checkType`),
so the four accounts of an interval are kept side by side (`Accounts`)
and every call adds to them what it lets through
(`accounts_checkRateLimits`). The bounds are the induction over the
calls.

# What the buckets add

They are refilled once a second, so an interval may get up to a second
of tokens from before it, less the share of the call before: a third of
an action, nothing for a query, and almost a second's bytes.
-/
import Freeciv3d.Gateway.RateLimiter
import Mathlib.Tactic.NormNum
import Mathlib.Tactic.FieldSimp

namespace Freeciv3d.Gateway

open Lib

-- ==== calls and kinds

/-- A call of `check_rate_limits`. -/
structure Call where
  now : Rat
  message : Message

inductive MessageKind where
  | action
  | stateQuery
  | other
  deriving DecidableEq

namespace MessageKind

def ofType (type : PyVal) : MessageKind :=
  if type.str? = some "action" then .action
  else if type.str? = some "state_query" then .stateQuery
  else .other

def bucket : MessageKind → String
  | action => "action_"
  | stateQuery => "query_"
  | other => "bytes_"

def capacity : MessageKind → Nat
  | action => 80
  | stateQuery => 20
  | other => 2000000

theorem bucket_ne {k k' : MessageKind} (h : k ≠ k') (identifier : String) :
    k.bucket ++ identifier ≠ k'.bucket ++ identifier := by
  intro heq
  have hb : k.bucket = k'.bucket := by
    have hl := congrArg String.toList heq
    rw [String.toList_append, String.toList_append,
      List.append_left_inj] at hl
    exact String.toList_inj.mp hl
  cases k <;> cases k' <;> first | exact h rfl | exact absurd hb (by decide)

end MessageKind

namespace Message

/-- The kind of a message; one without content has no type. -/
def kind (m : Message) : MessageKind :=
  if m.size = 0 then .other
  else match m.parsed with
    | .ok data => .ofType (RateLimiter.messageType data)
    | .error _ => .other

def cost (m : Message) : Nat := if m.kind = .other then m.size else 1

end Message

-- ==== the accounts

/-- The account of one bucket, which is made when it is first asked. -/
structure BucketAccount (s t now : Rat) (capacity : Nat)
    (bucket : Option (TokenBucket Rat)) (taken : Nat) : Prop where
  unused : bucket = none → taken = 0
  size : ∀ b ∈ bucket, b.capacity = capacity
  rate : ∀ b ∈ bucket, b.refillRate = capacity / 60
  period : ∀ b ∈ bucket, b.refillPeriod = 1
  past : ∀ b ∈ bucket, b.lastRefill ≤ now
  metered : ∀ b ∈ bucket, b.Metered s t 1 taken

namespace BucketAccount

variable {s t now later : Rat} {capacity taken n : Nat}
  {bucket : Option (TokenBucket Rat)}

theorem mono (h : BucketAccount s t now capacity bucket taken)
    (hle : now ≤ later) :
    BucketAccount s t later capacity bucket taken :=
  { h with past := fun b hb => (h.past b hb).trans hle }

theorem refilled (h : BucketAccount s t now capacity bucket taken)
    (hle : now ≤ later) (hst : s ≤ t) :
    let b := (bucket.getD (.full capacity (capacity / 60) 1 later)).refill
      later
    b.Refilled s t 1 later taken ∧ b.capacity = capacity
      ∧ b.refillRate = capacity / 60 ∧ b.refillPeriod = 1 := by
  have hcap : (0 : Rat) ≤ capacity := Nat.cast_nonneg capacity
  have hrate : (0 : Rat) ≤ capacity / 60 := div_nonneg hcap (by norm_num)
  cases bucket with
  | none =>
    have htaken := h.unused rfl
    subst htaken
    obtain ⟨hc, hr, hp⟩ :=
      TokenBucket.refill_keeps
        (.full (capacity : Rat) (capacity / 60) 1 later) later
    refine ⟨?_, hc, hr, hp⟩
    have hfull : ((TokenBucket.full (capacity : Rat) (capacity / 60) 1
        later).refill later).Refilled s t 1 later 0 :=
      TokenBucket.refilled_full hcap hrate one_pos hst
    exact_mod_cast hfull
  | some b =>
    obtain ⟨hc, hr, hp⟩ := b.refill_keeps later
    refine ⟨?_, hc.trans (h.size b rfl), hr.trans (h.rate b rfl),
      hp.trans (h.period b rfl)⟩
    exact TokenBucket.refilled_refill (h.metered b rfl)
      ((h.past b rfl).trans hle)

theorem consume (h : BucketAccount s t now capacity bucket taken)
    (hle : now ≤ later) (hst : s ≤ t) (hn : 1 ≤ n) (hroom : n < capacity) :
    let result := (bucket.getD
      (.full capacity (capacity / 60) 1 later)).consume n later
    BucketAccount s t later capacity (some result.1)
      (taken + if result.2 = true ∧ s ≤ later ∧ later ≤ t then n else 0) := by
  obtain ⟨href, hc, hr, hp⟩ := h.refilled hle hst
  have hroom' : (n : Rat) ≤ capacity - 1 := by
    have hcast : ((n + 1 : Nat) : Rat) ≤ capacity := Nat.cast_le.mpr hroom
    push_cast at hcast
    linarith
  have hmetered := TokenBucket.metered_take href (Nat.cast_nonneg taken)
    one_pos (Nat.one_le_cast.mpr hn) (by rw [hc]; exact hroom')
  obtain ⟨hc', hr', hp', hl'⟩ := TokenBucket.take_keeps
    ((bucket.getD (.full capacity (capacity / 60) 1 later)).refill later)
    (n : Rat)
  unfold TokenBucket.consume
  refine ⟨nofun, ?_, ?_, ?_, ?_, ?_⟩ <;> (intro b hb; cases hb)
  · exact hc'.trans hc
  · exact hr'.trans hr
  · exact hp'.trans hp
  · rw [hl']
    exact href.past
  · split at hmetered
    next hin =>
      rw [if_pos hin]
      push_cast
      exact hmetered
    next hout =>
      rw [if_neg hout, Nat.add_zero]
      exact hmetered

theorem le (h : BucketAccount s t now capacity bucket taken)
    (hst : s ≤ t) :
    (taken : Rat) ≤ capacity + capacity / 60 * (t - s)
      + max 0 ((capacity : Rat) / 60 - 1) := by
  cases bucket with
  | none =>
    rw [h.unused rfl]
    have hcap : (0 : Rat) ≤ capacity := Nat.cast_nonneg capacity
    have hmul := mul_nonneg (div_nonneg hcap (by norm_num : (0:Rat) ≤ 60))
      (sub_nonneg.mpr hst)
    have hmax := le_max_left 0 ((capacity : Rat) / 60 - 1)
    push_cast
    linarith
  | some b =>
    have hwithin := (h.metered b rfl).within
    unfold TokenBucket.allowance at hwithin
    rw [h.size b rfl, h.rate b rfl, h.period b rfl, div_one] at hwithin
    linarith

end BucketAccount

/-- The account of the log of a minute, for an interval that is no
longer than that. -/
structure WindowAccount (identifier : String) (s t now : Rat)
    (limiters : List (RateLimitType × SlidingWindowRateLimiter))
    (others : Nat) : Prop where
  shape : ∃ minute second bytes, limiters = [(.requestsPerMinute, minute),
      (.requestsPerSecond, second), (.bytesPerMinute, bytes)]
    ∧ minute.limit = RateLimiter.defaultRequestsPerMinute
    ∧ minute.windowSeconds = 60 ∧ bytes.limit = 2000000
    ∧ (now ≤ s + 60 → (minute.window identifier).Windowed s others)
  within : t ≤ s + 60 → others ≤ RateLimiter.defaultRequestsPerMinute

/-- The accounts of one identifier and one interval: the tokens taken
by each kind, and the number of the other messages. -/
structure Accounts (identifier : String) (s t now : Rat) (r : RateLimiter)
    (taken : MessageKind → Nat) (others : Nat) : Prop where
  buckets : ∀ k, BucketAccount s t now k.capacity
    (r.tokenBuckets.get? (k.bucket ++ identifier)) (taken k)
  window : WindowAccount identifier s t now r.rateLimiters.entries others

namespace WindowAccount

variable {identifier : String} {s t now later : Rat} {others : Nat}
  {limiters : List (RateLimitType × SlidingWindowRateLimiter)}

theorem mono (h : WindowAccount identifier s t now limiters others)
    (hle : now ≤ later) :
    WindowAccount identifier s t later limiters others := by
  obtain ⟨minute, second, bytes, hshape, hlimit, hseconds, hbytes, hwin⟩ :=
    h.shape
  refine ⟨⟨minute, second, bytes, hshape, hlimit, hseconds, hbytes, ?_⟩,
    h.within⟩
  exact fun hlater => hwin (hle.trans hlater)

theorem isAllowed {minute second bytes : SlidingWindowRateLimiter}
    (hlimit : minute.limit = RateLimiter.defaultRequestsPerMinute)
    (hseconds : minute.windowSeconds = 60) (hbytes : bytes.limit = 2000000)
    (hwin : now ≤ s + 60 → (minute.window identifier).Windowed s others)
    (hwithin : t ≤ s + 60 →
      others ≤ RateLimiter.defaultRequestsPerMinute)
    {passed : Prop} [Decidable passed] (hpassed : passed →
      (minute.isAllowed identifier now).2 = true ∧ s ≤ now ∧ now ≤ t) :
    WindowAccount identifier s t now
      [(.requestsPerMinute, (minute.isAllowed identifier now).1),
        (.requestsPerSecond, second), (.bytesPerMinute, bytes)]
      (others + if passed then 1 else 0) := by
  have hwindow : (minute.isAllowed identifier now).1.window identifier
      = ((minute.window identifier).isAllowed now).1 := by
    unfold SlidingWindowRateLimiter.isAllowed SlidingWindowRateLimiter.window
    rw [Dict.get?_set_self, Option.getD_some]
    unfold SlidingWindow.isAllowed
    dsimp only
    split
    · rfl
    · rfl
  -- within a minute the log has it
  have hstep : now ≤ s + 60 →
      ((minute.isAllowed identifier now).1.window identifier).Windowed s
        (others + if passed then 1 else 0) := by
    intro hnow
    have hnow' : now ≤ s + (minute.window identifier).windowSeconds := by
      show now ≤ s + minute.windowSeconds
      rw [hseconds]
      exact hnow
    have hnext := SlidingWindow.windowed_isAllowed (hwin hnow) hnow'
    rw [hwindow]
    by_cases hp : passed
    · obtain ⟨hallowed, hs, -⟩ := hpassed hp
      rw [if_pos hp]
      rw [if_pos ⟨hallowed, hs⟩] at hnext
      exact hnext
    · rw [if_neg hp, Nat.add_zero]
      split at hnext
      next =>
        exact ⟨(Nat.le_succ _).trans hnext.kept,
          (Nat.le_succ _).trans hnext.within⟩
      next => exact hnext
  refine ⟨⟨_, second, bytes, rfl, hlimit, hseconds, hbytes, hstep⟩, ?_⟩
  intro ht
  by_cases hp : passed
  · obtain ⟨-, -, hnow⟩ := hpassed hp
    have hin := (hstep (hnow.trans ht)).within
    rw [hwindow] at hin
    have hlim : ((minute.window identifier).isAllowed now).1.limit
        = minute.limit := SlidingWindow.isAllowed_limit
    omega
  · rw [if_neg hp]
    exact hwithin ht

end WindowAccount

-- ==== one call

theorem validateMessageContent_ok {m : Message} {data : PyVal}
    (h : MessageSizeValidator.validateMessageContent m = .ok data) :
    m.size ≤ MessageSizeValidator.maxMessageSize ∧ m.parsed = .ok data := by
  unfold MessageSizeValidator.validateMessageContent at h
  split at h
  · cases h
  next hsize =>
    split at h
    · cases h
    next parsed hparsed =>
      split at h
      · cases h
        exact ⟨Nat.le_of_not_lt hsize, hparsed⟩
      · cases h

/-- A refusal and a block leave the limits as they are. -/
def RateLimiter.SameLimits (r r' : RateLimiter) : Prop :=
  r'.rateLimiters = r.rateLimiters ∧ r'.tokenBuckets = r.tokenBuckets

theorem RateLimiter.sameLimits_refuse (r : RateLimiter)
    (identifier reason : String) (now : Rat) :
    r.SameLimits (r.refuse identifier now reason).1 := by
  unfold refuse addViolation
  dsimp only
  split
  · exact ⟨rfl, rfl⟩
  · exact ⟨rfl, rfl⟩

theorem RateLimiter.sameLimits_isBlocked (r : RateLimiter)
    (identifier : String) (now : Rat) :
    r.SameLimits (r.isBlocked identifier now).1 := by
  unfold isBlocked
  split
  · exact ⟨rfl, rfl⟩
  · split
    · exact ⟨rfl, rfl⟩
    · exact ⟨rfl, rfl⟩

namespace Accounts

variable {identifier : String} {s t now later : Rat} {r r' : RateLimiter}
  {taken : MessageKind → Nat} {others n : Nat} {k : MessageKind}

theorem of_sameLimits (h : Accounts identifier s t now r taken others)
    (hsame : r.SameLimits r') :
    Accounts identifier s t now r' taken others := by
  refine ⟨?_, ?_⟩
  · rw [hsame.2]
    exact h.buckets
  · rw [hsame.1]
    exact h.window

theorem mono (h : Accounts identifier s t now r taken others)
    (hle : now ≤ later) : Accounts identifier s t later r taken others :=
  ⟨fun k => (h.buckets k).mono hle, h.window.mono hle⟩

/-- What a kind has taken, once a message of kind `k` has taken `n`. -/
def charge (taken : MessageKind → Nat) (k : MessageKind) (n : Nat) :
    MessageKind → Nat :=
  fun k' => taken k' + if k' = k then n else 0

@[simp] theorem charge_zero : charge taken k 0 = taken := by
  funext k'
  unfold charge
  split
  · rfl
  · rfl

theorem consumeBucket (h : Accounts identifier s t now r taken others)
    (hst : s ≤ t) (hn : 1 ≤ n) (hroom : n < k.capacity) :
    let result := r.consumeBucket (k.bucket ++ identifier) k.capacity n now
    Accounts identifier s t now result.1
      (charge taken k
        (if result.2 = true ∧ s ≤ now ∧ now ≤ t then n else 0)) others := by
  have hown := (h.buckets k).consume (le_refl now) hst hn hroom
  refine ⟨?_, h.window⟩
  intro k'
  unfold RateLimiter.consumeBucket charge
  by_cases hk : k' = k
  · subst hk
    rw [Dict.get?_set_self, if_pos rfl]
    exact hown
  · rw [Dict.get?_set_of_ne _ _ (MessageKind.bucket_ne hk identifier),
      if_neg hk, Nat.add_zero]
    exact h.buckets k'

theorem answer {consumed : Bool} (reason : String) (counted : Bool → Nat)
    (h : Accounts identifier s t now r
      (charge taken k (if consumed = true ∧ s ≤ now ∧ now ≤ t then n else 0))
      (counted consumed)) :
    let result : RateLimiter × Except String Unit :=
      if consumed then (r, .ok ()) else r.refuse identifier now reason
    Accounts identifier s t now result.1
      (charge taken k
        (if result.2.isOk = true ∧ s ≤ now ∧ now ≤ t then n else 0))
      (counted result.2.isOk) := by
  cases consumed with
  | false => exact h.of_sameLimits (r.sameLimits_refuse _ _ _)
  | true => exact h

theorem checkLimiters (h : Accounts identifier s t now r taken others)
    (hst : s ≤ t) (hn : n ≤ MessageSizeValidator.maxMessageSize) :
    let result := r.checkLimiters identifier n now r.rateLimiters.entries
    let passed := result.2.isOk = true ∧ s ≤ now ∧ now ≤ t
    Accounts identifier s t now result.1
      (charge taken .other (if passed then n else 0))
      (others + if passed then 1 else 0) := by
  obtain ⟨minute, second, bytes, hshape, hlimit, hseconds, hbytes, hwin⟩ :=
    h.window.shape
  rw [hshape]
  unfold RateLimiter.checkLimiters
  -- the log counts a message only if it passes the bytes too
  have hlog : ∀ passed : Prop, [Decidable passed] → (passed →
        (minute.isAllowed identifier now).2 = true ∧ s ≤ now ∧ now ≤ t) →
      let limiters := r.rateLimiters.set .requestsPerMinute
        (minute.isAllowed identifier now).1
      Accounts identifier s t now { r with rateLimiters := limiters } taken
        (others + if passed then 1 else 0) := by
    intro passed _ hpassed
    refine ⟨h.buckets, ?_⟩
    show WindowAccount identifier s t now (Dict.setEntry _ _
      r.rateLimiters.entries) _
    rw [hshape]
    exact WindowAccount.isAllowed hlimit hseconds hbytes hwin
      h.window.within hpassed
  rcases hmin : minute.isAllowed identifier now with ⟨minute', allowed⟩
  rw [hmin] at hlog
  cases allowed with
  | false =>
    have hkept := (hlog False nofun).of_sameLimits
      (RateLimiter.sameLimits_refuse _ identifier
        "Request rate limit exceeded" now)
    rw [if_neg not_false] at hkept
    simpa [RateLimiter.refuse, Except.isOk, Except.toBool] using hkept
  | true =>
    simp only [RateLimiter.checkLimiters] at hlog ⊢
    generalize ({ r with
      rateLimiters := r.rateLimiters.set .requestsPerMinute minute' } :
        RateLimiter) = logged at hlog ⊢
    by_cases hpos : 0 < n
    · rw [if_pos trivial, if_pos hpos, hbytes]
      have hlt : n < MessageKind.other.capacity :=
        lt_of_le_of_lt hn (by decide)
      have hcounted := hlog
        ((logged.consumeBucket ("bytes_" ++ identifier) 2000000 n now).2
          = true ∧ s ≤ now ∧ now ≤ t) fun hin => ⟨trivial, hin.2⟩
      exact answer "Byte rate limit exceeded"
        (fun ok => others + if ok = true ∧ s ≤ now ∧ now ≤ t then 1 else 0)
        (hcounted.consumeBucket (k := .other) hst hpos hlt)
    · have hzero : n = 0 := by omega
      subst hzero
      have hkept := hlog (s ≤ now ∧ now ≤ t) fun hin => ⟨trivial, hin⟩
      simpa [Except.isOk, Except.toBool] using hkept

theorem checkType (h : Accounts identifier s t now r taken others)
    (hst : s ≤ t) (hn : n ≤ MessageSizeValidator.maxMessageSize)
    (type : PyVal) :
    let result := r.checkType identifier type n now
    let passed := result.2.isOk = true ∧ s ≤ now ∧ now ≤ t
    let kind := MessageKind.ofType type
    let tokens := if kind = .other then n else 1
    Accounts identifier s t now result.1
      (charge taken kind (if passed then tokens else 0))
      (others + if kind = .other ∧ passed then 1 else 0) := by
  unfold RateLimiter.checkType MessageKind.ofType
  by_cases haction : type.str? = some "action"
  · rw [if_pos haction, if_pos haction]
    have hasked := h.consumeBucket (k := .action) hst (le_refl 1) (by decide)
    exact answer "Action rate limit exceeded (80/min)" (fun _ => others)
      hasked
  · rw [if_neg haction, if_neg haction]
    by_cases hquery : type.str? = some "state_query"
    · rw [if_pos hquery, if_pos hquery]
      have hasked := h.consumeBucket (k := .stateQuery) hst (le_refl 1)
        (by decide)
      exact answer "State query rate limit exceeded (20/min)"
        (fun _ => others) hasked
    · rw [if_neg hquery, if_neg hquery]
      have hother := h.checkLimiters hst hn
      simpa using hother

theorem checkRateLimits (h : Accounts identifier s t now r taken others)
    (hst : s ≤ t) (m : Message) :
    let result := r.checkRateLimits identifier m now
    let passed := result.2.isOk = true ∧ s ≤ now ∧ now ≤ t
    Accounts identifier s t now result.1
      (charge taken m.kind (if passed then m.cost else 0))
      (others + if m.kind = .other ∧ passed then 1 else 0) := by
  unfold RateLimiter.checkRateLimits
  have hr := h.of_sameLimits (r.sameLimits_isBlocked identifier now)
  generalize r.isBlocked identifier now = answer at hr ⊢
  obtain ⟨r', blocked⟩ := answer
  cases blocked with
  | true => simpa [Except.isOk, Except.toBool] using hr
  | false =>
    dsimp only
    unfold Message.cost
    by_cases hzero : m.size = 0
    · have hkind : m.kind = .ofType (.str "unknown") := by
        unfold Message.kind
        rw [if_pos hzero]
        decide
      rw [if_pos hzero, hkind]
      have hn : m.size ≤ MessageSizeValidator.maxMessageSize := by
        rw [hzero]
        exact Nat.zero_le _
      exact hr.checkType hst hn (.str "unknown")
    · rw [if_neg hzero]
      rcases hv : MessageSizeValidator.validateMessageContent m with e | data
      · have hrefused := hr.of_sameLimits (r'.sameLimits_refuse identifier
          ("Message validation failed: " ++ e) now)
        simpa [RateLimiter.refuse, Except.isOk, Except.toBool]
          using hrefused
      · obtain ⟨hn, hparsed⟩ := validateMessageContent_ok hv
        have hkind : m.kind = .ofType (RateLimiter.messageType data) := by
          unfold Message.kind
          rw [if_neg hzero, hparsed]
        rw [hkind]
        exact hr.checkType hst hn (RateLimiter.messageType data)

end Accounts

-- ==== a trace

namespace RateLimiter

def accepted (identifier : String) : RateLimiter → List Call → List Call
  | _, [] => []
  | r, c :: rest =>
    let result := r.checkRateLimits identifier c.message c.now
    if result.2.isOk then c :: accepted identifier result.1 rest
    else accepted identifier result.1 rest

end RateLimiter

def callsIn (s t : Rat) (calls : List Call) : List Call :=
  calls.filter fun c => decide (s ≤ c.now ∧ c.now ≤ t)

def callsOf (k : MessageKind) (calls : List Call) : List Call :=
  calls.filter fun c => decide (c.message.kind = k)

def totalSize (calls : List Call) : Nat :=
  (calls.map fun c => c.message.size).sum

def totalCost (calls : List Call) : Nat :=
  (calls.map fun c => c.message.cost).sum

theorem callsIn_cons (s t : Rat) (c : Call) (calls : List Call) :
    callsIn s t (c :: calls) = if s ≤ c.now ∧ c.now ≤ t then
      c :: callsIn s t calls else callsIn s t calls := by
  unfold callsIn
  rw [List.filter_cons]
  simp only [decide_eq_true_eq]

theorem callsOf_cons (k : MessageKind) (c : Call) (calls : List Call) :
    callsOf k (c :: calls) = if c.message.kind = k then
      c :: callsOf k calls else callsOf k calls := by
  unfold callsOf
  rw [List.filter_cons]
  simp only [decide_eq_true_eq]

theorem totalCost_callsOf_cons (k : MessageKind) (c : Call)
    (calls : List Call) :
    totalCost (callsOf k (c :: calls))
      = (if k = c.message.kind then c.message.cost else 0)
        + totalCost (callsOf k calls) := by
  rw [callsOf_cons]
  by_cases hk : c.message.kind = k
  · rw [if_pos hk, if_pos hk.symm]
    exact List.sum_cons
  · rw [if_neg hk, if_neg (Ne.symm hk), Nat.zero_add]

theorem totalCost_callsOf (k : MessageKind) (calls : List Call) :
    totalCost (callsOf k calls) = if k = .other then
      totalSize (callsOf k calls) else (callsOf k calls).length := by
  induction calls with
  | nil => cases k <;> rfl
  | cons c rest ih =>
    rw [totalCost_callsOf_cons, callsOf_cons, ih]
    by_cases hk : c.message.kind = k
    · rw [if_pos hk.symm, if_pos hk]
      unfold Message.cost
      rw [hk]
      by_cases hother : k = .other
      · rw [if_pos hother, if_pos hother, if_pos hother]
        rfl
      · rw [if_neg hother, if_neg hother, if_neg hother]
        exact Nat.add_comm 1 _
    · rw [if_neg (Ne.symm hk), if_neg hk, Nat.zero_add]

theorem callsIn_accepted_cons (identifier : String) (s t : Rat)
    (r : RateLimiter) (c : Call) (rest : List Call) :
    let result := r.checkRateLimits identifier c.message c.now
    callsIn s t (r.accepted identifier (c :: rest))
      = if result.2.isOk = true ∧ s ≤ c.now ∧ c.now ≤ t then
          c :: callsIn s t (result.1.accepted identifier rest)
        else callsIn s t (result.1.accepted identifier rest) := by
  dsimp only
  rw [RateLimiter.accepted]
  by_cases hok : (r.checkRateLimits identifier c.message c.now).2.isOk = true
  · simp only [hok, if_true, true_and]
    exact callsIn_cons s t c _
  · rw [if_neg hok, if_neg (fun hand => hok hand.1)]

namespace Accounts

variable {identifier : String} {s t now : Rat} {r : RateLimiter}
  {taken : MessageKind → Nat} {others : Nat}

theorem accepted (hst : s ≤ t) (calls : List Call) :
    ∀ {r now taken others}, Accounts identifier s t now r taken others →
      (∀ c ∈ calls, now ≤ c.now) →
      calls.Pairwise (fun c d => c.now ≤ d.now) →
      ∃ r' now',
        let inside := callsIn s t (r.accepted identifier calls)
        Accounts identifier s t now' r'
          (fun k => taken k + totalCost (callsOf k inside))
          (others + (callsOf .other inside).length) := by
  induction calls with
  | nil =>
    intro r now taken others h _ _
    exact ⟨r, now, h⟩
  | cons c rest ih =>
    intro r now taken others h hfrom hsorted
    obtain ⟨hhead, hrest⟩ := List.pairwise_cons.mp hsorted
    have hstep := (h.mono (hfrom c List.mem_cons_self)).checkRateLimits hst
      c.message
    obtain ⟨r', now', hrun⟩ := ih hstep hhead hrest
    refine ⟨r', now', ?_⟩
    dsimp only at hrun ⊢
    rw [callsIn_accepted_cons]
    by_cases hpassed :
        (r.checkRateLimits identifier c.message c.now).2.isOk = true
          ∧ s ≤ c.now ∧ c.now ≤ t
    · rw [if_pos hpassed] at hrun ⊢
      have hcost : (fun k => taken k + totalCost (callsOf k
            (c :: callsIn s t ((r.checkRateLimits identifier c.message
              c.now).1.accepted identifier rest))))
          = fun k => charge taken c.message.kind c.message.cost k
            + totalCost (callsOf k (callsIn s t ((r.checkRateLimits
              identifier c.message c.now).1.accepted identifier rest))) := by
        funext k
        rw [totalCost_callsOf_cons]
        unfold charge
        omega
      rw [hcost, callsOf_cons]
      by_cases hother : c.message.kind = .other
      · rw [if_pos ⟨hother, hpassed⟩] at hrun
        rw [if_pos hother, List.length_cons, Nat.add_comm _ 1,
          ← Nat.add_assoc]
        exact hrun
      · rw [if_neg (fun hand => hother hand.1)] at hrun
        rw [if_neg hother]
        exact hrun
    · rw [if_neg hpassed, if_neg (fun hand => hpassed hand.2),
        charge_zero] at hrun
      rw [if_neg hpassed]
      exact hrun

end Accounts

theorem accounts_default (identifier : String) (s t now : Rat) :
    Accounts identifier s t now .default (fun _ => 0) 0 := by
  refine ⟨?_, ?_, fun _ => Nat.zero_le _⟩
  · intro k
    exact ⟨fun _ => rfl, nofun, nofun, nofun, nofun, nofun⟩
  · exact ⟨_, _, _, rfl, rfl, rfl, rfl,
      fun _ => ⟨Nat.zero_le _, Nat.zero_le _⟩⟩

-- ==== the bounds

/-- Under the default limits an interval gets its actions, up to a third
of one more, its queries, its other messages when it is a minute or
less, and their bytes, up to those of a second more. -/
theorem accepted_within (identifier : String) (calls : List Call)
    (hsorted : calls.Pairwise fun c d => c.now ≤ d.now) (s t : Rat)
    (hst : s ≤ t) :
    let inside := callsIn s t (RateLimiter.default.accepted identifier calls)
    ((callsOf .action inside).length : Rat)
        ≤ 80 + 80 * (t - s) / 60 + 1 / 3
      ∧ ((callsOf .stateQuery inside).length : Rat)
        ≤ 20 + 20 * (t - s) / 60
      ∧ (t - s ≤ 60 → (callsOf .other inside).length
        ≤ RateLimiter.defaultRequestsPerMinute)
      ∧ (totalSize (callsOf .other inside) : Rat)
        ≤ 2000000 * (1 + (t - s) / 60) + (2000000 / 60 - 1) := by
  obtain ⟨now, hnow⟩ : ∃ now, ∀ c ∈ calls, now ≤ c.now := by
    cases calls with
    | nil => exact ⟨0, nofun⟩
    | cons c rest =>
      refine ⟨c.now, ?_⟩
      intro d hd
      rcases List.mem_cons.mp hd with rfl | hd
      · exact le_refl _
      · exact (List.pairwise_cons.mp hsorted).1 d hd
  obtain ⟨r, last, hacc⟩ := Accounts.accepted hst calls
    (accounts_default identifier s t now) hnow hsorted
  have hbound := fun k => (hacc.buckets k).le hst
  simp only [totalCost_callsOf, Nat.zero_add] at hbound
  refine ⟨?_, ?_, ?_, ?_⟩
  · have haction := hbound .action
    rw [if_neg (by decide)] at haction
    norm_num [MessageKind.capacity] at haction
    linarith
  · have hquery := hbound .stateQuery
    rw [if_neg (by decide)] at hquery
    norm_num [MessageKind.capacity] at hquery
    linarith
  · intro hminute
    have hwithin := hacc.window.within (by linarith)
    rwa [Nat.zero_add] at hwithin
  · have hother := hbound .other
    rw [if_pos rfl] at hother
    norm_num [MessageKind.capacity] at hother
    linarith

def typedMessage (type : String) (size : Nat) : Message where
  size := size
  parsed := .ok (.dict [(.str "type", .str type)])

def burst (count : Nat) (type : String) (size : Nat) (now : Rat) :
    List Call :=
  List.replicate count ⟨now, typedMessage type size⟩

/-- Two actions, a second apart. -/
theorem accepted_within_second :
    let calls := burst 1 "action" 50 0 ++ burst 1 "action" 50 1
    let inside := callsIn 0 1 (RateLimiter.default.accepted "agent" calls)
    (calls.Pairwise fun c d => c.now ≤ d.now)
      ∧ ((callsOf .action inside).length : Rat)
        ≤ 80 + 80 * (1 - 0) / 60 + 1 / 3
      ∧ ((callsOf .stateQuery inside).length : Rat)
        ≤ 20 + 20 * (1 - 0) / 60
      ∧ ((1 : Rat) - 0 ≤ 60 → (callsOf .other inside).length
        ≤ RateLimiter.defaultRequestsPerMinute)
      ∧ (totalSize (callsOf .other inside) : Rat)
        ≤ 2000000 * (1 + (1 - 0) / 60) + (2000000 / 60 - 1) :=
  have hsorted : (burst 1 "action" 50 0 ++ burst 1 "action" 50 1).Pairwise
      fun c d => c.now ≤ d.now := by decide +kernel
  ⟨hsorted, accepted_within "agent" _ hsorted 0 1 (by norm_num)⟩

/-- The limits as they are configured, on the calls of an interval. -/
structure ConfiguredLimits (s t : Rat) (inside : List Call) : Prop where
  actions : ((callsOf .action inside).length : Rat)
    ≤ 80 + 80 * (t - s) / 60
  queries : ((callsOf .stateQuery inside).length : Rat)
    ≤ 20 + 20 * (t - s) / 60
  minute : t - s ≤ 60 →
    inside.length ≤ RateLimiter.defaultRequestsPerMinute
  second : t - s ≤ 1 → inside.length ≤ RateLimiter.defaultBurstSize
  bytes : (totalSize inside : Rat) ≤ 2000000 * (1 + (t - s) / 60)

/-- The tokens of the second before are taken in half a second. -/
def lateActions : List Call :=
  burst 1 "action" 50 0 ++ burst 79 "action" 50 (99 / 100)
    ++ burst 2 "action" 50 (3 / 2)

def threeKinds : List Call :=
  burst 80 "action" 50 0 ++ burst 20 "state_query" 50 0
    ++ burst 101 "chat" 50 0

def largeActions : List Call := burst 3 "action" 900000 0

/-- The bytes of the second before are taken in a hundredth of one. -/
def lateBytes : List Call :=
  burst 1 "chat" 1 0 ++ burst 1 "chat" 1000000 (99 / 100)
    ++ burst 1 "chat" 999999 (99 / 100) ++ burst 1 "chat" 33333 1

theorem configured_limits_exceeded :
    ¬ (∀ identifier (calls : List Call) (s t : Rat),
        (calls.Pairwise fun c d => c.now ≤ d.now) → s ≤ t →
        ConfiguredLimits s t (callsIn s t
          (RateLimiter.default.accepted identifier calls)))
      ∧ (callsOf .action (callsIn (99 / 100) (3 / 2)
        (RateLimiter.default.accepted "agent" lateActions))).length = 81
      ∧ (callsIn 0 0
        (RateLimiter.default.accepted "agent" threeKinds)).length = 201
      ∧ totalSize (callsIn 0 0
        (RateLimiter.default.accepted "agent" largeActions)) = 2700000
      ∧ totalSize (callsOf .other (callsIn (99 / 100) 1
        (RateLimiter.default.accepted "agent" lateBytes))) = 2033332 := by
  have hactions : (callsOf .action (callsIn (99 / 100) (3 / 2)
      (RateLimiter.default.accepted "agent" lateActions))).length = 81 := by
    decide +kernel
  refine ⟨?_, hactions, by decide +kernel, by decide +kernel,
    by decide +kernel⟩
  intro h
  have hsorted : lateActions.Pairwise fun c d => c.now ≤ d.now := by
    decide +kernel
  have hlimit := (h "agent" lateActions (99 / 100) (3 / 2) hsorted
    (by norm_num)).actions
  rw [hactions] at hlimit
  norm_num at hlimit

end Freeciv3d.Gateway
