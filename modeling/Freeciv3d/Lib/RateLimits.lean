/-
Two rate limiters and what they let through in any interval: a token
bucket that is refilled in steps, and a log of the times in a sliding
window.

# The potential

A bucket whose refill waits for a full period may add, just after the
start of an interval, tokens for almost a period before it. But the
call that refilled it last also took its share, `least` tokens or more.
So an interval may get the refill of one period beyond its own, less
`least`, and nothing when that is negative (`allowance`, `Metered`).
The log needs no such allowance: a request that was let through is
still in it when the interval ends (`Windowed`).

Both invariants watch one interval `[s, t]` and are kept by every call;
a trace bound is the induction over its calls.
-/
import Mathlib.Algebra.Order.Field.Basic
import Mathlib.Tactic.Linarith
import Mathlib.Tactic.Ring

namespace Lib

variable {α : Type} [Field α] [LinearOrder α]

-- ==== a token bucket

/-- A token bucket; `refillRate` tokens come in a period. -/
structure TokenBucket (α : Type) where
  capacity : α
  refillRate : α
  refillPeriod : α
  tokens : α
  lastRefill : α

namespace TokenBucket

def full (capacity refillRate refillPeriod now : α) : TokenBucket α where
  capacity := capacity
  refillRate := refillRate
  refillPeriod := refillPeriod
  tokens := capacity
  lastRefill := now

/-- Tokens for the time since the last refill, once a period is over. -/
def refill (b : TokenBucket α) (now : α) : TokenBucket α :=
  let elapsed := now - b.lastRefill
  if b.refillPeriod ≤ elapsed then
    { b with
      tokens := min b.capacity
        (b.tokens + elapsed / b.refillPeriod * b.refillRate)
      lastRefill := now }
  else b

/-- Take tokens, if there are enough. -/
def take (b : TokenBucket α) (n : α) : TokenBucket α × Bool :=
  if n ≤ b.tokens then ({ b with tokens := b.tokens - n }, true)
  else (b, false)

/-- A call. -/
def consume (b : TokenBucket α) (n now : α) : TokenBucket α × Bool :=
  (b.refill now).take n

/-- Tokens come at a rate, a period is some time, and there is room. -/
structure Regular (b : TokenBucket α) : Prop where
  rate : 0 ≤ b.refillRate
  period : 0 < b.refillPeriod
  tokens_nonneg : 0 ≤ b.tokens
  tokens_le : b.tokens ≤ b.capacity

/-- What comes in an interval, and what the period before it adds to
calls of `least` tokens or more. -/
def allowance (b : TokenBucket α) (least d : α) : α :=
  b.refillRate / b.refillPeriod * d + max 0 (b.refillRate - least)

/-- The account of `taken` tokens taken in `[s, t]`. -/
structure Account (s t least : α) (b : TokenBucket α) (taken : α) :
    Prop where
  regular : b.Regular
  started : 0 < taken → s < b.lastRefill + b.refillPeriod
  spent : 0 < taken →
    taken + b.tokens ≤ b.capacity + b.allowance least (b.lastRefill - s)
  within : taken ≤ b.capacity + b.allowance least (t - s)

/-- The account between the calls: the last one has taken its share. -/
structure Metered (s t least : α) (b : TokenBucket α) (taken : α) : Prop
    extends Account s t least b taken where
  low : b.tokens ≤ b.capacity - least

/-- The account in a call, after the refill. -/
structure Refilled (s t least now : α) (b : TokenBucket α) (taken : α) :
    Prop extends Account s t least b taken where
  recent : now < b.lastRefill + b.refillPeriod
  past : b.lastRefill ≤ now
  low : b.lastRefill = now ∨ b.tokens ≤ b.capacity - least

variable {b : TokenBucket α} {s t least taken n now : α}

theorem refill_of_le (h : b.refillPeriod ≤ now - b.lastRefill) :
    b.refill now = { b with
      tokens := min b.capacity
        (b.tokens + (now - b.lastRefill) / b.refillPeriod * b.refillRate)
      lastRefill := now } := if_pos h

theorem refill_of_lt (h : now - b.lastRefill < b.refillPeriod) :
    b.refill now = b := if_neg (not_le_of_gt h)

/-- A refill changes the tokens and the time alone. -/
theorem refill_keeps (b : TokenBucket α) (now : α) :
    (b.refill now).capacity = b.capacity
      ∧ (b.refill now).refillRate = b.refillRate
      ∧ (b.refill now).refillPeriod = b.refillPeriod := by
  unfold refill
  dsimp only
  split
  · exact ⟨rfl, rfl, rfl⟩
  · exact ⟨rfl, rfl, rfl⟩

/-- Taking changes the tokens alone. -/
theorem take_keeps (b : TokenBucket α) (n : α) :
    (b.take n).1.capacity = b.capacity
      ∧ (b.take n).1.refillRate = b.refillRate
      ∧ (b.take n).1.refillPeriod = b.refillPeriod
      ∧ (b.take n).1.lastRefill = b.lastRefill := by
  unfold take
  split
  · exact ⟨rfl, rfl, rfl, rfl⟩
  · exact ⟨rfl, rfl, rfl, rfl⟩

variable [IsStrictOrderedRing α]

theorem allowance_mono (h : b.Regular) {d e : α} (hde : d ≤ e) :
    b.allowance least d ≤ b.allowance least e := by
  unfold allowance
  have hrate := div_nonneg h.rate h.period.le
  have hmul := mul_le_mul_of_nonneg_left hde hrate
  linarith

theorem allowance_nonneg (h : b.Regular) {d : α} (hd : 0 ≤ d) :
    0 ≤ b.allowance least d := by
  unfold allowance
  have hrate := div_nonneg h.rate h.period.le
  have hmax := le_max_left 0 (b.refillRate - least)
  have hmul := mul_nonneg hrate hd
  linarith

/-- Up to a period before the interval the allowance makes up for what
the last call took. -/
theorem neg_least_le_allowance (h : b.Regular) {d : α}
    (hd : -b.refillPeriod ≤ d) : -least ≤ b.allowance least d := by
  unfold allowance
  have hrate := div_nonneg h.rate h.period.le
  have hmax := le_max_right 0 (b.refillRate - least)
  have hmul := mul_le_mul_of_nonneg_left hd hrate
  have hperiod : b.refillRate / b.refillPeriod * -b.refillPeriod
      = -b.refillRate := by
    rw [mul_neg, div_mul_cancel₀ _ (ne_of_gt h.period)]
  linarith

theorem regular_refill (now : α) (h : b.Regular) :
    (b.refill now).Regular := by
  by_cases hp : b.refillPeriod ≤ now - b.lastRefill
  · rw [refill_of_le hp]
    have hadd : 0 ≤ (now - b.lastRefill) / b.refillPeriod * b.refillRate :=
      mul_nonneg (div_nonneg (h.period.le.trans hp) h.period.le) h.rate
    have hcap : 0 ≤ b.capacity := h.tokens_nonneg.trans h.tokens_le
    refine ⟨h.rate, h.period, le_min hcap ?_, min_le_left _ _⟩
    have htokens := h.tokens_nonneg
    linarith
  · rw [refill_of_lt (lt_of_not_ge hp)]
    exact h

/-- A refill adds no more than its time is worth. -/
theorem refilled_refill (h : b.Metered s t least taken)
    (hlast : b.lastRefill ≤ now) :
    (b.refill now).Refilled s t least now taken := by
  have hreg := regular_refill now h.regular
  have hperiod := h.regular.period
  by_cases hp : b.refillPeriod ≤ now - b.lastRefill
  · rw [refill_of_le hp] at hreg ⊢
    refine ⟨⟨hreg, ?_, ?_, h.within⟩, ?_, le_refl now, Or.inl rfl⟩
    · intro hpos
      have hstarted := h.started hpos
      show s < now + b.refillPeriod
      linarith
    · intro hpos
      have hspent := h.spent hpos
      have hmin := min_le_right b.capacity (b.tokens
        + (now - b.lastRefill) / b.refillPeriod * b.refillRate)
      -- the allowance grows by what the refill adds
      have hgrow : b.allowance least (now - s)
          = b.allowance least (b.lastRefill - s)
            + (now - b.lastRefill) / b.refillPeriod * b.refillRate := by
        unfold allowance
        ring
      show taken + min _ _ ≤ b.capacity + b.allowance least (now - s)
      linarith
    · show now < now + b.refillPeriod
      linarith
  · have hlt := lt_of_not_ge hp
    rw [refill_of_lt hlt]
    refine ⟨h.toAccount, ?_, hlast, Or.inr h.low⟩
    linarith

/-- A bucket that is made for a call is full. -/
theorem refilled_full {capacity refillRate refillPeriod : α}
    (hcap : 0 ≤ capacity) (hrate : 0 ≤ refillRate)
    (hperiod : 0 < refillPeriod) (hst : s ≤ t) :
    ((full capacity refillRate refillPeriod now).refill now).Refilled s t
      least now 0 := by
  have hreg : (full capacity refillRate refillPeriod now).Regular :=
    ⟨hrate, hperiod, hcap, le_refl _⟩
  have hlt : now - (full capacity refillRate refillPeriod now).lastRefill
      < (full capacity refillRate refillPeriod now).refillPeriod := by
    show now - now < refillPeriod
    rw [sub_self]
    exact hperiod
  have hallow : 0 ≤ (full capacity refillRate refillPeriod now).allowance
      least (t - s) := allowance_nonneg hreg (sub_nonneg.mpr hst)
  rw [refill_of_lt hlt]
  refine ⟨⟨hreg, fun h => absurd h (lt_irrefl _),
    fun h => absurd h (lt_irrefl _), ?_⟩, ?_, le_refl now, Or.inl rfl⟩
  · show 0 ≤ capacity + _
    exact add_nonneg hcap hallow
  · show now < now + refillPeriod
    exact lt_add_of_pos_right now hperiod

/-- The first tokens of an interval are within the allowance: either the
bucket was filled in the interval, or the call before took its share. -/
theorem spent_first (h : b.Refilled s t least now taken) (hs : s ≤ now) :
    b.tokens ≤ b.capacity + b.allowance least (b.lastRefill - s) := by
  rcases h.low with hnow | hlow
  · have hallow : 0 ≤ b.allowance least (b.lastRefill - s) := by
      refine allowance_nonneg h.regular ?_
      rw [hnow]
      exact sub_nonneg.mpr hs
    have hle := h.regular.tokens_le
    linarith
  · have hallow : -least ≤ b.allowance least (b.lastRefill - s) := by
      refine neg_least_le_allowance h.regular ?_
      have hrecent := h.recent
      linarith
    linarith

/-- A call that takes its share, or is refused for want of one that
leaves it. -/
theorem metered_take (h : b.Refilled s t least now taken) (htaken : 0 ≤ taken)
    (hleast : 0 < least) (hn : least ≤ n) (hroom : n ≤ b.capacity - least) :
    (b.take n).1.Metered s t least
      (if (b.take n).2 = true ∧ s ≤ now ∧ now ≤ t then taken + n
        else taken) := by
  have htokens := h.regular.tokens_le
  unfold take
  by_cases hok : n ≤ b.tokens
  · rw [if_pos hok]
    have hreg : ({ b with tokens := b.tokens - n } : TokenBucket α).Regular :=
      ⟨h.regular.rate, h.regular.period, sub_nonneg.mpr hok, by
        show b.tokens - n ≤ b.capacity
        linarith⟩
    have hlow : b.tokens - n ≤ b.capacity - least := by linarith
    by_cases hin : s ≤ now ∧ now ≤ t
    · rw [if_pos ⟨rfl, hin⟩]
      -- in an interval that has begun, or from its first tokens
      have hspent : taken + n + (b.tokens - n)
          ≤ b.capacity + b.allowance least (b.lastRefill - s) := by
        rcases lt_or_eq_of_le htaken with hpos | hzero
        · have hsp := h.spent hpos
          linarith
        · have hfirst := spent_first h hin.1
          linarith
      have hrecent := h.recent
      have hmono : b.allowance least (b.lastRefill - s)
          ≤ b.allowance least (t - s) :=
        allowance_mono h.regular (by linarith [h.past, hin.2])
      refine ⟨⟨hreg, ?_, fun _ => hspent, ?_⟩, hlow⟩
      · intro _
        show s < b.lastRefill + b.refillPeriod
        linarith [hin.1]
      · show taken + n ≤ b.capacity + b.allowance least (t - s)
        linarith
    · rw [if_neg (fun hand => hin hand.2)]
      refine ⟨⟨hreg, h.started, ?_, h.within⟩, hlow⟩
      intro hpos
      have hspent := h.spent hpos
      show taken + (b.tokens - n)
        ≤ b.capacity + b.allowance least (b.lastRefill - s)
      linarith
  · rw [if_neg hok, if_neg (fun hand => Bool.false_ne_true hand.1)]
    have hlt := lt_of_not_ge hok
    exact ⟨h.toAccount, by linarith⟩

end TokenBucket

-- ==== a sliding window

/-- The times of the requests that were let through. -/
structure SlidingWindow (α : Type) where
  limit : Nat
  windowSeconds : α
  requests : List α

namespace SlidingWindow

/-- Drop the old times, and let the request through if there is room. -/
def isAllowed (w : SlidingWindow α) (now : α) : SlidingWindow α × Bool :=
  let kept := w.requests.dropWhile fun r => decide (r < now - w.windowSeconds)
  if w.limit ≤ kept.length then ({ w with requests := kept }, false)
  else ({ w with requests := kept ++ [now] }, true)

/-- Let the request through, if the times that are kept leave room. -/
def record (w : SlidingWindow α) (kept : List α) (now : α) :
    SlidingWindow α × Bool :=
  if w.limit ≤ kept.length then ({ w with requests := kept }, false)
  else ({ w with requests := kept ++ [now] }, true)

/-- The log after `passed` requests of the interval that starts at `s`
were let through. -/
structure Windowed (s : α) (w : SlidingWindow α) (passed : Nat) : Prop where
  kept : passed ≤ w.requests.countP fun r => decide (s ≤ r)
  within : passed ≤ w.limit

variable {w : SlidingWindow α} {s now : α} {passed : Nat}

@[simp] theorem isAllowed_limit : (w.isAllowed now).1.limit = w.limit := by
  unfold isAllowed
  dsimp only
  split <;> rfl

/-- Dropping from the front what lies before `s` drops nothing after. -/
theorem countP_dropWhile {β : Type} {p q : β → Bool}
    (h : ∀ r, p r = true → q r = false)
    (l : List β) : (l.dropWhile p).countP q = l.countP q := by
  induction l with
  | nil => rfl
  | cons r rest ih =>
    rw [List.dropWhile_cons]
    split
    next hp =>
      rw [ih, List.countP_cons_of_neg]
      simp [h r hp]
    next => rfl

theorem isAllowed_eq_record (w : SlidingWindow α) (now : α) :
    w.isAllowed now = w.record (w.requests.dropWhile fun r =>
      decide (r < now - w.windowSeconds)) now := rfl

omit [Field α] in
/-- Fewer requests are accounted for as well. -/
theorem Windowed.mono (h : w.Windowed s passed) {fewer : Nat}
    (hle : fewer ≤ passed) : w.Windowed s fewer :=
  ⟨hle.trans h.kept, hle.trans h.within⟩

omit [Field α] in
/-- A log that has dropped nothing from `s` on. -/
theorem Windowed.drop (h : w.Windowed s passed) {kept : List α}
    (hkept : kept.countP (fun r => decide (s ≤ r))
      = w.requests.countP fun r => decide (s ≤ r)) :
    ({ w with requests := kept } : SlidingWindow α).Windowed s passed := by
  have hpassed := h.kept
  rw [← hkept] at hpassed
  exact ⟨hpassed, h.within⟩

omit [Field α] in
/-- A request that finds room and is noted. -/
theorem Windowed.push (h : w.Windowed s passed) (now : α)
    (hroom : w.requests.length < w.limit) :
    ({ w with requests := w.requests ++ [now] } : SlidingWindow α).Windowed s
      (if s ≤ now then passed + 1 else passed) := by
  have hpassed := h.kept
  have happend : (w.requests ++ [now]).countP (fun r => decide (s ≤ r))
      = w.requests.countP (fun r => decide (s ≤ r))
        + if s ≤ now then 1 else 0 := by
    rw [List.countP_append, List.countP_singleton]
    simp only [decide_eq_true_eq]
  have hle := List.countP_le_length (p := fun r => decide (s ≤ r))
    (l := w.requests)
  by_cases hs : s ≤ now
  · rw [if_pos hs] at happend ⊢
    constructor
    · show passed + 1 ≤ (w.requests ++ [now]).countP _
      omega
    · show passed + 1 ≤ w.limit
      omega
  · rw [if_neg hs] at happend ⊢
    constructor
    · show passed ≤ (w.requests ++ [now]).countP _
      omega
    · exact h.within

omit [Field α] in
/-- A call that drops nothing from `s` on keeps the account. -/
theorem windowed_record {kept : List α} (now : α)
    (h : w.Windowed s passed)
    (hkept : kept.countP (fun r => decide (s ≤ r))
      = w.requests.countP fun r => decide (s ≤ r)) :
    (w.record kept now).1.Windowed s
      (if (w.record kept now).2 = true ∧ s ≤ now then passed + 1
        else passed) := by
  have hdrop := h.drop hkept
  unfold record
  by_cases hfull : w.limit ≤ kept.length
  · rw [if_pos hfull, if_neg (fun hand => Bool.false_ne_true hand.1)]
    exact hdrop
  · rw [if_neg hfull]
    have hpush := hdrop.push now (Nat.lt_of_not_le hfull)
    by_cases hs : s ≤ now
    · rw [if_pos hs] at hpush
      rw [if_pos ⟨rfl, hs⟩]
      exact hpush
    · rw [if_neg hs] at hpush
      rw [if_neg (fun hand => hs hand.2)]
      exact hpush

variable [IsStrictOrderedRing α]

/-- A call no later than a window after `s` keeps the account. -/
theorem windowed_isAllowed (h : w.Windowed s passed)
    (hnow : now ≤ s + w.windowSeconds) :
    (w.isAllowed now).1.Windowed s
      (if (w.isAllowed now).2 = true ∧ s ≤ now then passed + 1
        else passed) := by
  rw [isAllowed_eq_record]
  refine windowed_record now h (countP_dropWhile (fun r hr => ?_) _)
  have hr' := of_decide_eq_true hr
  refine decide_eq_false fun hsr => ?_
  linarith

end SlidingWindow

end Lib
