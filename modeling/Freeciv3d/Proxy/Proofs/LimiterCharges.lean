/-
The bookkeeping of the API rate limiter: its clean-up is never seen, and
what a denied call costs.

# Two limiters with the same tokens

A limiter is known by the tokens it has for each player and each address
at each later reading (`SameTokens`); one without a bucket has a full
one. A call reads the tokens of its two keys alone and writes back what
follows from them (`checkLimit_eq`), so limiters with the same tokens
answer alike and have the same tokens afterwards. A bucket that goes in
the clean-up was idle for an hour and fills in a minute.

# The order of the two limits

The address is charged first. When it has no token, nothing is charged.
When the player has none, the address has paid already: what is left is
what a call of the address's limit alone leaves.
-/
import Mathlib.Tactic.NormNum
import Freeciv3d.Lib.TokenLevel
import Freeciv3d.Proxy.RateLimiters

namespace Freeciv3d.Proxy

open Lib

namespace APIRateLimiter

-- ==== the statement

/-- `check_limits`, with another clean-up in its place. -/
def checkLimitsWith (cleanup : APIRateLimiter → Rat → APIRateLimiter)
    (l : APIRateLimiter) (playerId : Int) (ipAddress : String)
    (now : Rat) : Except Raised LimitAnswer × APIRateLimiter :=
  match (cleanup l now).checkIpLimit ipAddress now with
  | (.error e, l) => (.error e, l)
  | (.ok (some retryAfter), l) => (.ok (.limited retryAfter "ip"), l)
  | (.ok none, l) =>
    match l.checkPlayerLimit playerId now with
    | (.error e, l) => (.error e, l)
    | (.ok (some retryAfter), l) => (.ok (.limited retryAfter "player"), l)
    | (.ok none, l) => (.ok .allowed, l)

theorem checkLimits_eq_with :
    checkLimits = checkLimitsWith cleanupOldBuckets := (rfl)

def neverCleanup (l : APIRateLimiter) (_ : Rat) : APIRateLimiter := l

/-- A call of `check_limits`, and when it reads the clock. -/
structure LimitsCall where
  playerId : Int
  ipAddress : String
  now : Rat

def answers (cleanup : APIRateLimiter → Rat → APIRateLimiter) :
    APIRateLimiter → List LimitsCall → List (Except Raised LimitAnswer)
  | _, [] => []
  | l, c :: rest =>
    let (answer, l) := checkLimitsWith cleanup l c.playerId c.ipAddress c.now
    answer :: answers cleanup l rest

theorem answers_cons (cleanup : APIRateLimiter → Rat → APIRateLimiter)
    (l : APIRateLimiter) (c : LimitsCall) (rest : List LimitsCall) :
    answers cleanup l (c :: rest)
      = (checkLimitsWith cleanup l c.playerId c.ipAddress c.now).1
        :: answers cleanup
            (checkLimitsWith cleanup l c.playerId c.ipAddress c.now).2
            rest := (rfl)

def afterCalls (cleanup : APIRateLimiter → Rat → APIRateLimiter) :
    APIRateLimiter → List LimitsCall → APIRateLimiter
  | l, [] => l
  | l, c :: rest =>
    afterCalls cleanup
      (checkLimitsWith cleanup l c.playerId c.ipAddress c.now).2 rest

/-- The tokens there are under a key; a missing bucket will be full. -/
def tokensAt {κ : Type} [DecidableEq κ] (buckets : Dict κ TokenBucket)
    (rpm : Int) (key : κ) (now : Rat) : Rat :=
  ((buckets.get? key).getD (newBucket rpm now)).available now

def playerTokens (l : APIRateLimiter) (playerId : Int) (now : Rat) : Rat :=
  tokensAt l.playerBuckets l.playerRequestsPerMinute playerId now

def ipTokens (l : APIRateLimiter) (ipAddress : String) (now : Rat) : Rat :=
  tokensAt l.ipBuckets l.ipRequestsPerMinute ipAddress now

/-- Readings from `now` on that do not decrease. -/
def OrderedFrom (now : Rat) (calls : List LimitsCall) : Prop :=
  (now :: calls.map LimitsCall.now).Pairwise (· ≤ ·)

instance (now : Rat) (calls : List LimitsCall) :
    Decidable (OrderedFrom now calls) :=
  inferInstanceAs (Decidable (List.Pairwise _ _))

def lastReading (now : Rat) : List LimitsCall → Rat
  | [] => now
  | c :: rest => lastReading c.now rest

/-- Whatever is called from `now` on, it gets the same answers from
both, and every player and every address has the same tokens. -/
def Indistinguishable (now : Rat) (l l' : APIRateLimiter) : Prop :=
  ∀ rest, OrderedFrom now rest →
    answers cleanupOldBuckets l rest = answers cleanupOldBuckets l' rest
      ∧ ∀ later, lastReading now rest ≤ later →
          (∀ playerId,
            (afterCalls cleanupOldBuckets l rest).playerTokens playerId later
              = (afterCalls cleanupOldBuckets l' rest).playerTokens
                  playerId later)
          ∧ ∀ ipAddress,
              (afterCalls cleanupOldBuckets l rest).ipTokens ipAddress later
                = (afterCalls cleanupOldBuckets l' rest).ipTokens
                    ipAddress later

-- ==== one key's bucket

section Buckets

variable {κ : Type} [DecidableEq κ] {d d' : Dict κ TokenBucket}
variable {rpm : Int} {key : κ} {now later : Rat}

/-- A bucket as `rpm` requests a minute make it. -/
structure Fits (rpm : Int) (now : Rat) (b : TokenBucket) : Prop where
  capacity : b.capacity = rpm
  fillRate : b.fillRate = rpm / 60
  tokens_nonneg : 0 ≤ b.tokens
  past : b.lastUpdate ≤ now

/-- All the buckets fit. -/
def Fitting (rpm : Int) (now : Rat) (d : Dict κ TokenBucket) : Prop :=
  ∀ key b, d.get? key = some b → Fits rpm now b

/-- The same tokens under every key, from `now` on. -/
def Alike (rpm : Int) (now : Rat) (d d' : Dict κ TokenBucket) : Prop :=
  ∀ key later, now ≤ later →
    tokensAt d rpm key later = tokensAt d' rpm key later

/-- A bucket in which a call found `level` tokens. -/
def charged (rpm : Int) (level now : Rat) : TokenBucket where
  capacity := rpm
  tokens := if 1 ≤ level then level - 1 else level
  fillRate := rpm / 60
  lastUpdate := now

/-- The answer to a call that found `level` tokens. -/
def verdict (rpm : Int) (level now : Rat) : Except Raised (Option Rat) :=
  if 1 ≤ level then .ok none
  else (charged rpm level now).timeUntilTokens.map some

theorem Fits.available_eq {b : TokenBucket} (h : Fits rpm now b)
    (later : Rat) : b.available later
      = levelAt (rpm : Rat) (rpm / 60) b.tokens b.lastUpdate later := by
  unfold TokenBucket.available levelAt
  rw [h.capacity, h.fillRate]

theorem Fitting.mono (h : Fitting rpm now d) (hle : now ≤ later) :
    Fitting rpm later d := by
  intro key b hb
  have hfits := h key b hb
  exact { hfits with past := hfits.past.trans hle }

theorem tokensAt_of_none (h : d.get? key = none) :
    tokensAt d rpm key now = rpm := by
  unfold tokensAt
  rw [h, Option.getD_none]
  exact levelAt_self (le_refl (rpm : Rat))

theorem tokensAt_of_some (h : Fitting rpm now d) {b : TokenBucket}
    (hb : d.get? key = some b) (later : Rat) :
    tokensAt d rpm key later
      = levelAt (rpm : Rat) (rpm / 60) b.tokens b.lastUpdate later := by
  unfold tokensAt
  rw [hb, Option.getD_some]
  exact (h key b hb).available_eq later

theorem rate_nonneg (hrpm : 0 < rpm) : (0 : Rat) ≤ rpm / 60 := by
  have hcast : (0 : Rat) < rpm := by exact_mod_cast hrpm
  positivity

theorem tokensAt_nonneg (hrpm : 0 < rpm) (h : Fitting rpm now d) :
    0 ≤ tokensAt d rpm key now := by
  have hcast : (0 : Rat) ≤ rpm := by exact_mod_cast hrpm.le
  cases hb : d.get? key with
  | none =>
    rw [tokensAt_of_none hb]
    exact hcast
  | some b =>
    rw [tokensAt_of_some h hb]
    have hfits := h key b hb
    exact levelAt_nonneg (rate_nonneg hrpm) hcast hfits.tokens_nonneg
      hfits.past

theorem levelAt_tokensAt (hrpm : 0 < rpm) (h : Fitting rpm now d)
    (hle : now ≤ later) :
    levelAt (rpm : Rat) (rpm / 60) (tokensAt d rpm key now) now later
      = tokensAt d rpm key later := by
  cases hb : d.get? key with
  | none =>
    rw [tokensAt_of_none hb, tokensAt_of_none hb]
    have hadd := mul_nonneg (sub_nonneg.mpr hle) (rate_nonneg hrpm)
    exact levelAt_of_full (le_add_of_nonneg_right hadd)
  | some b =>
    rw [tokensAt_of_some h hb, tokensAt_of_some h hb]
    exact levelAt_levelAt (rate_nonneg hrpm) hle

/-- A call is decided by the tokens it finds, and writes back what they
say. -/
theorem checkLimit_eq (h : Fitting rpm now d) :
    checkLimit d rpm key now
      = (verdict rpm (tokensAt d rpm key now) now,
          d.set key (charged rpm (tokensAt d rpm key now) now)) := by
  have hshape : ((d.get? key).getD (newBucket rpm now)).capacity = rpm
      ∧ ((d.get? key).getD (newBucket rpm now)).fillRate = rpm / 60 := by
    cases hb : d.get? key with
    | none => exact ⟨rfl, rfl⟩
    | some b => exact ⟨(h key b hb).capacity, (h key b hb).fillRate⟩
  unfold checkLimit TokenBucket.consume verdict charged tokensAt
  by_cases hone :
      1 ≤ ((d.get? key).getD (newBucket rpm now)).available now
  · simp only [if_pos hone, hshape]
    rfl
  · simp only [if_neg hone, hshape]
    rfl

theorem Fitting.set_charged (hrpm : 0 < rpm) (h : Fitting rpm now d) :
    Fitting rpm now
      (d.set key (charged rpm (tokensAt d rpm key now) now)) := by
  intro k b hb
  rw [Dict.get?_set] at hb
  split at hb
  · cases hb
    have hlevel : 0 ≤ tokensAt d rpm key now := tokensAt_nonneg hrpm h
    refine ⟨rfl, rfl, ?_, le_refl now⟩
    show 0 ≤ if 1 ≤ tokensAt d rpm key now then
      tokensAt d rpm key now - 1 else tokensAt d rpm key now
    split
    next hone => exact sub_nonneg.mpr hone
    next => exact hlevel
  · exact h k b hb

theorem tokensAt_set_charged (level : Rat) (k : κ) :
    tokensAt (d.set key (charged rpm level now)) rpm k later
      = if k = key then
          levelAt (rpm : Rat) (rpm / 60)
            (if 1 ≤ level then level - 1 else level) now later
        else tokensAt d rpm k later := by
  unfold tokensAt
  rw [Dict.get?_set]
  by_cases hk : k = key
  · rw [if_pos hk, if_pos hk]
    rfl
  · rw [if_neg hk, if_neg hk]

theorem Alike.refl (rpm : Int) (now : Rat) (d : Dict κ TokenBucket) :
    Alike rpm now d d := fun _ _ _ => rfl

theorem Alike.symm (h : Alike rpm now d d') : Alike rpm now d' d :=
  fun key later hle => (h key later hle).symm

theorem Alike.trans {d'' : Dict κ TokenBucket} (h : Alike rpm now d d')
    (h' : Alike rpm now d' d'') : Alike rpm now d d'' :=
  fun key later hle => (h key later hle).trans (h' key later hle)

theorem Alike.mono (h : Alike rpm now d d') (hle : now ≤ later) :
    Alike rpm later d d' :=
  fun key _ hlater => h key _ (hle.trans hlater)

theorem Alike.set_charged (h : Alike rpm now d d') (key : κ)
    (level : Rat) :
    Alike rpm now (d.set key (charged rpm level now))
      (d'.set key (charged rpm level now)) := by
  intro k later hle
  rw [tokensAt_set_charged, tokensAt_set_charged]
  split
  · rfl
  · exact h k later hle

theorem alike_set_of_lt (hrpm : 0 < rpm) (h : Fitting rpm now d)
    (hlow : ¬ 1 ≤ tokensAt d rpm key now) :
    Alike rpm now (d.set key (charged rpm (tokensAt d rpm key now) now))
      d := by
  intro k later hle
  rw [tokensAt_set_charged, if_neg hlow]
  split
  next hk =>
    rw [hk]
    exact levelAt_tokensAt hrpm h hle
  next => rfl

theorem Fits.full_of_idle {b : TokenBucket} (hrpm : 0 < rpm)
    (h : Fits rpm now b) (hidle : b.lastUpdate < now - 3600)
    (hle : now ≤ later) : b.available later = rpm := by
  rw [h.available_eq]
  refine levelAt_of_full ?_
  have hcast : (0 : Rat) < rpm := by exact_mod_cast hrpm
  have htime : (60 : Rat) ≤ later - b.lastUpdate := by linarith
  have hfill := mul_le_mul_of_nonneg_right htime (rate_nonneg hrpm)
  have hminute : (60 : Rat) * (rpm / 60) = rpm := by ring
  have hnonneg := h.tokens_nonneg
  linarith

theorem alike_filter_idle (hrpm : 0 < rpm) (h : Fitting rpm now d) :
    Alike rpm now
      (d.filter fun _ b => !decide (b.lastUpdate < now - 3600)) d := by
  intro key later hle
  unfold tokensAt
  rw [Dict.get?_filter]
  cases hb : d.get? key with
  | none => rfl
  | some b =>
    rw [Option.filter_some]
    by_cases hidle : b.lastUpdate < now - 3600
    · rw [if_neg (by rw [decide_eq_true hidle]; exact Bool.false_ne_true),
        Option.getD_none, Option.getD_some,
        (h key b hb).full_of_idle hrpm hidle hle]
      exact levelAt_self (le_refl (rpm : Rat))
    · rw [if_pos (by rw [decide_eq_false hidle]; rfl)]

theorem Fitting.filter (h : Fitting rpm now d) (p : κ → TokenBucket → Bool) :
    Fitting rpm now (d.filter p) := by
  intro key b hb
  rw [Dict.get?_filter, Option.filter_eq_some_iff] at hb
  exact h key b hb.1

end Buckets

-- ==== one call

variable {l l' : APIRateLimiter} {cleanup cleanup' :
  APIRateLimiter → Rat → APIRateLimiter}
variable {playerId : Int} {ipAddress : String} {now later : Rat}

/-- Limits that let requests through, and buckets made by them. -/
structure Regular (now : Rat) (l : APIRateLimiter) : Prop where
  playerRpm : 0 < l.playerRequestsPerMinute
  ipRpm : 0 < l.ipRequestsPerMinute
  players : Fitting l.playerRequestsPerMinute now l.playerBuckets
  ips : Fitting l.ipRequestsPerMinute now l.ipBuckets

/-- The same tokens for every player and every address, from `now` on. -/
structure SameTokens (now : Rat) (l l' : APIRateLimiter) : Prop where
  playerRpm : l.playerRequestsPerMinute = l'.playerRequestsPerMinute
  ipRpm : l.ipRequestsPerMinute = l'.ipRequestsPerMinute
  players : Alike l.playerRequestsPerMinute now l.playerBuckets
    l'.playerBuckets
  ips : Alike l.ipRequestsPerMinute now l.ipBuckets l'.ipBuckets

/-- A clean-up that nobody notices. -/
structure Unnoticed (cleanup : APIRateLimiter → Rat → APIRateLimiter) :
    Prop where
  regular : ∀ l now, Regular now l → Regular now (cleanup l now)
  same : ∀ l now, Regular now l → SameTokens now (cleanup l now) l

def wait (rpm : Int) (level : Rat) : Rat := (1 - level) / (rpm / 60)

def chargeIp (l : APIRateLimiter) (ipAddress : String) (now : Rat) :
    APIRateLimiter :=
  { l with
    ipBuckets := l.ipBuckets.set ipAddress
      (charged l.ipRequestsPerMinute (l.ipTokens ipAddress now) now) }

def chargePlayer (l : APIRateLimiter) (playerId : Int) (now : Rat) :
    APIRateLimiter :=
  { l with
    playerBuckets := l.playerBuckets.set playerId
      (charged l.playerRequestsPerMinute (l.playerTokens playerId now) now) }

theorem Regular.mono (h : Regular now l) (hle : now ≤ later) :
    Regular later l where
  playerRpm := h.playerRpm
  ipRpm := h.ipRpm
  players := h.players.mono hle
  ips := h.ips.mono hle

theorem regular_init {playerRpm ipRpm : Int} (hplayer : 0 < playerRpm)
    (hip : 0 < ipRpm) (start : Rat) :
    Regular start (init playerRpm ipRpm start) where
  playerRpm := hplayer
  ipRpm := hip
  players key b hb := by cases hb
  ips key b hb := by cases hb

theorem Regular.chargeIp (h : Regular now l) :
    Regular now (l.chargeIp ipAddress now) where
  playerRpm := h.playerRpm
  ipRpm := h.ipRpm
  players := h.players
  ips := h.ips.set_charged h.ipRpm

theorem Regular.chargePlayer (h : Regular now l) :
    Regular now (l.chargePlayer playerId now) where
  playerRpm := h.playerRpm
  ipRpm := h.ipRpm
  players := h.players.set_charged h.playerRpm
  ips := h.ips

namespace SameTokens

theorem refl (now : Rat) (l : APIRateLimiter) : SameTokens now l l :=
  ⟨rfl, rfl, Alike.refl _ _ _, Alike.refl _ _ _⟩

theorem symm (h : SameTokens now l l') : SameTokens now l' l where
  playerRpm := h.playerRpm.symm
  ipRpm := h.ipRpm.symm
  players := h.playerRpm ▸ h.players.symm
  ips := h.ipRpm ▸ h.ips.symm

theorem trans {l'' : APIRateLimiter} (h : SameTokens now l l')
    (h' : SameTokens now l' l'') : SameTokens now l l'' where
  playerRpm := h.playerRpm.trans h'.playerRpm
  ipRpm := h.ipRpm.trans h'.ipRpm
  players := h.players.trans (h.playerRpm ▸ h'.players)
  ips := h.ips.trans (h.ipRpm ▸ h'.ips)

theorem mono (h : SameTokens now l l') (hle : now ≤ later) :
    SameTokens later l l' where
  playerRpm := h.playerRpm
  ipRpm := h.ipRpm
  players := h.players.mono hle
  ips := h.ips.mono hle

theorem playerTokens (h : SameTokens now l l') (hle : now ≤ later) :
    l.playerTokens playerId later = l'.playerTokens playerId later := by
  have hplayer := h.players playerId later hle
  rw [APIRateLimiter.playerTokens, hplayer, h.playerRpm]
  rfl

theorem ipTokens (h : SameTokens now l l') (hle : now ≤ later) :
    l.ipTokens ipAddress later = l'.ipTokens ipAddress later := by
  have hip := h.ips ipAddress later hle
  rw [APIRateLimiter.ipTokens, hip, h.ipRpm]
  rfl

theorem chargeIp (h : SameTokens now l l') :
    SameTokens now (l.chargeIp ipAddress now)
      (l'.chargeIp ipAddress now) where
  playerRpm := h.playerRpm
  ipRpm := h.ipRpm
  players := h.players
  ips := by
    have hset := h.ips.set_charged ipAddress
      (l.ipTokens ipAddress now)
    unfold APIRateLimiter.chargeIp
    rw [← h.ipTokens (le_refl now), ← h.ipRpm]
    exact hset

theorem chargePlayer (h : SameTokens now l l') :
    SameTokens now (l.chargePlayer playerId now)
      (l'.chargePlayer playerId now) where
  playerRpm := h.playerRpm
  ipRpm := h.ipRpm
  players := by
    have hset := h.players.set_charged playerId
      (l.playerTokens playerId now)
    unfold APIRateLimiter.chargePlayer
    rw [← h.playerTokens (le_refl now), ← h.playerRpm]
    exact hset
  ips := h.ips

end SameTokens

theorem sameTokens_chargeIp_of_lt (h : Regular now l)
    (hlow : ¬ 1 ≤ l.ipTokens ipAddress now) :
    SameTokens now (l.chargeIp ipAddress now) l where
  playerRpm := rfl
  ipRpm := rfl
  players := Alike.refl _ _ _
  ips := alike_set_of_lt h.ipRpm h.ips hlow

theorem sameTokens_chargePlayer_of_lt (h : Regular now l)
    (hlow : ¬ 1 ≤ l.playerTokens playerId now) :
    SameTokens now (l.chargePlayer playerId now) l where
  playerRpm := rfl
  ipRpm := rfl
  players := alike_set_of_lt h.playerRpm h.players hlow
  ips := Alike.refl _ _ _

theorem unnoticed_neverCleanup : Unnoticed neverCleanup where
  regular _ _ h := h
  same l now _ := SameTokens.refl now l

theorem unnoticed_cleanupOldBuckets : Unnoticed cleanupOldBuckets where
  regular l now h := by
    unfold cleanupOldBuckets
    split
    · exact h
    · exact ⟨h.playerRpm, h.ipRpm, h.players.filter _, h.ips.filter _⟩
  same l now h := by
    unfold cleanupOldBuckets
    split
    · exact SameTokens.refl now l
    · exact ⟨rfl, rfl, alike_filter_idle h.playerRpm h.players,
        alike_filter_idle h.ipRpm h.ips⟩

theorem verdict_of_le {rpm : Int} {level : Rat} (h : 1 ≤ level) :
    verdict rpm level now = .ok none := if_pos h

theorem verdict_of_lt {rpm : Int} {level : Rat} (hrpm : 0 < rpm)
    (h : ¬ 1 ≤ level) :
    verdict rpm level now = .ok (some (wait rpm level)) := by
  have hcast : (0 : Rat) < rpm := by exact_mod_cast hrpm
  have hrate : ((rpm : Rat) / 60) ≠ 0 := by positivity
  unfold verdict
  rw [if_neg h]
  unfold TokenBucket.timeUntilTokens charged
  simp only [if_neg h, if_neg hrate]
  rfl

theorem checkIpLimit_eq (h : Regular now l) :
    l.checkIpLimit ipAddress now
      = (verdict l.ipRequestsPerMinute (l.ipTokens ipAddress now) now,
          l.chargeIp ipAddress now) := by
  unfold checkIpLimit
  rw [checkLimit_eq h.ips]
  rfl

theorem checkPlayerLimit_eq (h : Regular now l) :
    l.checkPlayerLimit playerId now
      = (verdict l.playerRequestsPerMinute (l.playerTokens playerId now) now,
          l.chargePlayer playerId now) := by
  unfold checkPlayerLimit
  rw [checkLimit_eq h.players]
  rfl

def answer (l : APIRateLimiter) (playerId : Int) (ipAddress : String)
    (now : Rat) : LimitAnswer :=
  if 1 ≤ l.ipTokens ipAddress now then
    if 1 ≤ l.playerTokens playerId now then .allowed
    else .limited (wait l.playerRequestsPerMinute (l.playerTokens playerId now))
      "player"
  else .limited (wait l.ipRequestsPerMinute (l.ipTokens ipAddress now)) "ip"

/-- What a call charges: the address, and if it can pay, the player. -/
def charge (l : APIRateLimiter) (playerId : Int) (ipAddress : String)
    (now : Rat) : APIRateLimiter :=
  if 1 ≤ l.ipTokens ipAddress now then
    (l.chargeIp ipAddress now).chargePlayer playerId now
  else l.chargeIp ipAddress now

theorem checkLimitsWith_eq (hs : Unnoticed cleanup) (h : Regular now l) :
    checkLimitsWith cleanup l playerId ipAddress now
      = (.ok ((cleanup l now).answer playerId ipAddress now),
          (cleanup l now).charge playerId ipAddress now) := by
  have hclean := hs.regular l now h
  unfold checkLimitsWith answer charge
  rw [checkIpLimit_eq hclean]
  by_cases hip : 1 ≤ (cleanup l now).ipTokens ipAddress now
  · rw [verdict_of_le hip, if_pos hip, if_pos hip]
    dsimp only
    rw [checkPlayerLimit_eq hclean.chargeIp]
    have htokens : ((cleanup l now).chargeIp ipAddress now).playerTokens
        playerId now = (cleanup l now).playerTokens playerId now := rfl
    by_cases hplayer : 1 ≤ (cleanup l now).playerTokens playerId now
    · rw [htokens, verdict_of_le hplayer, if_pos hplayer]
    · rw [htokens, verdict_of_lt hclean.chargeIp.playerRpm hplayer,
        if_neg hplayer]
      rfl
  · rw [verdict_of_lt hclean.ipRpm hip, if_neg hip, if_neg hip]

theorem SameTokens.answer (h : SameTokens now l l') :
    l.answer playerId ipAddress now = l'.answer playerId ipAddress now := by
  unfold APIRateLimiter.answer
  rw [h.ipTokens (le_refl now), h.playerTokens (le_refl now), h.ipRpm,
    h.playerRpm]

theorem SameTokens.charge (h : SameTokens now l l') :
    SameTokens now (l.charge playerId ipAddress now)
      (l'.charge playerId ipAddress now) := by
  unfold APIRateLimiter.charge
  rw [h.ipTokens (le_refl now)]
  split
  · exact h.chargeIp.chargePlayer
  · exact h.chargeIp

theorem Regular.charge (h : Regular now l) :
    Regular now (l.charge playerId ipAddress now) := by
  unfold APIRateLimiter.charge
  split
  · exact h.chargeIp.chargePlayer
  · exact h.chargeIp

-- ==== the runs

theorem Regular.check (hs : Unnoticed cleanup) (h : Regular now l) :
    Regular now (checkLimitsWith cleanup l playerId ipAddress now).2 := by
  rw [checkLimitsWith_eq hs h]
  exact (hs.regular l now h).charge

/-- Limiters with the same tokens answer alike and keep the same
tokens, each with its own clean-up. -/
theorem SameTokens.check (hs : Unnoticed cleanup) (hs' : Unnoticed cleanup')
    (hl : Regular now l) (hl' : Regular now l') (h : SameTokens now l l')
    (playerId : Int) (ipAddress : String) :
    (checkLimitsWith cleanup l playerId ipAddress now).1
        = (checkLimitsWith cleanup' l' playerId ipAddress now).1
      ∧ SameTokens now
          (checkLimitsWith cleanup l playerId ipAddress now).2
          (checkLimitsWith cleanup' l' playerId ipAddress now).2 := by
  have hclean : SameTokens now (cleanup l now) (cleanup' l' now) :=
    ((hs.same l now hl).trans h).trans (hs'.same l' now hl').symm
  rw [checkLimitsWith_eq hs hl, checkLimitsWith_eq hs' hl']
  exact ⟨congrArg Except.ok hclean.answer, hclean.charge⟩

theorem SameTokens.calls (hs : Unnoticed cleanup) (hs' : Unnoticed cleanup')
    (hl : Regular now l) (hl' : Regular now l') (h : SameTokens now l l')
    {rest : List LimitsCall} (hrest : OrderedFrom now rest) :
    answers cleanup l rest = answers cleanup' l' rest
      ∧ SameTokens (lastReading now rest) (afterCalls cleanup l rest)
          (afterCalls cleanup' l' rest) := by
  induction rest generalizing now l l' with
  | nil => exact ⟨rfl, h⟩
  | cons c rest ih =>
    obtain ⟨hfirst, hordered⟩ := List.pairwise_cons.mp hrest
    have hle : now ≤ c.now := hfirst c.now List.mem_cons_self
    have hcl := hl.mono hle
    have hcl' := hl'.mono hle
    obtain ⟨hanswer, hsame⟩ := SameTokens.check hs hs' hcl hcl'
      (h.mono hle) c.playerId c.ipAddress
    obtain ⟨hanswers, hafter⟩ :=
      ih (hcl.check hs) (hcl'.check hs') hsame hordered
    constructor
    · rw [answers_cons, answers_cons, hanswer, hanswers]
    · exact hafter

theorem Regular.calls (hs : Unnoticed cleanup) (hl : Regular now l)
    {rest : List LimitsCall} (hrest : OrderedFrom now rest) :
    Regular (lastReading now rest) (afterCalls cleanup l rest) := by
  induction rest generalizing now l with
  | nil => exact hl
  | cons c rest ih =>
    obtain ⟨hfirst, hordered⟩ := List.pairwise_cons.mp hrest
    have hle : now ≤ c.now := hfirst c.now List.mem_cons_self
    exact ih ((hl.mono hle).check hs) hordered

theorem SameTokens.indistinguishable (hl : Regular now l)
    (hl' : Regular now l') (h : SameTokens now l l') :
    Indistinguishable now l l' := by
  intro rest hrest
  obtain ⟨hanswers, hafter⟩ := SameTokens.calls unnoticed_cleanupOldBuckets
    unnoticed_cleanupOldBuckets hl hl' h hrest
  exact ⟨hanswers, fun later hlater =>
    ⟨fun _ => hafter.playerTokens hlater, fun _ => hafter.ipTokens hlater⟩⟩

/-- What is left after a call the player's limit denies is what the
address's limit alone leaves. -/
theorem sameTokens_of_playerDenied (h : Regular now l)
    (hip : 1 ≤ (l.cleanupOldBuckets now).ipTokens ipAddress now)
    (hplayer : ¬ 1 ≤ (l.cleanupOldBuckets now).playerTokens playerId now) :
    SameTokens now (l.checkLimits playerId ipAddress now).2
      (l.chargeIp ipAddress now) := by
  have hclean := unnoticed_cleanupOldBuckets.regular l now h
  have hsame := unnoticed_cleanupOldBuckets.same l now h
  rw [checkLimits_eq_with, checkLimitsWith_eq unnoticed_cleanupOldBuckets h]
  unfold charge
  rw [if_pos hip]
  exact (sameTokens_chargePlayer_of_lt hclean.chargeIp hplayer).trans
    hsame.chargeIp

/-- What is left after a call the address's limit denies is what there
was. -/
theorem sameTokens_of_ipDenied (h : Regular now l)
    (hip : ¬ 1 ≤ (l.cleanupOldBuckets now).ipTokens ipAddress now) :
    SameTokens now (l.checkLimits playerId ipAddress now).2 l := by
  have hclean := unnoticed_cleanupOldBuckets.regular l now h
  have hsame := unnoticed_cleanupOldBuckets.same l now h
  rw [checkLimits_eq_with, checkLimitsWith_eq unnoticed_cleanupOldBuckets h]
  unfold charge
  rw [if_neg hip]
  exact (sameTokens_chargeIp_of_lt hclean hip).trans hsame

/-- A call the address's limit denies is as if it had not been made; one
the player's limit denies takes one token of its address. -/
structure CostOfDenial (l : APIRateLimiter) (c : LimitsCall) : Prop where
  ip : ∀ retryAfter,
    (l.checkLimits c.playerId c.ipAddress c.now).1
        = .ok (.limited retryAfter "ip") →
      Indistinguishable c.now (l.checkLimits c.playerId c.ipAddress c.now).2 l
  player : ∀ retryAfter,
    (l.checkLimits c.playerId c.ipAddress c.now).1
        = .ok (.limited retryAfter "player") →
      Indistinguishable c.now (l.checkLimits c.playerId c.ipAddress c.now).2
        (l.checkIpLimit c.ipAddress c.now).2
  left : ∀ retryAfter later, c.now ≤ later →
    (l.checkLimits c.playerId c.ipAddress c.now).1
        = .ok (.limited retryAfter "player") →
      let after := (l.checkLimits c.playerId c.ipAddress c.now).2
      (∀ playerId,
          after.playerTokens playerId later = l.playerTokens playerId later)
        ∧ (∀ ipAddress, ipAddress ≠ c.ipAddress →
            after.ipTokens ipAddress later = l.ipTokens ipAddress later)
        ∧ after.ipTokens c.ipAddress later
            = levelAt (l.ipRequestsPerMinute : Rat) (l.ipRequestsPerMinute / 60)
                (l.ipTokens c.ipAddress c.now - 1) c.now later
  limits : ∀ retryAfter limitType,
    (l.checkLimits c.playerId c.ipAddress c.now).1
        = .ok (.limited retryAfter limitType) →
      limitType = "ip" ∨ limitType = "player"

/-- A denial by the player's limit comes after the address was
charged. -/
theorem denied_iff (h : Regular now l) :
    ((∃ retryAfter, (l.checkLimits playerId ipAddress now).1
        = .ok (.limited retryAfter "player"))
      ↔ 1 ≤ (l.cleanupOldBuckets now).ipTokens ipAddress now
        ∧ ¬ 1 ≤ (l.cleanupOldBuckets now).playerTokens playerId now)
    ∧ ((∃ retryAfter, (l.checkLimits playerId ipAddress now).1
        = .ok (.limited retryAfter "ip"))
      ↔ ¬ 1 ≤ (l.cleanupOldBuckets now).ipTokens ipAddress now) := by
  rw [checkLimits_eq_with, checkLimitsWith_eq unnoticed_cleanupOldBuckets h]
  unfold answer
  by_cases hip : 1 ≤ (l.cleanupOldBuckets now).ipTokens ipAddress now
  · by_cases hplayer : 1 ≤ (l.cleanupOldBuckets now).playerTokens playerId now
    · simp [hip, hplayer]
    · simp [hip, hplayer]
  · simp [hip]

theorem costOfDenial (c : LimitsCall) (h : Regular c.now l) :
    CostOfDenial l c := by
  have hregular : Regular c.now
      (l.checkLimits c.playerId c.ipAddress c.now).2 :=
    h.check unnoticed_cleanupOldBuckets
  constructor
  · intro retryAfter hdenied
    have hip := (denied_iff h).2.mp ⟨retryAfter, hdenied⟩
    exact (sameTokens_of_ipDenied h hip).indistinguishable hregular h
  · intro retryAfter hdenied
    obtain ⟨hip, hplayer⟩ := (denied_iff h).1.mp ⟨retryAfter, hdenied⟩
    rw [checkIpLimit_eq h]
    exact (sameTokens_of_playerDenied h hip hplayer).indistinguishable
      hregular h.chargeIp
  · intro retryAfter later hle hdenied
    obtain ⟨hip, hplayer⟩ := (denied_iff h).1.mp ⟨retryAfter, hdenied⟩
    have hsame := sameTokens_of_playerDenied h hip hplayer
    have hkept : (l.cleanupOldBuckets c.now).ipTokens c.ipAddress c.now
        = l.ipTokens c.ipAddress c.now :=
      (unnoticed_cleanupOldBuckets.same l c.now h).ipTokens (le_refl c.now)
    rw [hkept] at hip
    refine ⟨fun playerId => hsame.playerTokens hle, fun ipAddress hne => ?_, ?_⟩
    · rw [hsame.ipTokens hle]
      exact (tokensAt_set_charged _ _).trans (if_neg hne)
    · rw [hsame.ipTokens hle]
      refine (tokensAt_set_charged _ _).trans ?_
      rw [if_pos rfl, if_pos hip]
  · intro retryAfter limitType hanswer
    rw [checkLimits_eq_with,
      checkLimitsWith_eq unnoticed_cleanupOldBuckets h] at hanswer
    unfold answer at hanswer
    split at hanswer
    · split at hanswer
      · cases hanswer
      · cases hanswer
        exact Or.inr rfl
    · cases hanswer
      exact Or.inl rfl

end APIRateLimiter

end Freeciv3d.Proxy
