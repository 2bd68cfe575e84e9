/-
The life of a token: what a validation accepts, how many comparisons an
agent gets in a window, and what a failed rotation leaves.

# Three invariants

What is accepted is settled by the lock: an active entry of the storage
is the last thing stored, with its hash (`Sound`), and while a
validation hashes nothing else can take the lock. This holds in every
run. The limit counts a validation when it asks, so it bounds the
comparisons only if none of them waits in between (`Limited`). And a
rotation revokes before it stores, so it fails without harm only if
there was nothing to revoke.
-/
import Freeciv3d.Gateway.TokenManager

namespace Freeciv3d.Gateway

open Lib

variable {ε η : Type} {crypto : TokenCrypto ε η} {settings : TokenSettings}
  {m m' : TokenManager ε η}

-- ==== the statement

/-- The token is the last one stored, it is not revoked, and it was not
too old when the validation looked. -/
def Acceptance.Fresh (settings : TokenSettings) (e : Acceptance) : Prop :=
  ∃ i, e.issued = some i ∧ i.token = e.token ∧ i.revoked = false
    ∧ e.checkedAt - i.storedAt ≤ settings.tokenTtl

/-- The token that was valid before is still stored and not revoked. -/
def FailedRotation.Harmless (e : FailedRotation) : Prop :=
  ∀ i, e.previous = some i →
    ∃ j, e.issued = some j ∧ j.token = i.token ∧ j.revoked = false

namespace TokenManager

/-- The comparisons of an agent in the window that starts at `s`. -/
def compared (settings : TokenSettings) (m : TokenManager ε η)
    (agentId : String) (s : Rat) : Nat :=
  m.comparisons.countP fun c =>
    decide (c.1 = agentId ∧ s ≤ c.2 ∧ c.2 < s + settings.validationWindow)

/-- No agent gets more comparisons in any window than is allowed. -/
def ComparesWithinLimit (settings : TokenSettings)
    (m : TokenManager ε η) : Prop :=
  ∀ agentId s, m.compared settings agentId s ≤ settings.maxValidationAttempts

/-- A validation that the limit lets through gets the lock at once. -/
def ValidatesAtOnce (settings : TokenSettings) (m : TokenManager ε η) :
    TokenAct → Prop
  | .validateToken agentId _ =>
    (m.checkValidationRateLimit settings agentId).2 = true →
      m.isFree = true
  | _ => True

instance (settings : TokenSettings) (m : TokenManager ε η)
    (a : TokenAct) : Decidable (m.ValidatesAtOnce settings a) := by
  unfold ValidatesAtOnce
  split <;> infer_instance

/-- A rotation to nothing finds no valid token to revoke. -/
def MayRotate (settings : TokenSettings) (m : TokenManager ε η) :
    TokenCall → Prop
  | .rotate agentId newToken =>
    newToken = "" ∨ agentId = "" → m.validToken settings agentId = none
  | _ => True

instance (settings : TokenSettings) (m : TokenManager ε η)
    (c : TokenCall) : Decidable (m.MayRotate settings c) := by
  unfold MayRotate
  split <;> infer_instance

/-- A hash that raises is none of a rotation that revoked a valid
token. -/
def MayRaise : Hashing η → Prop
  | .storing _ _ (.rotation previous) => previous = none
  | _ => True

instance (h : Hashing η) : Decidable (MayRaise h) := by
  unfold MayRaise
  split <;> infer_instance

/-- A rotation that finds a valid token has a new one to store, and
stores it. -/
def RotatesWhatItRevokes (settings : TokenSettings)
    (m : TokenManager ε η) : TokenAct → Prop
  | .rotateToken agentId newToken =>
    m.isFree = true → m.MayRotate settings (.rotate agentId newToken)
  | .wake => ∀ c ∈ m.waiters.head?, m.MayRotate settings c
  | .hashed _ raised => raised = true → ∀ h ∈ m.lock, MayRaise h
  | _ => True

instance (settings : TokenSettings) (m : TokenManager ε η)
    (a : TokenAct) : Decidable (m.RotatesWhatItRevokes settings a) := by
  unfold RotatesWhatItRevokes
  split <;> infer_instance

-- ==== the steps

theorem wake_cases (h : m.step crypto settings .wake = some m') :
    ∃ c rest, m.waiters = c :: rest ∧ m.lock = none
      ∧ m' = { m with waiters := rest }.run crypto settings c := by
  simp only [step] at h
  split at h
  case h_1 c rest hlock hwaiters =>
    exact ⟨c, rest, hwaiters, hlock, (Option.some.inj h).symm⟩
  case h_2 => cases h

theorem tick_cases {seconds : Rat}
    (h : m.step crypto settings (.tick seconds) = some m') :
    0 ≤ seconds ∧ m' = { m with now := m.now + seconds } := by
  simp only [step] at h
  split at h
  case isTrue hpos => exact ⟨hpos, (Option.some.inj h).symm⟩
  case isFalse => cases h

-- ==== the limit

theorem attempts_check_self (agentId : String) :
    (m.checkValidationRateLimit settings agentId).1.attempts settings
        agentId
      = ((m.attempts settings agentId).record
          ((m.attempts settings agentId).requests.filter fun t =>
            m.now - settings.validationWindow < t) m.now).1 := by
  unfold checkValidationRateLimit attempts
  rw [Dict.get?_set_self]
  unfold SlidingWindow.record
  split <;> rfl

theorem attempts_check_of_ne {agentId other : String}
    (h : other ≠ agentId) :
    (m.checkValidationRateLimit settings agentId).1.attempts settings other
      = m.attempts settings other := by
  unfold checkValidationRateLimit attempts
  rw [Dict.get?_set_of_ne _ _ h]

theorem check_snd (agentId : String) :
    (m.checkValidationRateLimit settings agentId).2
      = ((m.attempts settings agentId).record
          ((m.attempts settings agentId).requests.filter fun t =>
            m.now - settings.validationWindow < t) m.now).2 := rfl

theorem countP_filter_recent {l : List Rat} {s now window : Rat}
    (h : now < s + window) :
    (l.filter fun t => now - window < t).countP (fun t => decide (s ≤ t))
      = l.countP fun t => decide (s ≤ t) := by
  rw [List.countP_filter]
  refine List.countP_congr fun t _ => ?_
  rw [Bool.and_eq_true, decide_eq_true_eq, decide_eq_true_eq]
  refine and_iff_left_of_imp fun hs => ?_
  linarith

/-- The comparisons are among the attempts the limit has counted, and
no validation waits. -/
structure Limited (settings : TokenSettings) (m : TokenManager ε η) :
    Prop where
  waiting : ∀ agentId token, .validate agentId token ∉ m.waiters
  within : m.ComparesWithinLimit settings
  counted : ∀ agentId s, m.now < s + settings.validationWindow →
    (m.attempts settings agentId).Windowed s
      (m.compared settings agentId s)

/-- What the limit depends on is the same, or later. -/
structure SameCount (m m' : TokenManager ε η) : Prop where
  comparisons : m'.comparisons = m.comparisons
  attempts : m'.validationAttempts = m.validationAttempts
  now : m.now ≤ m'.now
  waiting : ∀ agentId token, .validate agentId token ∈ m'.waiters →
    .validate agentId token ∈ m.waiters

theorem Limited.congr (h : m.Limited settings) (hsame : SameCount m m') :
    m'.Limited settings := by
  have hcompared : ∀ a s, m'.compared settings a s
      = m.compared settings a s := by
    intro a s
    unfold compared
    rw [hsame.comparisons]
  have hattempts : ∀ a, m'.attempts settings a = m.attempts settings a := by
    intro a
    unfold attempts
    rw [hsame.attempts]
  refine ⟨fun a t ht => h.waiting a t (hsame.waiting a t ht),
    fun a s => ?_, fun a s hs => ?_⟩
  · rw [hcompared]
    exact h.within a s
  · rw [hcompared, hattempts]
    exact h.counted a s (hsame.now.trans_lt hs)

theorem Limited.check (h : m.Limited settings) (agentId : String) :
    (m.checkValidationRateLimit settings agentId).1.Limited settings := by
  refine ⟨h.waiting, h.within, fun a s hs => ?_⟩
  by_cases ha : a = agentId
  · subst ha
    rw [attempts_check_self]
    refine (SlidingWindow.windowed_record m.now (h.counted a s hs)
      (countP_filter_recent hs)).mono ?_
    split
    · exact Nat.le_succ _
    · exact le_refl _
  · rw [attempts_check_of_ne ha]
    exact h.counted a s hs

theorem Limited.compare (h : m.Limited settings) {agentId : String}
    (hallowed : (m.checkValidationRateLimit settings agentId).2 = true)
    (hattempts : m'.validationAttempts =
      (m.checkValidationRateLimit settings agentId).1.validationAttempts)
    (hcomparisons : m'.comparisons = m.comparisons ++ [(agentId, m.now)])
    (hnow : m'.now = m.now) (hwaiters : m'.waiters = m.waiters) :
    m'.Limited settings := by
  -- the new comparison counts in the windows it lies in
  have hcompared : ∀ a s, m'.compared settings a s
      = m.compared settings a s
        + if agentId = a ∧ s ≤ m.now
            ∧ m.now < s + settings.validationWindow then 1 else 0 := by
    intro a s
    unfold compared
    rw [hcomparisons, List.countP_append, List.countP_singleton]
    simp only [decide_eq_true_eq]
  have hcounted : ∀ a s, m.now < s + settings.validationWindow →
      (m'.attempts settings a).Windowed s (m'.compared settings a s) := by
    intro a s hs
    have hsame : m'.attempts settings a
        = (m.checkValidationRateLimit settings agentId).1.attempts settings
          a := by
      unfold attempts
      rw [hattempts]
    rw [hsame, hcompared]
    by_cases ha : a = agentId
    · subst ha
      have hrecord := SlidingWindow.windowed_record m.now
        (h.counted a s hs) (countP_filter_recent hs)
      rw [← check_snd, hallowed] at hrecord
      rw [attempts_check_self]
      refine hrecord.mono ?_
      by_cases hsnow : s ≤ m.now
      · simp [hsnow, hs]
      · simp [hsnow]
    · rw [attempts_check_of_ne ha, if_neg fun hand => ha hand.1.symm]
      exact h.counted a s hs
  refine ⟨?_, fun a s => ?_, ?_⟩
  · rw [hwaiters]
    exact h.waiting
  · by_cases hs : m.now < s + settings.validationWindow
    · exact (hcounted a s hs).within
    · rw [hcompared, if_neg fun hand => hs hand.2.2]
      exact h.within a s
  · rw [hnow]
    exact hcounted

-- ==== the other calls

theorem SameCount.trans {m'' : TokenManager ε η} (h : SameCount m m')
    (h' : SameCount m' m'') : SameCount m m'' :=
  ⟨h'.comparisons.trans h.comparisons, h'.attempts.trans h.attempts,
    h.now.trans h'.now,
    fun a t ht => h.waiting a t (h'.waiting a t ht)⟩

theorem SameCount.of_eq (hcomparisons : m'.comparisons = m.comparisons)
    (hattempts : m'.validationAttempts = m.validationAttempts)
    (hnow : m'.now = m.now) (hwaiters : m'.waiters = m.waiters) :
    SameCount m m' :=
  ⟨hcomparisons, hattempts, le_of_eq hnow.symm,
    fun _ _ ht => hwaiters ▸ ht⟩

theorem sameCount_getLocked (m : TokenManager ε η) (agentId : String) :
    SameCount m (m.getLocked crypto settings agentId).1 := by
  unfold getLocked
  split
  · exact .of_eq rfl rfl rfl rfl
  · split
    · exact .of_eq rfl rfl rfl rfl
    · split <;> exact .of_eq rfl rfl rfl rfl

theorem sameCount_storeFailed (m : TokenManager ε η) (agentId : String)
    (origin : StoreOrigin) : SameCount m (m.storeFailed agentId origin) := by
  cases origin <;> exact .of_eq rfl rfl rfl rfl

theorem sameCount_wait (m : TokenManager ε η) {c : TokenCall}
    (hc : ∀ agentId token, c ≠ .validate agentId token) :
    SameCount m { m with waiters := m.waiters ++ [c] } := by
  refine ⟨rfl, rfl, le_refl _, fun a t ht => ?_⟩
  rcases List.mem_append.mp ht with hold | hnew
  · exact hold
  · exact absurd (List.mem_singleton.mp hnew).symm (hc a t)

theorem sameCount_storeToken (m : TokenManager ε η) (agentId token : String)
    (origin : StoreOrigin) :
    SameCount m (m.storeToken agentId token origin) := by
  unfold storeToken
  split
  · exact sameCount_storeFailed m agentId origin
  · split
    · exact .of_eq rfl rfl rfl rfl
    · exact sameCount_wait m fun _ _ hc => by cases hc

theorem sameCount_run (m : TokenManager ε η) {c : TokenCall}
    (hc : ∀ agentId token, c ≠ .validate agentId token) :
    SameCount m (m.run crypto settings c) := by
  cases c with
  | store a t o | revoke a | cleanup t => exact .of_eq rfl rfl rfl rfl
  | get a => exact sameCount_getLocked m a
  | validate a t => exact absurd rfl (hc a t)
  | rotate a t =>
    have hrevoke : SameCount m (m.revokeLocked a) := .of_eq rfl rfl rfl rfl
    exact hrevoke.trans (sameCount_storeToken ..)

theorem sameCount_acquire (m : TokenManager ε η) {c : TokenCall}
    (hc : ∀ agentId token, c ≠ .validate agentId token) :
    SameCount m (m.acquire crypto settings c) := by
  unfold acquire
  split
  · exact sameCount_run m hc
  · exact sameCount_wait m hc

theorem sameCount_hashed (m : TokenManager ε η) (r : Nat) (raised : Bool)
    (h : Hashing η) :
    SameCount m ({ m with lock := none }.hashed crypto r raised h) := by
  cases h with
  | storing a t o =>
    show SameCount m (if raised then _ else _)
    split
    · cases o <;> exact .of_eq rfl rfl rfl rfl
    · exact .of_eq rfl rfl rfl rfl
  | verifying a t stored checkedAt =>
    show SameCount m (verified _ a t _ checkedAt)
    unfold verified
    split <;> exact .of_eq rfl rfl rfl rfl

theorem validateLocked_cases (m : TokenManager ε η)
    (agentId token : String) :
    SameCount m (m.validateLocked settings agentId token)
      ∨ (m.validateLocked settings agentId token).comparisons
          = m.comparisons ++ [(agentId, m.now)]
        ∧ (m.validateLocked settings agentId token).validationAttempts
          = m.validationAttempts
        ∧ (m.validateLocked settings agentId token).now = m.now
        ∧ (m.validateLocked settings agentId token).waiters
          = m.waiters := by
  unfold validateLocked
  split
  · exact .inl (.of_eq rfl rfl rfl rfl)
  · split
    · exact .inl (.of_eq rfl rfl rfl rfl)
    · split
      · exact .inl (.of_eq rfl rfl rfl rfl)
      · split
        · exact .inl (.of_eq rfl rfl rfl rfl)
        · exact .inr ⟨rfl, rfl, rfl, rfl⟩

theorem Limited.validateToken (h : m.Limited settings)
    {agentId : String} (token : String)
    (hfree : (m.checkValidationRateLimit settings agentId).2 = true →
      m.isFree = true) :
    (m.validateToken crypto settings agentId token).Limited settings := by
  unfold TokenManager.validateToken
  dsimp only
  split
  case isFalse => exact h.check agentId
  case isTrue hallowed =>
    have hnow : (m.checkValidationRateLimit settings agentId).1.isFree
        = true := hfree hallowed
    unfold acquire
    rw [if_pos hnow]
    show (validateLocked settings _ agentId token).Limited settings
    rcases validateLocked_cases
        (m.checkValidationRateLimit settings agentId).1 agentId token
      with hsame | ⟨hcomparisons, hattempts, hat, hwaiters⟩
    · exact (h.check agentId).congr hsame
    · exact h.compare hallowed hattempts hcomparisons hat hwaiters

theorem Limited.init (now : Rat) :
    (TokenManager.init now : TokenManager ε η).Limited settings where
  waiting _ _ ht := by cases ht
  within _ _ := Nat.zero_le _
  counted _ _ _ := ⟨Nat.zero_le _, Nat.zero_le _⟩

theorem Limited.step (h : m.Limited settings) {a : TokenAct}
    (hc : m.ValidatesAtOnce settings a)
    (hstep : m.step crypto settings a = some m') : m'.Limited settings := by
  cases a with
  | storeToken agentId token =>
    cases hstep
    exact h.congr (sameCount_storeToken ..)
  | getToken agentId | revokeToken agentId | rotateToken agentId newToken
  | cleanupExpiredTokens =>
    cases hstep
    exact h.congr (sameCount_acquire m fun _ _ he => by cases he)
  | validateToken agentId token =>
    cases hstep
    exact h.validateToken token hc
  | wake =>
    obtain ⟨c, rest, hwaiters, -, rfl⟩ := wake_cases hstep
    have hpop : SameCount m { m with waiters := rest } :=
      ⟨rfl, rfl, le_refl _, fun a t ht => by
        rw [hwaiters]
        exact List.mem_cons_of_mem _ ht⟩
    refine h.congr (hpop.trans (sameCount_run _ fun a t he => ?_))
    refine h.waiting a t ?_
    rw [hwaiters, he]
    exact List.mem_cons_self
  | hashed r raised =>
    obtain ⟨hashing, -, rfl⟩ := Option.map_eq_some_iff.mp hstep
    exact h.congr (sameCount_hashed m r raised hashing)
  | tick seconds =>
    obtain ⟨hpos, rfl⟩ := tick_cases hstep
    exact h.congr ⟨rfl, rfl, le_add_of_nonneg_right hpos,
      fun _ _ => id⟩

-- ==== failed rotations

def RevokedNothing (m : TokenManager ε η) : Prop :=
  ∀ e ∈ m.failedRotations, e.previous = none

theorem RevokedNothing.storeFailed (h : m.RevokedNothing) (agentId : String)
    {origin : StoreOrigin}
    (ho : ∀ previous, origin = .rotation previous → previous = none) :
    (m.storeFailed agentId origin).RevokedNothing := by
  cases origin with
  | caller => exact h
  | rotation previous =>
    intro e he
    rcases List.mem_append.mp he with hold | hnew
    · exact h e hold
    · cases List.mem_singleton.mp hnew
      exact ho previous rfl

theorem RevokedNothing.storeToken (h : m.RevokedNothing)
    {agentId token : String} {origin : StoreOrigin}
    (ho : token = "" ∨ agentId = "" →
      ∀ previous, origin = .rotation previous → previous = none) :
    (m.storeToken agentId token origin).RevokedNothing := by
  unfold TokenManager.storeToken
  split
  case isTrue hempty => exact h.storeFailed agentId (ho hempty)
  case isFalse => split <;> exact h

theorem getLocked_failedRotations (agentId : String) :
    (m.getLocked crypto settings agentId).1.failedRotations
      = m.failedRotations := by
  unfold getLocked
  split
  · rfl
  · split
    · rfl
    · split <;> rfl

theorem validateLocked_failedRotations (agentId token : String) :
    (m.validateLocked settings agentId token).failedRotations
      = m.failedRotations := by
  unfold validateLocked
  split
  · rfl
  · split
    · rfl
    · split
      · rfl
      · split <;> rfl

theorem RevokedNothing.run (h : m.RevokedNothing) {c : TokenCall}
    (hc : m.MayRotate settings c) :
    (m.run crypto settings c).RevokedNothing := by
  cases c with
  | store a t o | revoke a | cleanup t => exact h
  | get a =>
    show RevokedNothing (m.getLocked crypto settings a).1
    unfold RevokedNothing
    rw [getLocked_failedRotations]
    exact h
  | validate a t =>
    show RevokedNothing (m.validateLocked settings a t)
    unfold RevokedNothing
    rw [validateLocked_failedRotations]
    exact h
  | rotate a t =>
    have hrevoked : (m.revokeLocked a).RevokedNothing := h
    refine hrevoked.storeToken fun hempty previous ho => ?_
    cases ho
    exact hc hempty

theorem RevokedNothing.acquire (h : m.RevokedNothing) {c : TokenCall}
    (hc : m.isFree = true → m.MayRotate settings c) :
    (m.acquire crypto settings c).RevokedNothing := by
  unfold TokenManager.acquire
  split
  case isTrue hfree => exact h.run (hc hfree)
  case isFalse => exact h

theorem RevokedNothing.validateToken (h : m.RevokedNothing)
    (agentId token : String) :
    (m.validateToken crypto settings agentId token).RevokedNothing := by
  unfold TokenManager.validateToken
  dsimp only
  have hchecked :
      (m.checkValidationRateLimit settings agentId).1.RevokedNothing := h
  split
  · exact hchecked.acquire fun _ => trivial
  · exact hchecked

theorem RevokedNothing.hashed (h : m.RevokedNothing) (r : Nat)
    {raised : Bool} {hashing : Hashing η}
    (hraise : raised = true → MayRaise hashing) :
    (m.hashed crypto r raised hashing).RevokedNothing := by
  cases hashing with
  | storing a t o =>
    show RevokedNothing (if raised then _ else _)
    split
    case isTrue hraised =>
      refine h.storeFailed a fun previous ho => ?_
      have hmay := hraise hraised
      rw [ho] at hmay
      exact hmay
    case isFalse => exact h
  | verifying a t stored checkedAt =>
    show RevokedNothing (m.verified a t _ checkedAt)
    unfold verified
    split <;> exact h

theorem RevokedNothing.step (h : m.RevokedNothing) {a : TokenAct}
    (hc : m.RotatesWhatItRevokes settings a)
    (hstep : m.step crypto settings a = some m') : m'.RevokedNothing := by
  cases a with
  | storeToken agentId token =>
    cases hstep
    exact h.storeToken fun _ previous ho => by cases ho
  | getToken agentId | revokeToken agentId | cleanupExpiredTokens =>
    cases hstep
    exact h.acquire fun _ => trivial
  | validateToken agentId token =>
    cases hstep
    exact h.validateToken agentId token
  | rotateToken agentId newToken =>
    cases hstep
    exact h.acquire hc
  | wake =>
    obtain ⟨c, rest, hwaiters, -, rfl⟩ := wake_cases hstep
    have hmay : m.MayRotate settings c :=
      hc c (by rw [hwaiters]; exact rfl)
    have hpopped : RevokedNothing { m with waiters := rest } := h
    refine hpopped.run ?_
    cases c <;> exact hmay
  | hashed r raised =>
    obtain ⟨hashing, hlock, rfl⟩ := Option.map_eq_some_iff.mp hstep
    have hreleased : RevokedNothing { m with lock := none } := h
    exact hreleased.hashed r fun hraised => hc hraised hashing hlock
  | tick seconds =>
    obtain ⟨-, rfl⟩ := tick_cases hstep
    exact h

-- ==== what is accepted

/-- An agent's last token, stored then and not revoked, is the one that
was hashed. -/
def Backs (crypto : TokenCrypto ε η) (m : TokenManager ε η)
    (agentId : String) (storedAt : Rat) (tokenHash : η) : Prop :=
  ∃ i r, m.issued.get? agentId = some i ∧ i.revoked = false
    ∧ i.storedAt = storedAt
    ∧ tokenHash = crypto.createTokenHash r i.token

/-- An active entry is the last thing stored, and has its hash. -/
def Live (crypto : TokenCrypto ε η) (m : TokenManager ε η) : Prop :=
  ∀ agentId info, m.tokenStorage.get? agentId = some info →
    info.isActive = true → ∃ tokenHash,
      m.tokenHashes.get? agentId = some tokenHash
        ∧ m.Backs crypto agentId info.createdAt tokenHash

/-- A validation that hashes has the hash of a token that was young
enough. -/
def Checked (crypto : TokenCrypto ε η) (settings : TokenSettings)
    (m : TokenManager ε η) : Hashing η → Prop
  | .storing .. => True
  | .verifying agentId _ storedHash checkedAt =>
    ∃ storedAt, m.Backs crypto agentId storedAt storedHash
      ∧ checkedAt - storedAt ≤ settings.tokenTtl

structure Sound (crypto : TokenCrypto ε η) (settings : TokenSettings)
    (m : TokenManager ε η) : Prop where
  live : m.Live crypto
  hashing : ∀ h ∈ m.lock, m.Checked crypto settings h
  accepted : ∀ e ∈ m.accepted, e.Fresh settings

theorem Live.of_entries (h : m.Live crypto) (hissued : m'.issued = m.issued)
    (hentries : ∀ agentId info', m'.tokenStorage.get? agentId = some info' →
      info'.isActive = true → ∃ info,
        m.tokenStorage.get? agentId = some info ∧ info.isActive = true
          ∧ info.createdAt = info'.createdAt
          ∧ m'.tokenHashes.get? agentId = m.tokenHashes.get? agentId) :
    m'.Live crypto := by
  intro a info' hinfo' hactive'
  obtain ⟨info, hinfo, hactive, hcreated, hhash⟩ :=
    hentries a info' hinfo' hactive'
  obtain ⟨tokenHash, hget, hbacks⟩ := h a info hinfo hactive
  refine ⟨tokenHash, hhash.trans hget, ?_⟩
  unfold Backs at hbacks ⊢
  rw [hissued, ← hcreated]
  exact hbacks

theorem Live.expire (h : m.Live crypto) (agentId : String) :
    (m.expireTokenUnsafe agentId).Live crypto := by
  refine h.of_entries rfl fun a info' hinfo' hactive' => ?_
  rcases Dict.of_get?_modify hinfo' with ⟨-, info, -, rfl⟩ | ⟨-, hold⟩
  · cases hactive'
  · exact ⟨info', hold, hactive', rfl, rfl⟩

theorem Live.use (h : m.Live crypto) (agentId : String) :
    (m.use agentId).Live crypto := by
  refine h.of_entries rfl fun a info' hinfo' hactive' => ?_
  rcases Dict.of_get?_modify hinfo' with ⟨-, info, hold, rfl⟩ | ⟨-, hold⟩
  · exact ⟨info, hold, hactive', rfl, rfl⟩
  · exact ⟨info', hold, hactive', rfl, rfl⟩

theorem Live.cleanup (h : m.Live crypto) (currentTime : Rat) :
    (m.cleanupLocked settings currentTime).Live crypto := by
  refine h.of_entries rfl fun a info' hinfo' hactive' => ?_
  have hget : ((m.tokenStorage.get? a).filter fun info =>
      !decide (settings.tokenTtl < currentTime - info.createdAt))
        = some info' :=
    (Dict.get?_filter m.tokenStorage _ a).symm.trans hinfo'
  obtain ⟨hold, hyoung⟩ := Option.filter_eq_some_iff.mp hget
  refine ⟨info', hold, hactive', rfl, ?_⟩
  refine (Dict.get?_filter m.tokenHashes _ a).trans ?_
  rw [hold]
  show Option.filter _ _ = _
  rw [Option.any_some, hyoung]
  cases m.tokenHashes.get? a <;> rfl

theorem Live.revoke (h : m.Live crypto) (agentId : String) :
    (m.revokeLocked agentId).Live crypto := by
  intro a info' hinfo' hactive'
  rcases Dict.of_get?_modify hinfo' with ⟨-, info, -, rfl⟩ | ⟨hne, hold⟩
  · cases hactive'
  · obtain ⟨tokenHash, hhash, i, r, hissued, hi⟩ := h a info' hold hactive'
    refine ⟨tokenHash, hhash, i, r, ?_, hi⟩
    show (m.issued.modify agentId _).get? a = some i
    rw [Dict.get?_modify, if_neg hne, hissued]

theorem Live.stored (h : m.Live crypto) (agentId token : String)
    (r : Nat) : (m.stored crypto agentId token r).Live crypto := by
  intro a info hinfo hactive
  have hentry : (m.tokenStorage.set agentId _).get? a = some info := hinfo
  by_cases ha : a = agentId
  · subst ha
    rw [Dict.get?_set_self] at hentry
    cases hentry
    exact ⟨_, Dict.get?_set_self .., _, r, Dict.get?_set_self .., rfl, rfl,
      rfl⟩
  · rw [Dict.get?_set_of_ne _ _ ha] at hentry
    obtain ⟨tokenHash, hhash, i, r', hissued, hi⟩ := h a info hentry hactive
    refine ⟨tokenHash, (Dict.get?_set_of_ne _ _ ha).trans hhash, i, r',
      (Dict.get?_set_of_ne _ _ ha).trans hissued, hi⟩

theorem Sound.congr (h : m.Sound crypto settings)
    (hstorage : m'.tokenStorage = m.tokenStorage)
    (hhashes : m'.tokenHashes = m.tokenHashes)
    (hissued : m'.issued = m.issued) (haccepted : m'.accepted = m.accepted)
    (hlock : ∀ hashing ∈ m'.lock, hashing ∈ m.lock
      ∨ m'.Checked crypto settings hashing) :
    m'.Sound crypto settings where
  live := h.live.of_entries hissued fun a info hinfo hactive =>
    ⟨info, hstorage ▸ hinfo, hactive, rfl, by rw [hhashes]⟩
  hashing := by
    intro hashing hmem
    rcases hlock hashing hmem with hold | hnew
    · have hchecked := h.hashing hashing hold
      cases hashing with
      | storing => trivial
      | verifying =>
        unfold Checked Backs at hchecked ⊢
        rw [hissued]
        exact hchecked
    · exact hnew
  accepted := by
    rw [haccepted]
    exact h.accepted

theorem Sound.storeFailed (h : m.Sound crypto settings) (agentId : String)
    (origin : StoreOrigin) :
    (m.storeFailed agentId origin).Sound crypto settings := by
  cases origin with
  | caller => exact h
  | rotation => exact h.congr rfl rfl rfl rfl fun _ => .inl

theorem Sound.storeToken (h : m.Sound crypto settings)
    (agentId token : String) (origin : StoreOrigin) :
    (m.storeToken agentId token origin).Sound crypto settings := by
  unfold TokenManager.storeToken
  split
  · exact h.storeFailed agentId origin
  · split
    · refine h.congr rfl rfl rfl rfl fun hashing hmem => .inr ?_
      cases hmem
      trivial
    · exact h.congr rfl rfl rfl rfl fun _ => .inl

theorem Sound.of_live (h : m.Sound crypto settings)
    (hlive : m'.Live crypto) (hlock : m'.lock = none)
    (haccepted : m'.accepted = m.accepted) : m'.Sound crypto settings where
  live := hlive
  hashing _ hmem := by
    rw [hlock] at hmem
    cases hmem
  accepted := by
    rw [haccepted]
    exact h.accepted

theorem Sound.getLocked (h : m.Sound crypto settings) (hlock : m.lock = none)
    (agentId : String) :
    (m.getLocked crypto settings agentId).1.Sound crypto settings := by
  unfold TokenManager.getLocked
  split
  · exact h
  · split
    · exact h
    · split
      · exact h.of_live (h.live.expire agentId) hlock rfl
      · exact h.of_live (h.live.use agentId) hlock rfl

theorem Sound.validateLocked (h : m.Sound crypto settings)
    (hlock : m.lock = none) (agentId token : String) :
    (m.validateLocked settings agentId token).Sound crypto settings := by
  unfold TokenManager.validateLocked
  split
  case h_1 => exact h
  case h_2 info hinfo =>
    split
    · exact h
    case isFalse hactive =>
      rw [Bool.not_eq_true, Bool.not_eq_false'] at hactive
      split
      · exact h.of_live (h.live.expire agentId) hlock rfl
      case isFalse hyoung =>
        split
        · exact h
        case h_2 storedHash hhash =>
          refine h.congr rfl rfl rfl rfl fun hashing hmem => .inr ?_
          cases hmem
          obtain ⟨tokenHash, hget, hbacks⟩ :=
            h.live agentId info hinfo hactive
          cases hget.symm.trans hhash
          refine ⟨info.createdAt, hbacks, ?_⟩
          unfold isExpired at hyoung
          rw [decide_eq_true_eq, not_lt] at hyoung
          exact hyoung

theorem Sound.run (h : m.Sound crypto settings) (hlock : m.lock = none)
    (c : TokenCall) : (m.run crypto settings c).Sound crypto settings := by
  cases c with
  | store a t o =>
    refine h.congr rfl rfl rfl rfl fun hashing hmem => .inr ?_
    cases hmem
    trivial
  | get a => exact h.getLocked hlock a
  | validate a t => exact h.validateLocked hlock a t
  | revoke a => exact h.of_live (h.live.revoke a) hlock rfl
  | rotate a t =>
    have hrevoked : (m.revokeLocked a).Sound crypto settings :=
      h.of_live (h.live.revoke a) hlock rfl
    exact hrevoked.storeToken a t _
  | cleanup t => exact h.of_live (h.live.cleanup t) hlock rfl

theorem isFree_lock (h : m.isFree = true) : m.lock = none := by
  unfold isFree at h
  rw [Bool.and_eq_true, Option.isNone_iff_eq_none] at h
  exact h.1

theorem Sound.acquire (h : m.Sound crypto settings) (c : TokenCall) :
    (m.acquire crypto settings c).Sound crypto settings := by
  unfold TokenManager.acquire
  split
  case isTrue hfree => exact h.run (isFree_lock hfree) c
  case isFalse => exact h.congr rfl rfl rfl rfl fun _ => .inl

theorem Sound.hashed {hashing : Hashing η} (h : m.Sound crypto settings)
    (hlock : m.lock = some hashing) (r : Nat) (raised : Bool) :
    ({ m with lock := none }.hashed crypto r raised hashing).Sound crypto
      settings := by
  have hchecked := h.hashing hashing hlock
  have hreleased : Sound crypto settings { m with lock := none } :=
    h.of_live h.live rfl rfl
  cases hashing with
  | storing a t o =>
    show Sound crypto settings (if raised then _ else _)
    split
    · exact hreleased.storeFailed a o
    · exact hreleased.of_live (hreleased.live.stored a t r) rfl rfl
  | verifying a t storedHash checkedAt =>
    show Sound crypto settings (verified _ a t _ checkedAt)
    unfold verified
    split
    case isFalse => exact hreleased
    case isTrue hvalid =>
      rw [Bool.and_eq_true] at hvalid
      refine ⟨hreleased.live.use a, fun _ hmem => (by cases hmem), ?_⟩
      intro e he
      rcases List.mem_append.mp he with hold | hnew
      · exact h.accepted e hold
      · cases List.mem_singleton.mp hnew
        obtain ⟨storedAt, ⟨i, r', hissued, hrevoked, rfl, rfl⟩, hyoung⟩ :=
          hchecked
        have htoken := (crypto.verify_iff ..).mp hvalid.2
        exact ⟨i, hissued, htoken.symm, hrevoked, hyoung⟩

theorem Sound.init (now : Rat) :
    (TokenManager.init now : TokenManager ε η).Sound crypto settings where
  live _ _ hinfo := by cases hinfo
  hashing _ hmem := by cases hmem
  accepted _ he := by cases he

theorem Sound.step (h : m.Sound crypto settings) {a : TokenAct}
    (hstep : m.step crypto settings a = some m') :
    m'.Sound crypto settings := by
  cases a with
  | storeToken agentId token =>
    cases hstep
    exact h.storeToken agentId token .caller
  | getToken agentId | revokeToken agentId | rotateToken agentId newToken
  | cleanupExpiredTokens =>
    cases hstep
    exact h.acquire _
  | validateToken agentId token =>
    cases hstep
    have hchecked :
        (m.checkValidationRateLimit settings agentId).1.Sound crypto
          settings := h.congr rfl rfl rfl rfl fun _ => .inl
    unfold TokenManager.validateToken
    dsimp only
    split
    · exact hchecked.acquire _
    · exact hchecked
  | wake =>
    obtain ⟨c, rest, -, hlock, rfl⟩ := wake_cases hstep
    have hpopped : Sound crypto settings { m with waiters := rest } :=
      h.congr rfl rfl rfl rfl fun _ => .inl
    exact hpopped.run hlock c
  | hashed r raised =>
    obtain ⟨hashing, hlock, rfl⟩ := Option.map_eq_some_iff.mp hstep
    exact h.hashed hlock r raised
  | tick seconds =>
    obtain ⟨-, rfl⟩ := tick_cases hstep
    exact h.congr rfl rfl rfl rfl fun _ => .inl

end TokenManager

-- ==== the result

/-- What a validation accepts is the agent's token in every run. The
comparisons are within the limit in the runs whose validations get the
lock at once, and a failed rotation does no harm in the runs whose
rotations store something for what they revoke. -/
theorem token_lifecycle (crypto : TokenCrypto ε η)
    (settings : TokenSettings) (m : TokenManager ε η) :
    ((tokenRuns crypto settings).Reach m →
        ∀ e ∈ m.accepted, e.Fresh settings)
      ∧ ((tokenRuns crypto settings).ReachVia
          (TokenManager.ValidatesAtOnce settings) m →
        m.ComparesWithinLimit settings)
      ∧ ((tokenRuns crypto settings).ReachVia
          (TokenManager.RotatesWhatItRevokes settings) m →
        ∀ e ∈ m.failedRotations, e.Harmless) := by
  refine ⟨fun h => ?_, fun h => ?_, fun h => ?_⟩
  · have hsound : m.Sound crypto settings := by
      refine h.invariant (fun m h0 => ?_) fun _ _ _ hm hstep => hm.step hstep
      obtain ⟨now, rfl⟩ := h0
      exact .init now
    exact hsound.accepted
  · have hlimited : m.Limited settings := by
      refine h.invariant (fun m h0 => ?_)
        fun _ _ _ hm hc hstep => hm.step hc hstep
      obtain ⟨now, rfl⟩ := h0
      exact .init now
    exact hlimited.within
  · have hnothing : m.RevokedNothing := by
      refine h.invariant (fun m h0 => ?_)
        fun _ _ _ hm hc hstep => hm.step hc hstep
      obtain ⟨now, rfl⟩ := h0
      exact fun e he => by cases he
    intro e he i hi
    rw [hnothing e he] at hi
    cases hi

theorem tokenRuns_init (now : Rat) :
    (tokenRuns crypto settings).init (.init now) := ⟨now, rfl⟩

def plainCrypto : TokenCrypto String (Nat × String) where
  encrypt _ token := token
  decrypt token := some token
  createTokenHash r token := (r, token)
  verifyTokenHash token tokenHash := token == tokenHash.2
  verify_iff _ _ _ := beq_iff_eq

/-- Tokens are stored, accepted and rotated, and a rotation fails. -/
def rotatedToken : List TokenAct :=
  [.storeToken "a" "t", .hashed 0 false, .tick 10, .validateToken "a" "t",
    .hashed 1 false, .rotateToken "a" "u", .hashed 2 false,
    .validateToken "a" "u", .hashed 3 false, .rotateToken "b" ""]

/-- All three hold at the end of that run. -/
theorem rotatedToken_lifecycle : ∃ m : TokenManager String (Nat × String),
    m.accepted.length = 2 ∧ m.failedRotations.length = 1
      ∧ (∀ e ∈ m.accepted, e.Fresh .default)
      ∧ m.ComparesWithinLimit .default
      ∧ ∀ e ∈ m.failedRotations, e.Harmless := by
  have hrun : ((tokenRuns plainCrypto .default).exec (.init 0)
      rotatedToken).any fun m => decide (m.accepted.length = 2
        ∧ m.failedRotations.length = 1) := by
    decide +kernel
  obtain ⟨m, hexec, hm⟩ := (Option.any_eq_true _ _).mp hrun
  obtain ⟨haccepted, hfailed⟩ := of_decide_eq_true hm
  obtain ⟨hfresh, hwithin, hharmless⟩ :=
    token_lifecycle plainCrypto .default m
  refine ⟨m, haccepted, hfailed, hfresh ?_, hwithin ?_, hharmless ?_⟩
  · exact (Lts.Reach.init (tokenRuns_init 0)).exec hexec
  · exact (Lts.ReachVia.init (tokenRuns_init 0)).exec (by decide +kernel) hexec
  · exact (Lts.ReachVia.init (tokenRuns_init 0)).exec (by decide +kernel) hexec

/-- Five validations wait for the lock, which the hash of another
agent's token holds for a second; five more come when the limit has
forgotten the first. -/
def queuedValidations : List TokenAct :=
  [.storeToken "a" "t", .hashed 0 false, .storeToken "b" "u"]
    ++ List.replicate 5 (.validateToken "a" "t")
    ++ [.tick 1, .hashed 0 false]
    ++ (List.replicate 5 [.wake, .hashed 0 false]).flatten
    ++ [.tick (599 / 2)]
    ++ (List.replicate 5 [.validateToken "a" "t", .hashed 0 false]).flatten

/-- The comparisons of one window are twice what is allowed; and a
rotation to nothing takes the token away and returns False. -/
theorem token_lifecycle_broken :
    (∃ m, (tokenRuns plainCrypto .default).Reach m
        ∧ ¬ m.ComparesWithinLimit .default)
      ∧ ∃ m, (tokenRuns plainCrypto .default).Reach m
        ∧ ¬ ∀ e ∈ m.failedRotations, e.Harmless := by
  constructor
  · have hrun : ((tokenRuns plainCrypto .default).exec (.init 0)
        queuedValidations).any fun m =>
          decide (m.compared .default "a" 1 = 10) := by
      decide +kernel
    obtain ⟨m, hexec, hm⟩ := (Option.any_eq_true _ _).mp hrun
    have hten := of_decide_eq_true hm
    refine ⟨m, (Lts.Reach.init (tokenRuns_init 0)).exec hexec,
      fun hwithin => ?_⟩
    have hle : m.compared .default "a" 1 ≤ 5 := hwithin "a" 1
    omega
  · have hrun : ((tokenRuns plainCrypto .default).exec (.init 0)
        [.storeToken "a" "t", .hashed 0 false, .rotateToken "a" ""]).any
          fun m => m.failedRotations.any fun e =>
            e.previous.isSome && e.issued.all Issued.revoked := by
      decide +kernel
    obtain ⟨m, hexec, hm⟩ := (Option.any_eq_true _ _).mp hrun
    refine ⟨m, (Lts.Reach.init (tokenRuns_init 0)).exec hexec,
      fun hharmless => ?_⟩
    obtain ⟨e, he, hand⟩ := List.any_eq_true.mp hm
    rw [Bool.and_eq_true, Option.isSome_iff_exists] at hand
    obtain ⟨⟨i, hi⟩, hrevoked⟩ := hand
    obtain ⟨j, hj, -, hnot⟩ := hharmless e he i hi
    rw [hj, Option.all_some, hnot] at hrevoked
    cases hrevoked

end Freeciv3d.Gateway
