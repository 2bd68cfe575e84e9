/-
`SecureTokenManager`: an agent's token, encrypted and hashed, and how
often it may be validated.

# The lock

An `asyncio.Lock` is fair: a call takes it at once if it is free and
nobody waits, and waits in line otherwise. A call that takes it runs
on to its next await; only the two that hash do so inside the lock, in
another thread, so `lock` is one of these or nothing. What a call does
before it asks for the lock runs in one piece with the asking.

# The record

`issued` is what was last stored for an agent and whether it has been
revoked since; `comparisons`, `accepted` and `failedRotations` are what
the calls did. Nothing the manager does depends on them.

# What is left out

The statistics, `stop`, and the cancellation of a call. Times are
exact, in seconds.
-/
import Freeciv3d.Lib.Dict
import Freeciv3d.Lib.Lts
import Freeciv3d.Lib.RateLimits

namespace Freeciv3d.Gateway

open Lib

/-- Encryption and hashing; each takes some randomness. A token
verifies against the hashes of that token. -/
structure TokenCrypto (ε η : Type) where
  encrypt : Nat → String → ε
  decrypt : ε → Option String
  createTokenHash : Nat → String → η
  verifyTokenHash : String → η → Bool
  verify_iff : ∀ r token stored,
    verifyTokenHash token (createTokenHash r stored) = true
      ↔ token = stored

structure TokenInfo (ε : Type) where
  agentId : String
  encryptedToken : ε
  createdAt : Rat
  lastUsed : Rat
  usageCount : Nat
  isActive : Bool

structure Issued where
  token : String
  storedAt : Rat
  revoked : Bool

inductive StoreOrigin where
  | caller
  /-- `rotate_token`, with the token it revoked while it was valid. -/
  | rotation (previous : Option Issued)

inductive TokenCall where
  | store (agentId token : String) (origin : StoreOrigin)
  | get (agentId : String)
  | validate (agentId token : String)
  | revoke (agentId : String)
  /-- `rotate_token`, at its `revoke_token`. -/
  | rotate (agentId newToken : String)
  | cleanup (currentTime : Rat)

/-- A call that holds the lock and waits for a hash. -/
inductive Hashing (η : Type) where
  | storing (agentId token : String) (origin : StoreOrigin)
  | verifying (agentId token : String) (storedHash : η) (checkedAt : Rat)

/-- A `validate_token` that returned True. -/
structure Acceptance where
  token : String
  issued : Option Issued
  checkedAt : Rat

/-- A `rotate_token` that returned False. -/
structure FailedRotation where
  previous : Option Issued
  issued : Option Issued

structure TokenSettings where
  tokenTtl : Rat
  maxValidationAttempts : Nat
  validationWindow : Rat

/-- What `__init__` sets. -/
def TokenSettings.default : TokenSettings where
  tokenTtl := 86400
  maxValidationAttempts := 5
  validationWindow := 300

structure TokenManager (ε η : Type) where
  tokenStorage : Dict String (TokenInfo ε)
  tokenHashes : Dict String η
  validationAttempts : Dict String (List Rat)
  now : Rat
  lock : Option (Hashing η)
  waiters : List TokenCall
  issued : Dict String Issued
  /-- The validations that reached the hash comparison, and when. -/
  comparisons : List (String × Rat)
  accepted : List Acceptance
  failedRotations : List FailedRotation

/-- A call, until it has the lock or waits for it, or a step of the
loop. -/
inductive TokenAct where
  | storeToken (agentId token : String)
  | getToken (agentId : String)
  | validateToken (agentId token : String)
  | revokeToken (agentId : String)
  | rotateToken (agentId newToken : String)
  | cleanupExpiredTokens
  | wake
  /-- The thread is done: the randomness it drew, or an exception. -/
  | hashed (randomness : Nat) (raised : Bool)
  | tick (seconds : Rat)

namespace TokenManager

variable {ε η : Type} (crypto : TokenCrypto ε η) (settings : TokenSettings)
  (m : TokenManager ε η)

def init (now : Rat) : TokenManager ε η where
  tokenStorage := ∅
  tokenHashes := ∅
  validationAttempts := ∅
  now := now
  lock := none
  waiters := []
  issued := ∅
  comparisons := []
  accepted := []
  failedRotations := []

-- ==== the limit

def attempts (agentId : String) : SlidingWindow Rat where
  limit := settings.maxValidationAttempts
  windowSeconds := settings.validationWindow
  requests := (m.validationAttempts.get? agentId).getD []

def checkValidationRateLimit (agentId : String) :
    TokenManager ε η × Bool :=
  let w := m.attempts settings agentId
  let windowStart := m.now - settings.validationWindow
  let (w, allowed) :=
    w.record (w.requests.filter fun t => windowStart < t) m.now
  ({ m with
    validationAttempts := m.validationAttempts.set agentId w.requests },
    allowed)

-- ==== with the lock

def expireTokenUnsafe (agentId : String) : TokenManager ε η :=
  { m with
    tokenStorage := m.tokenStorage.modify agentId
      fun info => { info with isActive := false } }

def use (agentId : String) : TokenManager ε η :=
  { m with
    tokenStorage := m.tokenStorage.modify agentId fun info =>
      { info with lastUsed := m.now, usageCount := info.usageCount + 1 } }

/-- The token that is older than `token_ttl`. -/
def isExpired (createdAt : Rat) : Bool :=
  settings.tokenTtl < m.now - createdAt

def getLocked (agentId : String) : TokenManager ε η × Option String :=
  match m.tokenStorage.get? agentId with
  | none => (m, none)
  | some info =>
    if !info.isActive then (m, none)
    else if m.isExpired settings info.createdAt then
      (m.expireTokenUnsafe agentId, none)
    else (m.use agentId, crypto.decrypt info.encryptedToken)

/-- `validate_token`, until it hashes. -/
def validateLocked (agentId token : String) : TokenManager ε η :=
  match m.tokenStorage.get? agentId with
  | none => m
  | some info =>
    if !info.isActive then m
    else if m.isExpired settings info.createdAt then
      m.expireTokenUnsafe agentId
    else match m.tokenHashes.get? agentId with
      | none => m
      | some storedHash =>
        { m with
          lock := some (.verifying agentId token storedHash m.now)
          comparisons := m.comparisons ++ [(agentId, m.now)] }

def revokeLocked (agentId : String) : TokenManager ε η :=
  { m with
    tokenStorage := m.tokenStorage.modify agentId
      fun info => { info with isActive := false }
    issued := m.issued.modify agentId fun i => { i with revoked := true } }

/-- `_cleanup_expired_tokens`, with the time it read before. -/
def cleanupLocked (currentTime : Rat) : TokenManager ε η :=
  let isOld := fun (info : TokenInfo ε) =>
    decide (settings.tokenTtl < currentTime - info.createdAt)
  { m with
    tokenStorage := m.tokenStorage.filter fun _ info => !isOld info
    tokenHashes := m.tokenHashes.filter fun agentId _ =>
      !(m.tokenStorage.get? agentId).any isOld }

def validToken (agentId : String) : Option Issued :=
  (m.issued.get? agentId).filter fun i =>
    !i.revoked && !m.isExpired settings i.storedAt

-- ==== the waiting

def isFree : Bool := m.lock.isNone && m.waiters.isEmpty

/-- `store_token` returns False. -/
def storeFailed (agentId : String) : StoreOrigin → TokenManager ε η
  | .caller => m
  | .rotation previous =>
    { m with
      failedRotations :=
        m.failedRotations ++ [⟨previous, m.issued.get? agentId⟩] }

/-- `store_token`, until it hashes or waits. -/
def storeToken (agentId token : String) (origin : StoreOrigin) :
    TokenManager ε η :=
  if token = "" ∨ agentId = "" then m.storeFailed agentId origin
  else if m.isFree then
    { m with lock := some (.storing agentId token origin) }
  else
    { m with waiters := m.waiters ++ [.store agentId token origin] }

/-- A call with the lock, until it gives it back or hashes. -/
def run : TokenCall → TokenManager ε η
  | .store agentId token origin =>
    { m with lock := some (.storing agentId token origin) }
  | .get agentId => (m.getLocked crypto settings agentId).1
  | .validate agentId token => m.validateLocked settings agentId token
  | .revoke agentId => m.revokeLocked agentId
  | .rotate agentId newToken =>
    (m.revokeLocked agentId).storeToken agentId newToken
      (.rotation (m.validToken settings agentId))
  | .cleanup currentTime => m.cleanupLocked settings currentTime

def acquire (c : TokenCall) : TokenManager ε η :=
  if m.isFree then m.run crypto settings c
  else { m with waiters := m.waiters ++ [c] }

/-- `validate_token`, until it hashes or waits. -/
def validateToken (agentId token : String) : TokenManager ε η :=
  let (m, allowed) := m.checkValidationRateLimit settings agentId
  if allowed then m.acquire crypto settings (.validate agentId token) else m

/-- `store_token` has the hash. -/
def stored (agentId token : String) (randomness : Nat) :
    TokenManager ε η :=
  { m with
    tokenStorage := m.tokenStorage.set agentId
      { agentId := agentId
        encryptedToken := crypto.encrypt randomness token
        createdAt := m.now, lastUsed := m.now
        usageCount := 0, isActive := true }
    tokenHashes := m.tokenHashes.set agentId
      (crypto.createTokenHash randomness token)
    issued := m.issued.set agentId ⟨token, m.now, false⟩ }

/-- `validate_token` has the answer. -/
def verified (agentId token : String) (isValid : Bool) (checkedAt : Rat) :
    TokenManager ε η :=
  if isValid then
    { m.use agentId with
      accepted :=
        m.accepted ++ [⟨token, m.issued.get? agentId, checkedAt⟩] }
  else m

def hashed (randomness : Nat) (raised : Bool) :
    Hashing η → TokenManager ε η
  | .storing agentId token origin =>
    if raised then m.storeFailed agentId origin
    else m.stored crypto agentId token randomness
  | .verifying agentId token storedHash checkedAt =>
    m.verified agentId token
      (!raised && crypto.verifyTokenHash token storedHash) checkedAt

def step : TokenAct → Option (TokenManager ε η)
  | .storeToken agentId token => some (m.storeToken agentId token .caller)
  | .getToken agentId => some (m.acquire crypto settings (.get agentId))
  | .validateToken agentId token =>
    some (m.validateToken crypto settings agentId token)
  | .revokeToken agentId =>
    some (m.acquire crypto settings (.revoke agentId))
  | .rotateToken agentId newToken =>
    some (m.acquire crypto settings (.rotate agentId newToken))
  | .cleanupExpiredTokens =>
    some (m.acquire crypto settings (.cleanup m.now))
  | .wake =>
    match m.lock, m.waiters with
    | none, c :: rest =>
      some ({ m with waiters := rest }.run crypto settings c)
    | _, _ => none
  | .hashed randomness raised =>
    m.lock.map fun h =>
      { m with lock := none }.hashed crypto randomness raised h
  | .tick seconds =>
    if 0 ≤ seconds then some { m with now := m.now + seconds } else none

end TokenManager

def tokenRuns {ε η : Type} (crypto : TokenCrypto ε η)
    (settings : TokenSettings) : Lts (TokenManager ε η) TokenAct where
  init m := ∃ now, m = .init now
  step m := m.step crypto settings

end Freeciv3d.Gateway
