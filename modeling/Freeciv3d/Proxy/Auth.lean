/-
`SimpleAuthenticator`: who a request's credential speaks for. An HMAC
API key and a session speak for a player of a game; an LLM token
speaks for nobody in particular.

HMAC-SHA256 is `Env.hexdigest`; times are rational seconds.

# API sessions

The API sessions of `SimpleAuthenticator`: created up to a maximum for
each player, validated, revoked, and swept now and then.

# Three comparisons

A session is counted until it expires, is valid in that instant too,
and is swept after it: `expires_at > now`, `now > expires_at` and
`expires_at < now`.

# The runs

Calls one at a time under a clock that does not go back; one call reads
it once. A session id is a fresh uuid: never empty, never drawn twice.
-/
import Mathlib.Algebra.Order.Ring.Rat
import Mathlib.Data.List.MinMax
import Mathlib.Data.Rat.Defs
import Freeciv3d.Lib.Dict
import Freeciv3d.Lib.Lts
import Freeciv3d.Proxy.InputSanitizer

namespace Freeciv3d.Proxy

open Lib

/-- `LLMConfig`, as far as tokens go. -/
structure LLMConfig where
  /-- `authentication.require_api_token`. -/
  isTokenRequired : Bool
  tokenMinLength : Nat
  validTokens : List String

def LLMConfig.validateToken (c : LLMConfig) (token : String) : Bool :=
  if !c.isTokenRequired then true
  else if token.length < c.tokenMinLength then false
  else token ∈ c.validTokens

structure Env where
  /-- `os.getenv`. -/
  getenv : String → Option String
  chars : PyStr.CharTables
  /-- `hmac.new(secret, payload, sha256).hexdigest()`. -/
  hexdigest : String → String → String
  /-- `None` when the configuration could not be imported. -/
  llmConfig : Option LLMConfig

structure AuthSession where
  sessionId : String
  playerId : Int
  gameId : GameId
  authenticatedAt : Rat
  expiresAt : Rat
  permissions : List String

structure SimpleAuthenticator where
  apiKeySecret : Option String
  activeSessions : Dict String AuthSession

/-- An authenticated caller: the player and the game it is bound to,
`(None, None)` for an administrator. -/
structure Caller where
  playerId : Option Int
  gameId : Option GameId
  deriving DecidableEq

def Caller.admin : Caller := ⟨none, none⟩

def Caller.scoped (p : Int) (g : GameId) : Caller := ⟨some p, some g⟩

namespace SimpleAuthenticator

def signature (env : Env) (secret payload : String) : String :=
  PyStr.takeChars 16 (env.hexdigest secret payload)

def signedKey (env : Env) (secret payload : String) : String :=
  "fcv_" ++ payload ++ "_" ++ signature env secret payload

/-- `generate_api_key`. A number that has no text is a `ValueError`. -/
def generateApiKey (env : Env) (a : SimpleAuthenticator) (playerId : Int)
    (gameId : GameId) (now : Rat) : Except Raised (Option String) :=
  match a.apiKeySecret with
  | none => .ok none
  | some secret =>
    match PyStr.ofInt playerId, PyStr.ofInt now.floor with
    | some player, some stamp =>
      .ok (some (signedKey env secret
        (player ++ ":" ++ gameId ++ ":" ++ stamp)))
    | _, _ =>
      .error (.valueError ("Exceeds the limit (4300 digits) for "
        ++ "integer string conversion; use "
        ++ "sys.set_int_max_str_digits() to increase the limit"))

/-- The player and the game of a signed payload that is not too old. A
malformed number is a `ValueError`, which makes the key invalid. -/
def readPayload (env : Env) (payload : String) (now : Rat) :
    Option (Int × GameId) :=
  match PyStr.split ':' payload with
  | [player, gameId, stamp] => do
      let playerId ← PyStr.toInt env.chars player
      let timestamp ← PyStr.toInt env.chars stamp
      let days ← PyStr.toInt env.chars
        ((env.getenv "API_KEY_MAX_AGE_DAYS").getD "365")
      if ((days * 24 * 3600 : Int) : Rat) < now - (timestamp : Rat) then none
      else some (playerId, gameId)
  | _ => none

/-- `validate_api_key`. `compare_digest` takes ASCII strings only. -/
def validateApiKey (env : Env) (a : SimpleAuthenticator) (apiKey : String)
    (now : Rat) : Except Raised (Option (Int × GameId)) :=
  match a.apiKeySecret with
  | none => .ok none
  | some secret =>
    if apiKey = "" then .ok none
    else if !PyStr.startsWith apiKey "fcv_" then .ok none
    else match PyStr.rsplitOnce '_' (PyStr.dropChars 4 apiKey) with
      | none => .ok none
      | some (payload, provided) =>
        if provided.toList.any fun c => 128 ≤ c.toNat then
          .error (.exception
            "comparing strings with non-ASCII characters is not supported")
        else if provided ≠ signature env secret payload then .ok none
        else .ok (readPayload env payload now)

/-- `validate_session`: an expired session is dropped. -/
def validateSession (a : SimpleAuthenticator) (sessionId : String)
    (now : Rat) : Option AuthSession × SimpleAuthenticator :=
  if sessionId = "" then (none, a)
  else match a.activeSessions.get? sessionId with
    | none => (none, a)
    | some s =>
      if s.expiresAt < now then
        (none, { a with activeSessions := a.activeSessions.erase sessionId })
      else (some s, a)

def validateLlmToken (env : Env) (token : String) : Bool :=
  match env.llmConfig with
  | none => false
  | some config => config.validateToken token

/-- `authenticate_request`, the session part. -/
def authenticateSession (a : SimpleAuthenticator) (sessionId : Option String)
    (requiredPermission : String) (now : Rat) :
    Option Caller × SimpleAuthenticator :=
  match sessionId with
  | none => (none, a)
  | some sessionId =>
    match a.validateSession sessionId now with
    | (some s, a) =>
      if requiredPermission ∈ s.permissions then
        (some (.scoped s.playerId s.gameId), a)
      else (none, a)
    | (none, a) => (none, a)

/-- `authenticate_request`: an API key first, then an LLM token, then a
session; only a session's permissions are looked at. -/
def authenticateRequest (env : Env) (a : SimpleAuthenticator)
    (apiKey sessionId : Option String) (requiredPermission : String)
    (now : Rat) : Except Raised (Option Caller) × SimpleAuthenticator :=
  let session :=
    let (caller, a) :=
      a.authenticateSession sessionId requiredPermission now
    (Except.ok caller, a)
  match apiKey.filter (· ≠ "") with
  | none => session
  | some key =>
    match a.validateApiKey env key now with
    | .error e => (.error e, a)
    | .ok (some (playerId, gameId)) =>
      (.ok (some (.scoped playerId gameId)), a)
    | .ok none =>
      if validateLlmToken env key then (.ok (some .admin), a)
      else session

end SimpleAuthenticator

-- ==== API sessions

/-- `SESSION_TIMEOUT_SECONDS` and `MAX_SESSIONS_PER_PLAYER`, any two
integers. -/
structure AuthLimits where
  sessionTimeout : Int
  maxSessionsPerPlayer : Int

def AuthLimits.default : AuthLimits := ⟨3600, 3⟩

/-- `SimpleAuthenticator`, with the time of its last clean-up. -/
structure AuthSessions extends SimpleAuthenticator where
  lastCleanup : Rat

def authCleanupInterval : Rat := 300

namespace AuthSessions

def ofPlayer (playerId : Int) (s : AuthSession) : Bool :=
  s.playerId == playerId

def cleanupExpiredSessions (a : AuthSessions) (now : Rat) : AuthSessions :=
  if now - a.lastCleanup < authCleanupInterval then a
  else { a with
    activeSessions := a.activeSessions.filter fun _ s =>
      !decide (s.expiresAt < now)
    lastCleanup := now }

def playerSessions (a : AuthSessions) (playerId : Int) (now : Rat) :
    List AuthSession :=
  a.activeSessions.values.filter fun s =>
    ofPlayer playerId s && decide (now < s.expiresAt)

/-- The sessions without the oldest of `l`; `min` of nothing raises. -/
def removeOldest (a : AuthSessions) (l : List AuthSession) :
    Option AuthSessions :=
  (l.argmin AuthSession.authenticatedAt).map fun oldest =>
    { a with
      activeSessions := a.activeSessions.erase oldest.sessionId }

def addSession (l : AuthLimits) (a : AuthSessions) (playerId : Int)
    (gameId : GameId) (permissions : Option (List String))
    (sessionId : String) (now : Rat) : AuthSessions :=
  { a with
    activeSessions := a.activeSessions.set sessionId
      { sessionId := sessionId
        playerId := playerId
        gameId := gameId
        authenticatedAt := now
        expiresAt := now + l.sessionTimeout
        permissions := (permissions.filter (· ≠ [])).getD
          ["state_read", "actions_read"] } }

/-- `create_session`; what it raises leaves the sweep done. -/
def createSession (l : AuthLimits) (a : AuthSessions) (playerId : Int)
    (gameId : GameId) (permissions : Option (List String))
    (sessionId : String) (now : Rat) :
    AuthSessions × Except Raised String :=
  let a := a.cleanupExpiredSessions now
  let counted := a.playerSessions playerId now
  if l.maxSessionsPerPlayer ≤ counted.length then
    match a.removeOldest counted with
    | none =>
      (a, .error (.valueError "min() iterable argument is empty"))
    | some a =>
      (a.addSession l playerId gameId permissions sessionId now,
        .ok sessionId)
  else
    (a.addSession l playerId gameId permissions sessionId now,
      .ok sessionId)

def validateSession (a : AuthSessions) (sessionId : String) (now : Rat) :
    Option AuthSession × AuthSessions :=
  (a.toSimpleAuthenticator.validateSession sessionId now).map id fun b =>
    { a with toSimpleAuthenticator := b }

def revokeSession (a : AuthSessions) (sessionId : String) :
    AuthSessions × Bool :=
  if a.activeSessions.contains sessionId then
    ({ a with activeSessions := a.activeSessions.erase sessionId }, true)
  else (a, false)

def revokeAllSessions (a : AuthSessions) (playerId : Int) :
    AuthSessions × Nat :=
  ({ a with
     activeSessions := a.activeSessions.filter fun _ s =>
       !ofPlayer playerId s },
    a.activeSessions.countVals (ofPlayer playerId))

def validSessions (a : AuthSessions) (playerId : Int) (now : Rat) : Nat :=
  a.activeSessions.entries.countP fun e =>
    ofPlayer playerId e.2 && (a.validateSession e.1 now).1.isSome

end AuthSessions

-- ==== the runs

/-- The sessions, the time, and the ids drawn so far. -/
structure AuthRun where
  sessions : AuthSessions
  now : Rat
  issued : List String

inductive AuthAct where
  | tick (d : Rat)
  | create (playerId : Int) (gameId : GameId)
      (permissions : Option (List String)) (sessionId : String)
  | validate (sessionId : String)
  | revoke (sessionId : String)
  | revokeAll (playerId : Int)

def authRuns (l : AuthLimits) : Lts AuthRun AuthAct where
  init s :=
    s.sessions.activeSessions = ∅ ∧ s.sessions.lastCleanup = s.now
      ∧ s.issued = []
  step s
    | .tick d => if 0 ≤ d then some { s with now := s.now + d } else none
    | .create playerId gameId permissions sessionId =>
      if sessionId = "" ∨ sessionId ∈ s.issued then none
      else some { s with
        sessions := (s.sessions.createSession l playerId gameId
          permissions sessionId s.now).1
        issued := sessionId :: s.issued }
    | .validate sessionId =>
      some { s with
        sessions := (s.sessions.validateSession sessionId s.now).2 }
    | .revoke sessionId =>
      some { s with sessions := (s.sessions.revokeSession sessionId).1 }
    | .revokeAll playerId =>
      some { s with
        sessions := (s.sessions.revokeAllSessions playerId).1 }

end Freeciv3d.Proxy
