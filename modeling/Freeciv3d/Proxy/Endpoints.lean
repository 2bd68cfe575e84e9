/-
The REST endpoints of a game: `state`, `legal_actions`,
`force_end_turn` and `terminate`, from the request to the work it is
let through to.

# A request

A handler is a row of checks, each of which may answer and return; the
order is the source's, since a check that is not reached leaves its
state alone (an expired session, a token of the rate limiter). What
gets through is written to `performed` and then done.

# The work

Building a state, listing actions and tearing a game down are
`Backend`. Ending turns is done here: it only touches `CivCom`s.
-/
import Freeciv3d.Lib.Guarded
import Freeciv3d.Proxy.RateLimiters
import Freeciv3d.Proxy.Auth
import Freeciv3d.Proxy.Registry

namespace Freeciv3d.Proxy.Http

open Lib

-- ==== requests

/-- A value in a JSON object; the handlers only use strings. -/
inductive JsonField where
  | str (s : String)
  | notStr

/-- A request body, as `json.loads` sees it. -/
inductive Body where
  | empty
  | malformed
  | notObject
  | object (fields : Dict String JsonField)

/-- A request to one of the endpoints, the game id from its path. -/
structure Request where
  gameId : String
  /-- `get_argument`. -/
  arguments : Dict String String
  headers : Dict String String
  remoteIp : Option String
  body : Body

def Request.clientIp (r : Request) : String :=
  (r.remoteIp.filter (· ≠ "")).getD "unknown"

inductive StateFormat where
  | full | delta | llmOptimized
  deriving DecidableEq

/-- `StateFormat(value)`. -/
def StateFormat.ofValue (value : String) : Option StateFormat :=
  if value = "full" then some .full
  else if value = "delta" then some .delta
  else if value = "llm_optimized" then some .llmOptimized
  else none

inductive Reply where
  | error (status : Nat) (error : String)
  /-- 503, with `retry`. -/
  | unavailable
  /-- 429, with `Retry-After`. -/
  | rateLimited (retryAfter : Rat) (limitType : String)
  | state (state : String)
  | actions (actions : String)
  | results (results : Dict AgentId Int)
  | terminated (summary : String)
  deriving DecidableEq

inductive TerminateMode where
  | hard | soft
  deriving DecidableEq

inductive ApiAction where
  | extractState (gameId : GameId) (playerId : Int) (format : StateFormat)
      (sinceTurn : Option Int)
  | getLegalActions (gameId : GameId) (playerId : Int)
  /-- An agent's turn is ended on the `CivCom` of this player. -/
  | endTurn (gameId : GameId) (agentId : AgentId) (playerId : Option Int)
  | terminate (gameId : GameId) (mode : TerminateMode)
  deriving DecidableEq

-- ==== state

structure Packet where
  pid : Nat
  turn : Int

def packetPlayerPhaseDone : Nat := 52

structure TurnSide where
  gameTurn : Int
  turnStarted : Bool
  turnAdvanceEvent : Bool
  civserverMessages : List Packet
  sent : List Packet

namespace TurnSide

def queueToCivserver (t : TurnSide) (p : Packet) : TurnSide :=
  { t with civserverMessages := t.civserverMessages ++ [p] }

/-- `send_packets_to_civserver`: without a socket the queue stays, and
after a failure it is gone. -/
def sendPacketsToCivserver (t : TurnSide) (socket sendsOk : Bool) : TurnSide :=
  if !socket then t
  else
    { t with
      sent := if sendsOk then t.sent ++ t.civserverMessages else t.sent
      civserverMessages := [] }

def endTurn (t : TurnSide) (socket sendsOk : Bool) : TurnSide :=
  { (t.queueToCivserver ⟨packetPlayerPhaseDone, t.gameTurn⟩).sendPacketsToCivserver
      socket sendsOk with
    turnStarted := false
    turnAdvanceEvent := false }

end TurnSide

structure ApiWorld where
  authenticator : SimpleAuthenticator
  apiRateLimiter : APIRateLimiter
  civcoms : Heap
  registry : Registry
  turns : CivComId → TurnSide
  performed : List ApiAction

structure Backend where
  extractState : GameId → Int → StateFormat → Option Int →
    Except Raised String
  getLegalActions : GameId → Int → Except Raised String
  terminate : GameId → TerminateMode → Except Raised String
  sendsOk : CivComId → Bool

structure Setting where
  env : Env
  maxTurnNumber : Int
  backend : Backend
  now : Rat

abbrev Handler (α : Type) := Guarded Reply ApiWorld α

def perform (a : ApiAction) : Handler Unit :=
  Guarded.step fun w : ApiWorld =>
    ((), { w with performed := w.performed ++ [a] })

variable (c : Setting)

-- ==== authentication

/-- Authentication is off, which only counts in development. -/
def authBypassed : Bool :=
  PyStr.lower ((c.env.getenv "AUTH_ENABLED").getD "true") ≠ "true"
    && PyStr.lower ((c.env.getenv "ENVIRONMENT").getD "production")
      = "development"

/-- The key of a request: an argument, or the `Authorization` header. -/
def Request.apiKey (r : Request) : Option String :=
  match (r.arguments.get? "api_key").filter (· ≠ "") with
  | some key => some key
  | none =>
    (r.headers.get? "Authorization").map fun key =>
      if PyStr.startsWith key "Bearer " then PyStr.dropChars 7 key else key

/-- The session of a request: an argument, or the `X-Session-ID`
header. -/
def Request.sessionId (r : Request) : Option String :=
  match (r.arguments.get? "session_id").filter (· ≠ "") with
  | some id => some id
  | none => r.headers.get? "X-Session-ID"

/-- `authenticate_request`: the caller, or nobody. An exception counts
as nobody. -/
def authenticateRequest (r : Request) (requiredPermission : String)
    (a : SimpleAuthenticator) : Option Caller × SimpleAuthenticator :=
  if authBypassed c then (some .admin, a)
  else match a.authenticateRequest c.env r.apiKey r.sessionId
      requiredPermission c.now with
    | (.ok caller, a) => (caller, a)
    | (.error _, a) => (none, a)

def requireCaller (r : Request) (requiredPermission : String) :
    Handler Caller := do
  let caller ← Guarded.step fun w : ApiWorld =>
    let (caller, a) :=
      authenticateRequest c r requiredPermission w.authenticator
    (caller, { w with authenticator := a })
  Guarded.ofOption (.error 401 "Authentication required") caller

-- ==== the parameters of a GET

/-- A Python value; values of different types are never equal. -/
inductive PyVal where
  | int (n : Int)
  | str (s : String)
  deriving DecidableEq

/-- `auth_player_id is not None and player_id != str(auth_player_id)`,
with the sanitized `player_id`, which is an `int`. -/
def playerMismatch (caller : Caller) (playerId : Int) : Bool :=
  caller.playerId.any fun p => PyVal.int playerId ≠ PyVal.str (toString p)

structure Query where
  gameId : GameId
  playerId : Int
  format : StateFormat
  sinceTurn : Option Int

/-- The characters of a game id in `validate_request_parameters`. -/
def gameIdChars (gameId : String) : Bool :=
  gameId.toList.all fun ch =>
    c.env.chars.isAlnum ch || ch == '_' || ch == '-'

/-- `validate_request_parameters`, with the text of its
`ValidationError`. -/
def validateRequestParameters (gameId : String) (playerId : Int)
    (format : String) (sinceTurn : Option Int) : Except String Query :=
  if PyStr.isBlank gameId then .error "Game ID must be a non-empty string"
  else if 50 < gameId.length || !gameIdChars c gameId then
    .error
      "Game ID must be alphanumeric with underscores/hyphens, max 50 characters"
  else match InputSanitizer.sanitizePlayerNumber playerId with
    | .error e => .error ("Parameter validation failed: " ++ e.message)
    | .ok playerId =>
      match StateFormat.ofValue format with
      | none => .error "Format must be one of: full, delta, llm_optimized"
      | some format =>
        if sinceTurn.any fun t => t < 0 || 10000 < t then
          .error "Since turn must be between 0 and 10000"
        else .ok ⟨PyStr.strip gameId, playerId, format, sinceTurn⟩

/-- The answer to an exception the handlers do not expect, by its
text. -/
def unexpected (message : String) : Reply :=
  if PyStr.hasSubstring message "No civcom available"
      || PyStr.hasSubstring message "Game not found" then
    .error 404 "Game not found"
  else if PyStr.hasSubstring message "Player not found" then
    .error 404 "Player not found"
  else .error 500 "Internal server error"

/-- `check_limits` on the caller's address and the player asked for. -/
def requireLimits (onException : Raised → Reply) (r : Request)
    (playerId : Int) : Handler Unit := do
  let answer ← Guarded.step fun w : ApiWorld =>
    let (answer, l) :=
      w.apiRateLimiter.checkLimits playerId r.clientIp c.now
    (answer, { w with apiRateLimiter := l })
  match answer with
  | .error e => throw (onException e)
  | .ok (.limited retryAfter limitType) =>
    throw (.rateLimited retryAfter limitType)
  | .ok .allowed => pure ()

/-- The checks both GETs make once they have read their parameters. -/
def acceptQuery (onException : Raised → Reply) (requiredPermission : String)
    (r : Request) (playerId : Int) (format : String)
    (sinceTurn : Option Int) : Handler Query := do
  let caller ← requireCaller c r requiredPermission
  Guarded.require (playerMismatch caller playerId = false)
    (.error 403 "Player ID in request does not match authenticated user")
  let q ← Guarded.ofExcept (.error 400)
    (validateRequestParameters c r.gameId playerId format sinceTurn)
  requireLimits c onException r q.playerId
  pure q

/-- The `player_id` of a GET. A `SecurityError` is not among the
exceptions answered 400. -/
def playerArgument (onException : Raised → Reply) (r : Request) :
    Handler Int := do
  let raw ← Guarded.ofOption (.error 400 "player_id parameter is required")
    (r.arguments.get? "player_id")
  Guarded.ofExcept onException
    (InputSanitizer.sanitizePlayerId c.env.chars raw)

-- ==== the handlers

namespace StateExtractorHandler

/-- The `except` clauses of `get`. -/
def onException : Raised → Reply
  | .valueError _ => .error 400 "Invalid request parameters"
  | .connectionError _ => .unavailable
  | .exception message => unexpected message

/-- `since_turn`: absent, or a turn that may be asked for. -/
def sinceTurn (raw : Option String) : Except String (Option Int) :=
  match raw with
  | none => .ok none
  | some raw =>
    match PyStr.toInt c.env.chars raw with
    | some t =>
      if t < 0 ∨ c.maxTurnNumber < t then .error (invalid c)
      else .ok (some t)
    | none => .error (invalid c)
where
  invalid (c : Setting) : String :=
    "Invalid since_turn parameter. Must be integer 0-"
      ++ toString c.maxTurnNumber

/-- `get`, up to the extraction. -/
def accept (r : Request) : Handler Query := do
  let playerId ← playerArgument c onException r
  let format := (r.arguments.get? "format").getD "full"
  Guarded.require (StateFormat.ofValue format).isSome
    (.error 400 ("Invalid format '" ++ format
      ++ "'. Allowed: full, delta, llm_optimized"))
  let since ← Guarded.ofExcept (.error 400)
    (sinceTurn c (r.arguments.get? "since_turn"))
  acceptQuery c onException "state_read" r playerId format since

def get (r : Request) : Handler Reply := do
  let q ← accept c r
  perform (.extractState q.gameId q.playerId q.format q.sinceTurn)
  let state ← Guarded.ofExcept onException
    (c.backend.extractState q.gameId q.playerId q.format q.sinceTurn)
  pure (.state state)

end StateExtractorHandler

namespace LegalActionsHandler

/-- The `except` clauses of `get`. -/
def onException : Raised → Reply
  | .connectionError _ => .unavailable
  | .valueError message => unexpected message
  | .exception message => unexpected message

/-- `get`, up to the extraction. -/
def accept (r : Request) : Handler Query := do
  let playerId ← playerArgument c onException r
  acceptQuery c onException "actions_read" r playerId "full" none

def get (r : Request) : Handler Reply := do
  let q ← accept c r
  perform (.getLegalActions q.gameId q.playerId)
  let actions ← Guarded.ofExcept onException
    (c.backend.getLegalActions q.gameId q.playerId)
  pure (.actions actions)

end LegalActionsHandler

/-- The `except` clauses of the two POSTs. -/
def onPostException : Raised → Reply
  | .connectionError _ => .unavailable
  | .valueError _ => .error 500 "Internal server error"
  | .exception _ => .error 500 "Internal server error"

def gameIdArgument (r : Request) : Handler GameId :=
  Guarded.ofExcept (fun _ => .error 400 "Invalid game_id format")
    (InputSanitizer.sanitizeGameId c.env.chars r.gameId)

/-- The fields of a body. `get` on anything but an object is an
`AttributeError`. -/
def Body.fields : Body → Except Reply (Dict String JsonField)
  | .empty => .ok ∅
  | .malformed => .error (.error 400 "Invalid JSON body")
  | .notObject =>
    .error (onPostException (.exception "object has no attribute 'get'"))
  | .object fields => .ok fields

namespace ForceEndTurnHandler

def maxAgentIdLen : Nat := 50

/-- The agent a request names, or `"all"`. -/
def agentArgument (fields : Dict String JsonField) : Except String AgentId :=
  match fields.get? "agent_id" with
  | some (.str agentId) =>
    if agentId = "" then .error "agent_id is required (string or \"all\")"
    else if maxAgentIdLen < agentId.length then .error "agent_id too long"
    else if agentId ≠ "all" ∧ ¬ agentId.toList.all fun ch =>
        c.env.chars.isAlnum ch || ch == '_' || ch == '-' then
      .error "agent_id contains invalid characters"
    else .ok agentId
  | some .notStr => .error "agent_id is required (string or \"all\")"
  | none => .error "agent_id is required (string or \"all\")"

/-- The `CivCom`s whose turn is to be ended: one agent's, or those of
all agents of the game but the observer. -/
def targets (w : ApiWorld) (gameId : GameId) (agentId : AgentId) :
    Except String (List (AgentId × CivComId)) :=
  if agentId = "all" then
    let found := (w.registry.getAllForGame gameId).entries.filter fun e =>
      !(w.civcoms e.2).stopped && e.1.2 != "__observer__"
    if found.isEmpty then
      .error "No active CivCom instances found for this game"
    else .ok (found.map fun e => (e.1.2, e.2))
  else match w.registry.getCivcom gameId agentId with
    | none => .error "No active CivCom for the specified agent in this game"
    | some civcom =>
      if (w.civcoms civcom).stopped then
        .error "No active CivCom for the specified agent in this game"
      else .ok [(agentId, civcom)]

/-- The game and the `CivCom`s a request is let through to. -/
structure Order where
  gameId : GameId
  targets : List (AgentId × CivComId)

/-- `post`, up to the packets. -/
def accept (r : Request) : Handler Order := do
  let gameId ← gameIdArgument c r
  let _ ← requireCaller c r "actions_read"
  let fields ← Guarded.ofExcept id r.body.fields
  let agentId ← Guarded.ofExcept (.error 400) (agentArgument c fields)
  let w ← Guarded.step fun w : ApiWorld => (w, w)
  let targets ← Guarded.ofExcept (.error 404) (targets w gameId agentId)
  pure ⟨gameId, targets⟩

/-- End the turn of one target; the answer is the turn. -/
def endTurn (gameId : GameId) (target : AgentId × CivComId) :
    Handler (AgentId × Int) :=
  Guarded.step fun w : ApiWorld =>
    let t := w.turns target.2
    ((target.1, t.gameTurn),
      { w with
        turns := Function.update w.turns target.2
          (t.endTurn (w.civcoms target.2).socket
            (c.backend.sendsOk target.2))
        performed := w.performed
          ++ [.endTurn gameId target.1 (w.civcoms target.2).playerId] })

/-- End the turns of the targets, one after the other. -/
def endTurns (gameId : GameId) :
    List (AgentId × CivComId) → Handler (List (AgentId × Int))
  | [] => pure []
  | target :: rest => do
      let result ← endTurn c gameId target
      let results ← endTurns gameId rest
      pure (result :: results)

def post (r : Request) : Handler Reply := do
  let order ← accept c r
  let results ← endTurns c order.gameId order.targets
  pure (.results (Dict.ofList results))

end ForceEndTurnHandler

namespace TerminateGameHandler

/-- The mode of a request: hard unless it says soft. -/
def modeArgument (fields : Dict String JsonField) :
    Except String TerminateMode :=
  match (fields.get? "mode").getD (.str "hard") with
  | .str mode =>
    if mode = "hard" then .ok .hard
    else if mode = "soft" then .ok .soft
    else .error "Invalid mode: must be 'hard' or 'soft'"
  | .notStr => .error "Invalid mode: must be 'hard' or 'soft'"

/-- `post`, up to the termination. -/
def accept (r : Request) : Handler (GameId × TerminateMode) := do
  let gameId ← gameIdArgument c r
  let _ ← requireCaller c r "actions_read"
  let fields ← Guarded.ofExcept id r.body.fields
  let mode ← Guarded.ofExcept (.error 400) (modeArgument fields)
  pure (gameId, mode)

def post (r : Request) : Handler Reply := do
  let order ← accept c r
  perform (.terminate order.1 order.2)
  let summary ← Guarded.ofExcept onPostException
    (c.backend.terminate order.1 order.2)
  pure (.terminated summary)

end TerminateGameHandler

-- ==== dispatch

inductive Endpoint where
  | state | legalActions | forceEndTurn | terminate

def Endpoint.requiredPermission : Endpoint → String
  | state => "state_read"
  | legalActions => "actions_read"
  | forceEndTurn => "actions_read"
  | terminate => "actions_read"

def Endpoint.handler : Endpoint → Request → Handler Reply
  | state => StateExtractorHandler.get c
  | legalActions => LegalActionsHandler.get c
  | forceEndTurn => ForceEndTurnHandler.post c
  | terminate => TerminateGameHandler.post c

/-- Handle a request: the answer, and what is left of the world. -/
def handle (w : ApiWorld) (e : Endpoint) (r : Request) : Reply × ApiWorld :=
  match (e.handler c r).eval w with
  | (.ok reply, w) => (reply, w)
  | (.error reply, w) => (reply, w)

end Freeciv3d.Proxy.Http
