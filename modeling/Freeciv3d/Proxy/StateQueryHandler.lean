/-
`_handle_state_query` in a process that hosts several games: each game
has its own handlers, `CivCom`s and registry entries, and all of them
share one state cache.

# What is a parameter

What happens inside one game, and how a state is built there, is a
`GameCode`. Nothing is assumed of it (`Proxy/StateQueries.lean` has the
build of two of the formats). A build normally reads its own game only;
but the lookup of the `CivCom` that lists the units' actions goes
through the whole registry when the `CivCom` at hand has another player
id, and may end up in another game (`buildFrom`).

# The steps

A query is checked when it comes, and answered when the turn has
started or after ten seconds; in between, everything else goes on. From
there on the handler does not wait, so an answer is one step. Agents of
different games are different agents, and a player id once assigned is
not taken back. Times are in seconds; the `details` of an error are
left out.
-/
import Freeciv3d.Proxy.CivCom
import Freeciv3d.Proxy.StateCache

namespace Freeciv3d.Proxy

open Lib

/-- What the handler of an agent finds when it looks at itself. -/
structure AgentView where
  isLlmAgent : Bool
  playerId : Option Int
  /-- It has a `CivCom`, and that is not stopped. -/
  connected : Bool
  sessionId : Option String
  /-- The turn of its `CivCom`, 0 without one. -/
  gameTurn : Int

structure StateQuery where
  format : Option String
  includeActions : Option Bool
  correlationId : Option String
  deriving DecidableEq

/-- `msg_data.get('format', 'llm_optimized')`. -/
def StateQuery.queryFormat (q : StateQuery) : String :=
  q.format.getD "llm_optimized"

/-- `msg_data.get('include_actions', True)`. -/
def StateQuery.withActions (q : StateQuery) : Bool :=
  q.includeActions.getD true

/-- An answer to a `state_query`. -/
inductive StateReply (σ : Type) where
  | error (code message : String) (correlationId : Option String)
  /-- `session_id` is there in cached answers only. -/
  | state (format : String) (data : σ) (cached : Bool)
      (sessionId : Option String) (timestamp : Rat)
      (correlationId : Option String)

/-- The code of a game: its objects `γ`, what may happen to them `ε`,
and the states `σ` built from them. -/
structure GameCode (γ ε σ : Type) where
  view : γ → AgentId → AgentView
  /-- Packets, actions, connections, within the game. -/
  step : γ → ε → γ
  /-- A build looks for the player's `CivCom` in the registry. -/
  searches : γ → AgentId → String → Bool
  /-- `_build_optimized_state`, with what the handler remembers of
  it. -/
  build : γ → AgentId → String → Bool → Rat → Except String σ × γ
  /-- The same with the `CivCom` of an agent of another game. -/
  buildFrom : γ → γ → AgentId → AgentId → String → Bool → Rat →
    Except String σ × γ × γ

/-- A game, and its queries that have been checked. -/
structure Hosted (γ : Type) where
  game : γ
  waiting : List (AgentId × StateQuery)

structure QueryHost (γ σ : Type) where
  games : GameId → Hosted γ
  stateCache : StateCache σ
  /-- A ghost: the game whose query stored the entry of a key. -/
  storedBy : String → Option GameId
  now : Rat
  answers : List (GameId × AgentId × StateReply σ)

namespace QueryHost

variable {γ ε σ : Type}

/-- A process that has just started, with the limits of its cache. -/
def start (games : GameId → γ) (limits : StateCache σ) :
    QueryHost γ σ where
  games := fun g => ⟨games g, []⟩
  stateCache := { limits with cache := ∅ }
  storedBy := fun _ => none
  now := 0
  answers := []

def reply (w : QueryHost γ σ) (g : GameId) (a : AgentId)
    (r : StateReply σ) : QueryHost γ σ :=
  { w with answers := w.answers ++ [(g, a, r)] }

def setGame (w : QueryHost γ σ) (g : GameId) (h : Hosted γ) :
    QueryHost γ σ :=
  { w with games := Function.update w.games g h }

/-- The checks on a query that comes, with code and message. -/
def refusal (v : AgentView) : Option (String × String) :=
  if !v.isLlmAgent then some ("E120", "Not authenticated as LLM agent")
  else if v.playerId.isNone then
    some ("E122", "Player not assigned yet - game not ready. "
      ++ "Wait for authentication to complete.")
  else if !v.connected then
    some ("E123", "Connection to game server lost")
  else none

/-- The key of the cache: the player, the format and the turn. -/
def cacheKey (playerId : Int) (format : String) (turn : Int) : String :=
  "state_" ++ toString playerId ++ "_" ++ format ++ "_turn_"
    ++ toString turn

variable (code : GameCode γ ε σ) (codec : Codec σ)

def ask (w : QueryHost γ σ) (g : GameId) (a : AgentId) (q : StateQuery) :
    QueryHost γ σ :=
  match refusal (code.view (w.games g).game a) with
  | some (errorCode, message) =>
    w.reply g a (.error errorCode message q.correlationId)
  | none =>
    w.setGame g { w.games g with waiting := (w.games g).waiting ++ [(a, q)] }

/-- The agent of another game whose `CivCom` a build reads; `found` is
what the registry search finds. -/
def stray (w : QueryHost γ σ) (g : GameId) (a : AgentId) (q : StateQuery)
    (found : Option (GameId × AgentId)) : Option (GameId × AgentId) :=
  if code.searches (w.games g).game a q.queryFormat then
    found.filter fun f => f.1 ≠ g
  else none

/-- `_build_optimized_state`: the state, and the games it leaves. -/
def build (w : QueryHost γ σ) (g : GameId) (a : AgentId) (q : StateQuery)
    (found : Option (GameId × AgentId)) (now : Rat) :
    Except String σ × (GameId → Hosted γ) :=
  match w.stray code g a q found with
  | none =>
    let (state, own) := code.build (w.games g).game a q.queryFormat
      q.withActions now
    (state, Function.update w.games g { w.games g with game := own })
  | some (g', a') =>
    let (state, own, other) := code.buildFrom (w.games g).game
      (w.games g').game a a' q.queryFormat q.withActions now
    (state, Function.update
      (Function.update w.games g { w.games g with game := own })
      g' { w.games g' with game := other })

def cachedReply (v : AgentView) (q : StateQuery) (data : σ) (now : Rat) :
    StateReply σ :=
  .state q.queryFormat data true v.sessionId now q.correlationId

/-- `state_cache.set`; the game is noted when the state fits. -/
def store (w : QueryHost γ σ) (g : GameId) (key : String) (data : σ)
    (playerId : Int) (now : Rat) : QueryHost γ σ :=
  { w with
    stateCache := w.stateCache.set codec key data playerId now
    storedBy :=
      if w.stateCache.maxSizeBytes < (w.stateCache.entrySize codec data).1
      then w.storedBy
      else Function.update w.storedBy key (some g) }

def buildReply (w : QueryHost γ σ) (g : GameId) (a : AgentId)
    (q : StateQuery) (playerId : Int) (key : String)
    (found : Option (GameId × AgentId)) (now : Rat) : QueryHost γ σ :=
  let (state, games) := w.build code g a q found now
  let w := { w with games := games }
  match state with
  | .error e =>
    w.reply g a (.error "E121" ("State query failed: " ++ e)
      q.correlationId)
  | .ok data =>
    (w.store codec g key data playerId now).reply g a
      (.state q.queryFormat data false none now q.correlationId)

def respond (w : QueryHost γ σ) (g : GameId) (a : AgentId) (q : StateQuery)
    (v : AgentView) (playerId : Int) (found : Option (GameId × AgentId))
    (unmodified : Bool) (now : Rat) : QueryHost γ σ :=
  let key := cacheKey playerId q.queryFormat v.gameTurn
  let (cache, cached) := w.stateCache.get key now unmodified
  let w := { w with stateCache := cache, now := now }
  match cached with
  | some data => w.reply g a (cachedReply v q data now)
  | none => w.buildReply code codec g a q playerId key found now

/-- The `i`-th waiting query of a game, as it is when it goes on: who
asked what, as which player. -/
def resumed (w : QueryHost γ σ) (g : GameId) (i : Nat) :
    Option (AgentId × StateQuery × AgentView × Int) :=
  match (w.games g).waiting[i]? with
  | none => none
  | some (a, q) =>
    let v := code.view (w.games g).game a
    v.playerId.map fun p => (a, q, v, p)

def answer (w : QueryHost γ σ) (g : GameId) (i : Nat)
    (found : Option (GameId × AgentId)) (unmodified : Bool) (now : Rat) :
    Option (QueryHost γ σ) :=
  if now < w.now then none
  else (w.resumed code g i).map fun (a, q, v, p) =>
    (w.setGame g { w.games g with
      waiting := (w.games g).waiting.eraseIdx i }).respond code codec
        g a q v p found unmodified now

/-- The end of `on_close` for a handler with a player id. -/
def close (w : QueryHost γ σ) (playerId : Int) (now : Rat) :
    Option (QueryHost γ σ) :=
  if now < w.now then none
  else
    some { w with
      stateCache := w.stateCache.invalidate playerId
      now := now }

end QueryHost

inductive HostAct (ε : Type) where
  | game (g : GameId) (e : ε)
  | ask (g : GameId) (a : AgentId) (q : StateQuery)
  | answer (g : GameId) (i : Nat) (found : Option (GameId × AgentId))
      (unmodified : Bool) (now : Rat)
  | close (g : GameId) (playerId : Int) (now : Rat)
  deriving DecidableEq

namespace QueryHost

variable {γ ε σ : Type}

def apply (code : GameCode γ ε σ) (codec : Codec σ) (w : QueryHost γ σ) :
    HostAct ε → Option (QueryHost γ σ)
  | .game g e =>
    some (w.setGame g { w.games g with
      game := code.step (w.games g).game e })
  | .ask g a q => some (w.ask code g a q)
  | .answer g i found unmodified now =>
    w.answer code codec g i found unmodified now
  | .close _ playerId now => w.close playerId now

end QueryHost

/-- The runs of the process, any games interleaved, from any games and
cache limits. -/
def hostRuns {γ ε σ : Type} (code : GameCode γ ε σ) (codec : Codec σ) :
    Lts (QueryHost γ σ) (HostAct ε) where
  init w := ∃ games limits, w = QueryHost.start games limits
  step := QueryHost.apply code codec

end Freeciv3d.Proxy
