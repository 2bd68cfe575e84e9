/-
The end of a game in the gateway: its entry in `game_sessions`, its
stream and its managed proxy connection, and the calls that take them
away.

# Slices

Everything runs on one event loop. `_sessions_lock` is never held
across an await, so `ensure_game_session` and the scan of the reaper
are one slice each, as `_touch_game` is. `end_game` suspends in its
notifications, in `stop_stream` and in `remove_connection`; several
calls may be under way, and the reaper waits for the one it makes.
`stop_stream` takes the stream out of the table when it starts, and is
done with it, or fails, when it returns.

# A join

An agent that authenticates registers its connection, ensures the
entry and starts the stream; these three are steps of their own.
`startStream` is the moment the stream is there, whenever the call was
made.

# What is left out

One game is modelled, without its entries in `active_agents`, its
configuration and the warnings of the reaper. Times are exact, in
seconds.
-/
import Freeciv3d.Lib.Dict
import Freeciv3d.Lib.Lts

namespace Freeciv3d.Gateway

open Lib

/-- A player in an entry of `game_sessions`. -/
structure SessionMember where
  agentId : String
  playerId : Int

/-- An entry of `game_sessions`. Some are made without times. -/
structure SessionEntry where
  createdAt : Option Rat
  lastActivity : Option Rat
  port : Option Int
  players : Dict String SessionMember

def SessionEntry.activity (e : SessionEntry) : Rat :=
  e.lastActivity.getD (e.createdAt.getD 0)

/-- The await an `end_game` is suspended in. -/
inductive EndPhase where
  | notifying
  /-- `stop_stream`, with the stream it found. -/
  | stopping (found : Bool)
  | removing
  deriving DecidableEq

structure EndCall where
  byReaper : Bool
  phase : EndPhase

/-- Where `_stale_game_reaper` is, as far as this game goes. -/
inductive ReaperPhase where
  | asleep
  /-- The game is in `stale_ids`. -/
  | flagged
  | ending
  deriving DecidableEq

structure GameEnding where
  session : Option SessionEntry
  stream : Bool
  connection : Bool
  calls : List EndCall
  reaper : ReaperPhase
  now : Rat
  /-- An `end_game` has finished, and nobody has registered a connection
  or ensured the entry since. -/
  ended : Bool
  /-- How long the entries the reaper removed had been idle. -/
  reaped : List Rat

inductive EndingAct where
  | touchGame
  | ensureGameSession (port : Int) (agentId : String) (playerId : Int)
  | addConnection
  | startStream
  /-- `end_game`, until it suspends or returns. -/
  | endGame
  /-- The call at a position resumes; `stop_stream` succeeded or
  raised. -/
  | resume (i : Nat) (succeeded : Bool)
  | reaperScan
  | reaperCheck
  | tick (seconds : Rat)

namespace GameEnding

def init (now : Rat) : GameEnding where
  session := none
  stream := false
  connection := false
  calls := []
  reaper := .asleep
  now := now
  ended := false
  reaped := []

variable (timeout : Rat) (g : GameEnding)

def touchGame : GameEnding :=
  { g with
    session := g.session.map fun e => { e with lastActivity := some g.now } }

def ensureGameSession (port : Int) (agentId : String) (playerId : Int) :
    GameEnding :=
  let key := toString playerId
  let entry := match g.session with
    | some e =>
      { e with
        players := e.players.set key ⟨agentId, playerId⟩
        lastActivity := some g.now }
    | none =>
      { createdAt := some g.now, lastActivity := some g.now
        port := some port
        players := (∅ : Dict String SessionMember).set key
          ⟨agentId, playerId⟩ }
  { g with session := some entry, ended := false }

def addConnection : GameEnding :=
  { g with connection := true, ended := false }

def startStream : GameEnding := { g with stream := true }

/-- `end_game` begins: without an entry it returns. -/
def endGame : GameEnding :=
  match g.session with
  | none => { g with ended := true }
  | some _ => { g with calls := g.calls ++ [⟨false, .notifying⟩] }

def finish (i : Nat) (c : EndCall) : GameEnding :=
  { g with
    calls := g.calls.eraseIdx i
    reaper := if c.byReaper then .asleep else g.reaper
    ended := true }

def enter (i : Nat) (c : EndCall) (phase : EndPhase) : GameEnding :=
  { g with calls := g.calls.set i { c with phase := phase } }

/-- The slice of an `end_game` after an await. A missing entry raises,
which the handler around the whole call answers. -/
def resume (i : Nat) (c : EndCall) (succeeded : Bool) : GameEnding :=
  match c.phase with
  | .notifying =>
    match g.session with
    | none => g.finish i c
    | some _ => { g with stream := false }.enter i c (.stopping g.stream)
  | .stopping found =>
    let g := { g with stream := g.stream || (found && !succeeded) }
    match g.session with
    | none => g.finish i c
    | some e =>
      { g with
        session := none
        reaped :=
          if c.byReaper then g.reaped ++ [g.now - e.activity]
          else g.reaped }.enter i c .removing
  | .removing => { g with connection := false }.finish i c

def reaperScan : GameEnding :=
  if g.session.any fun e => timeout < g.now - e.activity then
    { g with reaper := .flagged }
  else g

def reaperCheck : GameEnding :=
  if g.session.any fun e => timeout < g.now - e.activity then
    { g with
      calls := g.calls ++ [⟨true, .notifying⟩]
      reaper := .ending }
  else { g with reaper := .asleep }

def step : EndingAct → Option GameEnding
  | .touchGame => some g.touchGame
  | .ensureGameSession port agentId playerId =>
    some (g.ensureGameSession port agentId playerId)
  | .addConnection => some g.addConnection
  | .startStream => some g.startStream
  | .endGame => some g.endGame
  | .resume i succeeded =>
    g.calls[i]?.map fun c => g.resume i c succeeded
  | .reaperScan =>
    if g.reaper = .asleep then some (g.reaperScan timeout) else none
  | .reaperCheck =>
    if g.reaper = .flagged then some (g.reaperCheck timeout) else none
  | .tick seconds =>
    if 0 ≤ seconds then some { g with now := g.now + seconds } else none

end GameEnding

/-- The runs of one game, from a state in which nothing is under
way. -/
def endingRuns (timeout : Rat) : Lts GameEnding EndingAct where
  init g := g.calls = [] ∧ g.reaper = .asleep ∧ g.ended = false
    ∧ g.reaped = []
  step g := g.step timeout

end Freeciv3d.Gateway
