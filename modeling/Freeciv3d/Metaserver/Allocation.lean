/-
The port allocation endpoints of the metaserver: `/meta/allocate`
(`ServerAllocator.doPost`) and `/meta/release` (`ServerRelease.doPost`)
over the two tables they share, `servers` and `game_allocations`.

# What is one step

Each SQL statement outside a transaction commits alone, so the stale
clean-up, the allocation transaction and the two UPDATEs of a release
are four separate functions on the tables; `Metaserver/Runs.lean`
interleaves them.

# What is left to the environment

Whether a port listens on this pod is a list of ports handed to the
allocation, the stale threshold (a JVM property) is a parameter, and
`NOW()` is the field `now` of the tables, in seconds.
-/
import Mathlib.Data.List.Sort
import Freeciv3d.Lib.Dict

namespace Freeciv3d.Metaserver

open Lib

abbrev GameId := String
abbrev Host := String

/-- A port as the tables hold it: an SQL `INT`. -/
abbrev Port := Int

/-- The primary key of `servers`. -/
abbrev Address := Host × Port

-- ==== the two tables

/-- A row of `servers`: the columns the two servlets read or write. -/
structure Server where
  type : String
  state : String
  available : Int
  stamp : Nat
  deriving DecidableEq

/-- A row of `game_allocations`; the nullable columns are options. -/
structure Allocation where
  port : Port
  host : Host
  allocatedAt : Nat
  releasedAt : Option Nat
  lastSeen : Option Nat
  deriving DecidableEq

structure Db where
  servers : Dict Address Server
  gameAllocations : Dict GameId Allocation
  now : Nat
  deriving DecidableEq

def Allocation.address (a : Allocation) : Address := (a.host, a.port)

/-- `available != 0 AND state = 'Pregame'`. -/
def Server.free (s : Server) : Bool :=
  s.available != 0 && s.state == "Pregame"

-- ==== validation

/-- `[a-zA-Z0-9\-_]`. -/
def isGameIdChar (c : Char) : Bool :=
  ('a' ≤ c && c ≤ 'z') || ('A' ≤ c && c ≤ 'Z') || ('0' ≤ c && c ≤ '9')
    || c == '-' || c == '_'

/-- `gameId.matches("^[a-zA-Z0-9\\-_]{1,64}$")`. -/
def gameIdMatches (g : String) : Bool :=
  1 ≤ g.length && g.length ≤ 64 && g.toList.all isGameIdChar

def invalidGameId : String :=
  "Invalid game_id format. Must be alphanumeric with " ++
    "hyphens/underscores, max 64 chars."

namespace ServerAllocator

def maxAllocationAgeSeconds : Nat := 86400

/-- The request parameters, absent ones `none`. -/
structure Params where
  type : Option String
  gameId : Option GameId

structure Request where
  gameType : String
  gameId : Option GameId
  deriving DecidableEq

def gameTypes : List String :=
  ["singleplayer", "multiplayer", "pbem", "longturn"]

def invalidType : String :=
  "Invalid game type. Must be one of: singleplayer, multiplayer, " ++
    "pbem, longturn"

/-- The checks at the head of `doPost`, with the text of the 400. -/
def validate (p : Params) : Except String Request :=
  let gameType := p.type.getD "multiplayer"
  if !gameTypes.contains gameType then
    .error invalidType
  else if !(p.gameId.all gameIdMatches) then
    .error invalidGameId
  else
    .ok { gameType := gameType, gameId := p.gameId }

/-- The JSON of a success, `game_id` and `reused` only when the source
puts them. -/
structure Success where
  host : Host
  port : Port
  proxyPort : Port
  type : String
  gameId : Option GameId
  reused : Option Bool

inductive Answer where
  | allocated (s : Success)
  | unavailable (error : String)

-- -------------------- the stale clean-up

/-- A row the clean-up's WHERE accepts: not released and last seen
before the threshold. A NULL `last_seen` compares to nothing. -/
def stale (thresholdMinutes : Nat) (now : Nat) (a : Allocation) : Bool :=
  a.releasedAt.isNone
    && a.lastSeen.any fun seen => seen + thresholdMinutes * 60 < now

def heldPregame (s : Server) : Bool :=
  s.available == 0 && s.state == "Pregame"

/-- `UPDATE servers s INNER JOIN game_allocations ga … SET …`: a server
row is written when some row joins it, an allocation row when it joins
some server row, both by the values before the statement. -/
def cleanupStaleAllocations (thresholdMinutes : Nat) (db : Db) : Db :=
  { db with
    servers := db.servers.mapVals fun addr s =>
      if heldPregame s && db.gameAllocations.values.any (fun a =>
          decide (a.address = addr) && stale thresholdMinutes db.now a)
      then { s with available := 1, state := "Pregame", stamp := db.now }
      else s
    gameAllocations := db.gameAllocations.mapVals fun _ a =>
      if stale thresholdMinutes db.now a
          && (db.servers.get? a.address).any heldPregame
      then { a with releasedAt := some db.now }
      else a }

-- -------------------- the transaction

/-- The unreleased row of the game that is young enough to be reused. -/
def existingAllocation (db : Db) (g : GameId) : Option Allocation :=
  (db.gameAllocations.get? g).filter fun a =>
    a.releasedAt.isNone
      && decide (db.now < a.allocatedAt + maxAllocationAgeSeconds)

/-- `SELECT host, port FROM servers WHERE type = ? AND state =
'Pregame' AND available != 0 ORDER BY port`. -/
def candidates (db : Db) (gameType : String) : List Address :=
  ((db.servers.entries.filter fun e => e.2.type == gameType && e.2.free).map
    Prod.fst).insertionSort fun a b => a.2 ≤ b.2

def pickCandidate (listening : List Port) (cs : List Address) :
    Option Address :=
  cs.find? fun c => listening.contains c.2

/-- `UPDATE servers SET available = 0, stamp = NOW() WHERE …`. -/
def takeServer (db : Db) (addr : Address) : Db :=
  { db with servers := db.servers.modify addr fun s =>
      { s with available := 0, stamp := db.now } }

/-- `INSERT INTO game_allocations (game_id, port, host, allocated_at) …
ON DUPLICATE KEY UPDATE …`: only the second form writes `last_seen`. -/
def insertAllocation (db : Db) (g : GameId) (addr : Address) : Db :=
  let row : Allocation :=
    { port := addr.2, host := addr.1, allocatedAt := db.now
      releasedAt := none
      lastSeen := (db.gameAllocations.get? g).map fun _ => db.now }
  { db with gameAllocations := db.gameAllocations.set g row }

/-- `UPDATE game_allocations SET last_seen = NOW() WHERE game_id = ?`. -/
def touchAllocation (db : Db) (g : GameId) : Db :=
  { db with gameAllocations := db.gameAllocations.modify g fun a =>
      { a with lastSeen := some db.now } }

/-- The transaction without an unreleased young row: take the first
listening candidate, or answer 503. -/
def allocateFresh (r : Request) (listening : List Port) (db : Db) :
    Db × Answer :=
  let cs := candidates db r.gameType
  match pickCandidate listening cs with
  | none =>
    (db, .unavailable
      (if 0 < cs.length then
        "No servers listening locally on this pod. Checked "
          ++ toString cs.length ++ " candidates. Please retry."
      else
        "No available servers of type '" ++ r.gameType
          ++ "'. Please wait and retry."))
  | some addr =>
    let db' := takeServer db addr
    let db'' := match r.gameId with
      | none => db'
      | some g => insertAllocation db' g addr
    (db'', .allocated
      { host := addr.1, port := addr.2, proxyPort := addr.2 + 1000
        type := r.gameType, gameId := r.gameId
        reused := r.gameId.map fun _ => false })

/-- The allocation transaction of `doPost`. -/
def allocate (r : Request) (listening : List Port) (db : Db) :
    Db × Answer :=
  match r.gameId.bind fun g => (existingAllocation db g).map (g, ·) with
  | some (g, a) =>
    (touchAllocation db g, .allocated
      { host := a.host, port := a.port, proxyPort := a.port + 1000
        type := r.gameType, gameId := some g, reused := some true })
  | none => allocateFresh r listening db

end ServerAllocator

namespace ServerRelease

/-- The request parameters, absent ones `none`. -/
structure Params where
  port : Option String
  host : Option Host
  gameId : Option GameId

structure Request where
  host : Host
  port : Port
  gameId : Option GameId
  deriving DecidableEq

def digits : Nat → List Char → Option Nat
  | acc, [] => some acc
  | acc, c :: rest =>
    if c.isDigit then digits (acc * 10 + (c.toNat - '0'.toNat)) rest
    else none

/-- `Integer.parseInt`: an optional sign, digits, and the `int` range. -/
def parseInt (s : String) : Option Int :=
  let (neg, cs) := match s.toList with
    | '-' :: cs => (true, cs)
    | '+' :: cs => (false, cs)
    | cs => (false, cs)
  if cs.isEmpty then none
  else (digits 0 cs).bind fun n =>
    let v : Int := if neg then -n else n
    if -2147483648 ≤ v && v ≤ 2147483647 then some v else none

def invalidPort : String := "Invalid port. Expected value between 6000-6009"

def portInRange (port : Port) : Bool := !(port < 6000 || 6009 < port)

/-- The checks at the head of `doPost`, with the text of the 400. -/
def validate (p : Params) : Except String Request :=
  match p.port with
  | none => .error "Port parameter is required"
  | some sPort =>
    match parseInt sPort with
    | none => .error ("For input string: \"" ++ sPort ++ "\"")
    | some port =>
      if !portInRange port then .error invalidPort
      else if !(p.gameId.all gameIdMatches) then .error invalidGameId
      else .ok { host := p.host.getD "localhost", port := port
                 gameId := p.gameId }

def Request.address (r : Request) : Address := (r.host, r.port)

/-- The first statement, unguarded by who holds the port: `UPDATE
servers SET available = 1, state = 'Pregame', stamp = NOW() WHERE host
= ? AND port = ?`. -/
def releaseServer (r : Request) (db : Db) : Db :=
  { db with servers := db.servers.modify r.address fun s =>
      { s with available := 1, state := "Pregame", stamp := db.now } }

/-- The rows the second statement's WHERE accepts: by game id when the
request has one, by port alone when not. -/
def releases (r : Request) (g : GameId) (a : Allocation) : Bool :=
  a.releasedAt.isNone && match r.gameId with
    | some g' => g == g'
    | none => a.port == r.port

/-- The second statement: `UPDATE game_allocations SET released_at =
NOW() WHERE …`. -/
def releaseAllocation (r : Request) (db : Db) : Db :=
  { db with gameAllocations := db.gameAllocations.mapVals fun g a =>
      if releases r g a then { a with releasedAt := some db.now } else a }

inductive Answer where
  | released (host : Host) (port : Port) (allocationReleased : Bool)
  | notFound (error : String)

/-- What the request answers, from the row counts of its statements:
the server rows matched at the first, the allocation rows at the
second. -/
def answer (r : Request) (first second : Db) : Answer :=
  if first.servers.contains r.address then
    .released r.host r.port
      (second.gameAllocations.entries.any fun e => releases r e.1 e.2)
  else .notFound "Server not found or already available"

end ServerRelease

end Freeciv3d.Metaserver
