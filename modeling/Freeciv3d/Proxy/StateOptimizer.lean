/-
`StateCache.optimize_state_data`: what of a state is cached.

A state whose units or cities are dicts is cached as it is. Of any
other, the turn, the phase and the player are, and the first few units,
cities, players and tiles, each with a few fields and with its names cut
short. `none` is the `TypeError` of cutting what is no sequence.
-/
import Freeciv3d.Lib.Dict
import Freeciv3d.Lib.Json

namespace Freeciv3d.Proxy

open Lib

namespace StateOptimizer

abbrev Entries := List (JsonKey × Json)

/-- `d.get(name)`. -/
def get? (d : Entries) (name : String) : Option Json := d.lookup (.str name)

/-- `d.get(name, default)`. -/
def get (d : Entries) (name : String) (default : Json) : Json :=
  (get? d name).getD default

def record (fields : List (String × Json)) : Json :=
  .dict (fields.map fun e => (.str e.1, e.2))

/-- `v[:n]`. -/
def slice (n : Nat) : Json → Option Json
  | .str s => some (.str (String.ofList (s.toList.take n)))
  | .list items => some (.list (items.take n))
  | .tuple items => some (.tuple (items.take n))
  | _ => none

/-- `bool(v)`. -/
def truthy : Json → Bool
  | .null => false
  | .bool b => b
  | .int n => n != 0
  | .float q => q != 0
  | .str s => s != ""
  | .list items => !items.isEmpty
  | .tuple items => !items.isEmpty
  | .dict entries => !entries.isEmpty

/-- `str(v)`. -/
def str (rt : JsonRuntime) : Json → String
  | .null => "None"
  | .bool b => if b then "True" else "False"
  | .int n => toString n
  | .float q => rt.floatRepr q
  | .str s => s
  | v => rt.repr v

/-- `str(k)` of a key. -/
def strKey (rt : JsonRuntime) : JsonKey → String
  | .null => str rt .null
  | .bool b => str rt (.bool b)
  | .int n => str rt (.int n)
  | .float q => str rt (.float q)
  | .str s => s

/-- The first characters of a string; other values as they are. -/
def shorten (n : Nat) : Json → Json
  | .str s => .str (String.ofList (s.toList.take n))
  | v => v

def unit (d : Entries) : Json :=
  record
    [("id", get d "id" .null),
      ("type", shorten 8 (get d "type" (.str ""))),
      ("x", get d "x" .null),
      ("y", get d "y" .null),
      ("owner", get d "owner" .null),
      ("moves", get d "moves_left" (.int 0))]

def city (rt : JsonRuntime) (d : Entries) : Json :=
  record
    [("id", get d "id" .null),
      ("name", shorten 10 (.str (str rt (get d "name" (.str ""))))),
      ("x", get d "x" .null),
      ("y", get d "y" .null),
      ("owner", get d "owner" .null),
      ("pop", get d "population" (.int 1))]

def player (d : Entries) : Option Json :=
  (slice 8 (get d "name" (.str ""))).map fun name =>
    record
      [("name", name),
        ("score", get d "score" (.int 0)),
        ("gold", get d "gold" (.int 0))]

def tile (d : Entries) : Option Json :=
  (slice 4 (get d "terrain" (.str ""))).bind fun terrain =>
    (if truthy (get d "resource" .null) then
      slice 6 (get d "resource" .null)
    else some .null).map fun resource =>
      record
        [("x", get d "x" .null),
          ("y", get d "y" .null),
          ("terrain", terrain),
          ("resource", resource)]

def dicts (items : List Json) : List Entries :=
  items.filterMap fun
    | .dict d => some d
    | _ => none

/-- `pdata.get('id') or pdata.get('player_id') or i`. -/
def playerKey (d : Entries) (i : Nat) : Json :=
  let id := get d "id" .null
  let playerId := get d "player_id" .null
  if truthy id then id else if truthy playerId then playerId else .int i

def playersUnder (l : List (String × Json)) : Option Json :=
  let assign (players : Dict String Json) (e : String × Json) :
      Option (Dict String Json) :=
    match e.2 with
    | .dict d => (player d).map (players.set e.1)
    | _ => some players
  (l.foldlM assign ∅).map fun players => record players.entries

def players (rt : JsonRuntime) : Json → Option (Option Json)
  | .dict entries =>
    (playersUnder ((entries.take 4).map fun e =>
      (strKey rt e.1, e.2))).map some
  | .list items =>
    (playersUnder ((items.take 4).zipIdx.map fun (v, i) =>
      match v with
      | .dict d => (str rt (playerKey d i), v)
      | _ => ("", v))).map some
  | _ => some none

/-- The first twenty tiles with a resource or a city. -/
def visibleTiles (items : List Json) : Option Json :=
  (((dicts items).filter fun d =>
    truthy (get d "resource" .null) || truthy (get d "city_id" .null)).mapM
      tile).map fun tiles => .list (tiles.take 20)

def field (name : String) (v : Option Json) : List (String × Json) :=
  (v.map fun v => (name, v)).toList

def units (data : Entries) : Option Json :=
  match get? data "units" with
  | some (.list items) =>
    some (.list ((dicts (items.take 10)).map unit))
  | _ => none

def cities (rt : JsonRuntime) (maxCities : Nat) (data : Entries) :
    Option Json :=
  match get? data "cities" with
  | some (.list items) =>
    some (.list ((dicts (items.take maxCities)).map (city rt)))
  | _ => none

def isDict : Option Json → Bool
  | some (.dict _) => true
  | _ => false

/-- `optimize_state_data`; `maxCities` is
`MAX_CITIES_FOR_OPTIMIZATION`. -/
def optimizeStateData (rt : JsonRuntime) (maxCities : Nat) :
    Json → Option Json
  | .dict data =>
    if isDict (get? data "units") || isDict (get? data "cities") then
      some (.dict data)
    else do
      let players ← match get? data "players" with
        | some v => players rt v
        | none => some none
      let tiles ← match get? data "visible_tiles" with
        | some (.list items) => (visibleTiles items).map some
        | _ => some none
      some (record (
        [("turn", get data "turn" (.int 0)),
          ("phase", get data "phase" (.str "unknown")),
          ("player_id", get data "player_id" .null)]
        ++ field "units" (units data)
        ++ field "cities" (cities rt maxCities data)
        ++ field "players" players
        ++ field "visible_tiles" tiles))
  | v => some v

end StateOptimizer

end Freeciv3d.Proxy
