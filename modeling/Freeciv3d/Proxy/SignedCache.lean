/-
`set` and `get` of `StateCache` on JSON states, down to what is signed:
the state is optimized, printed and perhaps compressed, and `get` signs
again what it reads back.

The cache is a `StateCache` whose entries hold signed states, with its
eviction and removals; only the check of an entry is not the abstract
one.

# What is a parameter

`hmac` is a function of its message, `gzip` gives the size it compresses
a text to; decompressing and parsing give `Json.reparsed`. Each reading
of the clock is an argument of its own. `none` is an exception.

# The shared dict

An entry that is not compressed holds the very dict that was set, and
`get` returns it; who has it may change it (`modify`). The text of a
compressed entry does not change.
-/
import Freeciv3d.Proxy.StateCache
import Freeciv3d.Proxy.StateOptimizer

namespace Freeciv3d.Proxy

open Lib

structure SignedState where
  signed : Json
  /-- The dict, or what the compressed text was printed from. -/
  data : Json
  signature : String

/-- What the cache calls, and the environment's
`MAX_CITIES_FOR_OPTIMIZATION`. -/
structure CacheEnv extends JsonRuntime where
  /-- `hmac.new(secret, message, sha256).hexdigest()`. -/
  hmac : String → String
  hmac_ne_empty : ∀ message, hmac message ≠ ""
  /-- `len(gzip.compress(text))`. -/
  gzip : String → Nat
  maxCities : Nat

namespace CacheEnv

variable (env : CacheEnv)

def codec : Codec SignedState where
  jsonBytes s := (s.signed.dumps env.toJsonRuntime).utf8ByteSize
  gzipBytes s := env.gzip (s.signed.dumps env.toJsonRuntime)

def optimize (data : Json) : Option Json :=
  StateOptimizer.optimizeStateData env.toJsonRuntime env.maxCities data

end CacheEnv

namespace SignedCache

variable (env : CacheEnv)

/-- What is signed: `'|'.join(message_parts)`. -/
def message (data playerId key window : String) : String :=
  "|".intercalate [data, playerId, key, window]

def generateSignature (data : Json) (playerId : Int) (key : String)
    (now : Rat) : Option String :=
  (data.dumpsSorted env.toJsonRuntime).map fun text =>
    env.hmac (message text (toString playerId) key
      (toString (StateCache.window now)))

/-- What is read of an entry: the dict, or the parsed text. -/
def read (e : CacheEntry SignedState) : Json :=
  if e.isCompressed then e.data.data.reparsed env.toJsonRuntime
  else e.data.data

/-- `_verify_cache_integrity`: whether the entry is valid, and its data.
The entry's `cache_key` is the key it lies under. -/
def verifyCacheIntegrity (key : String) (e : CacheEntry SignedState)
    (now : Rat) : Option (Bool × Option Json) :=
  if e.data.signature = "" then
    some (true, if e.isCompressed then none else some e.data.data)
  else
    (generateSignature env (read env e) e.playerId key now).map
      fun expected =>
        if e.data.signature = expected then (true, some (read env e))
        else (false, none)

/-- `get`, and the state it returns, if it returns. -/
def get (c : StateCache SignedState) (key : String)
    (now verifiedAt : Rat) :
    StateCache SignedState × Option (Option Json) :=
  match c.cache.get? key with
  | none => (c, some none)
  | some e =>
    if now - e.timestamp < c.ttl then
      match verifyCacheIntegrity env key e verifiedAt with
      | none => (c, none)
      | some (true, data) =>
        ({ c with cache := c.cache.moveToEnd key }, some data)
      | some (false, _) =>
        ({ c with cache := c.cache.erase key }, some none)
    else ({ c with cache := c.cache.erase key }, some none)

/-- `set`, and what it returns, if it returns. -/
def set (c : StateCache SignedState) (key : String) (data : Json)
    (playerId : Int) (signedAt now : Rat) :
    StateCache SignedState × Option Bool :=
  match env.optimize data with
  | none => (c, none)
  | some optimized =>
    if c.stores env.codec ⟨optimized, optimized, ""⟩ then
      match generateSignature env optimized playerId key signedAt with
      | none => (c, none)
      | some signature =>
        (c.set env.codec key ⟨optimized, optimized, signature⟩ playerId
          now, some true)
    else (c, some false)

def modify (c : StateCache SignedState) (key : String) (data : Json) :
    StateCache SignedState :=
  { c with
    cache := c.cache.modify key fun e =>
      if e.isCompressed then e
      else { e with data := { e.data with data := data } } }

end SignedCache

/-- What a `set` that returned `True` lets the reader expect. -/
structure Promise where
  optimized : Json
  playerId : Int
  signedAt : Rat
  timestamp : Rat

structure PromisedCache where
  state : StateCache SignedState
  promises : String → Option Promise

inductive JsonCacheOp where
  | set (key : String) (data : Json) (playerId : Int) (signedAt now : Rat)
  | get (key : String) (now verifiedAt : Rat)
  | invalidate (pattern : Option String) (playerId : Option Int)
  | clear
  | modify (key : String) (data : Json)

namespace PromisedCache

variable (env : CacheEnv) (r : PromisedCache)

/-- The promises of the keys an operation has not taken out. -/
def remaining (state : StateCache SignedState) (k : String) :
    Option Promise :=
  if r.state.cache.contains k && !state.cache.contains k then none
  else r.promises k

/-- What a `set` of a key promises, when it returns `True`. -/
def promised (data : Json) (playerId : Int) (signedAt now : Rat)
    (returned : Option Bool) : Option Promise :=
  if returned = some true then
    (env.optimize data).map fun optimized =>
      ⟨optimized, playerId, signedAt, now⟩
  else none

/-- What is promised after a `get`: a promise that has run out is over. -/
def unexpired (key : String) (now : Rat) (k : String) : Option Promise :=
  (r.promises k).filter fun p =>
    k ≠ key || decide (now - p.timestamp < r.state.ttl)

def step : JsonCacheOp → PromisedCache
  | .set key data playerId signedAt now =>
    let (state, returned) :=
      SignedCache.set env r.state key data playerId signedAt now
    { state := state
      promises := Function.update (r.remaining state) key
        (promised env data playerId signedAt now returned) }
  | .get key now verifiedAt =>
    { state := (SignedCache.get env r.state key now verifiedAt).1
      promises := r.unexpired key now }
  | .invalidate pattern playerId =>
    let state := r.state.invalidateMatching pattern playerId
    { state := state, promises := r.remaining state }
  | .clear => { state := r.state.clear, promises := fun _ => none }
  | .modify key data =>
    { r with state := SignedCache.modify r.state key data }

end PromisedCache

/-- The operations on a cache of JSON states, from an empty one. -/
def jsonCacheRuns (env : CacheEnv) : Lts PromisedCache JsonCacheOp where
  init r := r.state.cache = ∅ ∧ r.promises = fun _ => none
  step r op := some (r.step env op)

end Freeciv3d.Proxy
