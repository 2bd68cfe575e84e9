/-
`StateCache`: the process-wide cache of state responses, an ordered
dict from key to entry with TTL, integrity check and LRU eviction.

# What is a parameter

States are of an arbitrary type; how many bytes a state serialises to
and compresses to is given by a `Codec`. `optimize_state_data` returns
dict-format states unchanged, and all states here are in that format.

The signature covers the data, the player, the key and the five-minute
window it was made in. What is signed again when an entry is read need
not print as it did: an uncompressed entry shares its dict with the
state that was returned, and a compressed one is read back from its
text, in which all keys are strings. So the caller says whether it
prints the same.

# Runs

The operations on a `StateCache`, in any order: `set`, `get`,
`invalidate` and `clear`, each under the cache's lock.

A run numbers its operations. `used` notes for each key the last one
that used it, a `set` that stored it or a `get` that returned it; it is
what "least recently used" is measured by, and the code does not have
it. The hit and miss counters are left out.
-/
import Mathlib.Algebra.Order.Ring.Rat
import Mathlib.Data.Rat.Floor
import Mathlib.Logic.Function.Basic
import Freeciv3d.Lib.Dict
import Freeciv3d.Lib.Lts
import Freeciv3d.Lib.PyStr

namespace Freeciv3d.Proxy

open Lib

structure Codec (σ : Type) where
  /-- `len(json.dumps(state))`. -/
  jsonBytes : σ → Nat
  /-- `len(gzip.compress(json))`. -/
  gzipBytes : σ → Nat

structure CacheEntry (σ : Type) where
  data : σ
  timestamp : Rat
  sizeBytes : Nat
  playerId : Int
  signedWindow : Int
  isCompressed : Bool

structure StateCache (σ : Type) where
  ttl : Int
  maxSizeBytes : Nat
  maxCacheSizeBytes : Nat
  maxEntries : Nat
  enableCompression : Bool
  compressionThreshold : Nat
  compressionRatioThreshold : Rat
  cache : Dict String (CacheEntry σ)

namespace StateCache

variable {σ : Type}

def init : StateCache σ where
  ttl := 5
  maxSizeBytes := 4 * 1024
  maxCacheSizeBytes := 100 * 1024 * 1024
  maxEntries := 1000
  enableCompression := true
  compressionThreshold := 1024
  compressionRatioThreshold := 8 / 10
  cache := ∅

/-- `int(time.time() // 300)`. -/
def window (now : Rat) : Int := (now / 300).floor

/-- `_verify_cache_integrity`. -/
def verify (e : CacheEntry σ) (now : Rat) (unmodified : Bool) : Bool :=
  e.signedWindow == window now && unmodified

/-- `get`: an expired entry and one that fails the check are removed, a
hit becomes the most recently used. -/
def get (c : StateCache σ) (key : String) (now : Rat)
    (unmodified : Bool) : StateCache σ × Option σ :=
  match c.cache.get? key with
  | none => (c, none)
  | some e =>
    if now - e.timestamp < c.ttl && verify e now unmodified then
      ({ c with cache := c.cache.moveToEnd key }, some e.data)
    else ({ c with cache := c.cache.erase key }, none)

def totalSize (d : Dict String (CacheEntry σ)) : Nat :=
  (d.values.map CacheEntry.sizeBytes).foldl (· + ·) 0

/-- The loop of `_ensure_cache_capacity`: the least recently used entry
goes while there are too many entries or bytes. -/
def evict (maxEntries maxBytes newSize : Nat) :
    Nat → Dict String (CacheEntry σ) → Dict String (CacheEntry σ)
  | 0, d => d
  | fuel + 1, d =>
    if maxEntries ≤ d.size || maxBytes < totalSize d + newSize then
      evict maxEntries maxBytes newSize fuel d.popFirst
    else d

/-- `_ensure_cache_capacity`: at most every entry goes. -/
def ensureCapacity (c : StateCache σ) (newSize : Nat) : StateCache σ :=
  { c with
    cache := evict c.maxEntries c.maxCacheSizeBytes newSize c.cache.size
      c.cache }

/-- The size an entry would have, and whether it would be compressed:
only when that saves enough, by default a fifth. -/
def entrySize (c : StateCache σ) (codec : Codec σ) (data : σ) :
    Nat × Bool :=
  let original := codec.jsonBytes data
  let compressed := codec.gzipBytes data
  if c.enableCompression && c.compressionThreshold < original
      && (compressed : Rat) < original * c.compressionRatioThreshold
  then (compressed, true)
  else (original, false)

/-- `set`: a state too large is not cached. -/
def set (c : StateCache σ) (codec : Codec σ) (key : String) (data : σ)
    (playerId : Int) (now : Rat) : StateCache σ :=
  let (size, isCompressed) := c.entrySize codec data
  if c.maxSizeBytes < size then c
  else
    let c := c.ensureCapacity size
    let entry : CacheEntry σ :=
      { data := data, timestamp := now, sizeBytes := size
        playerId := playerId, signedWindow := window now
        isCompressed := isCompressed }
    { c with cache := (c.cache.set key entry).moveToEnd key }

/-- `invalidate(player_id=…)`: player 0 is falsy, so its entries
stay. -/
def invalidate (c : StateCache σ) (playerId : Int) : StateCache σ :=
  { c with
    cache := c.cache.filter fun _ e =>
      !(playerId != 0 && e.playerId == playerId) }

end StateCache

-- ==== runs of a cache

namespace StateCache

variable {σ : Type}

/-- `invalidate(pattern, player_id)`: an empty pattern and player 0 are
falsy. -/
def invalidateMatching (c : StateCache σ) (pattern : Option String)
    (playerId : Option Int) : StateCache σ :=
  let matchesPattern (key : String) : Bool := pattern.any fun pattern =>
    pattern != "" && PyStr.hasSubstring key pattern
  let isOf (e : CacheEntry σ) : Bool := playerId.any fun playerId =>
    playerId != 0 && e.playerId == playerId
  { c with
    cache := c.cache.filter fun key e => !(matchesPattern key || isOf e) }

def clear (c : StateCache σ) : StateCache σ := { c with cache := ∅ }

/-- `set` stores its entry: it is not too large. -/
def stores (c : StateCache σ) (codec : Codec σ) (data : σ) : Bool :=
  (c.entrySize codec data).1 ≤ c.maxSizeBytes

end StateCache

inductive CacheOp (σ : Type) where
  | set (key : String) (data : σ) (playerId : Int) (now : Rat)
  | get (key : String) (now : Rat) (unmodified : Bool)
  | invalidate (pattern : Option String) (playerId : Option Int)
  | clear

structure CacheRun (σ : Type) where
  state : StateCache σ
  count : Nat
  used : String → Nat

namespace CacheRun

variable {σ : Type} (codec : Codec σ) (r : CacheRun σ)

def use (key : String) : String → Nat := Function.update r.used key r.count

def step : CacheOp σ → CacheRun σ
  | .set key data playerId now =>
    { state := r.state.set codec key data playerId now
      count := r.count + 1
      used := if r.state.stores codec data then r.use key else r.used }
  | .get key now unmodified =>
    let (state, found) := r.state.get key now unmodified
    { state := state
      count := r.count + 1
      used := if found.isSome then r.use key else r.used }
  | .invalidate pattern playerId =>
    { r with
      state := r.state.invalidateMatching pattern playerId
      count := r.count + 1 }
  | .clear => { r with state := r.state.clear, count := r.count + 1 }

end CacheRun

/-- An empty cache with limits that leave room for an entry. -/
def cacheRuns {σ : Type} (codec : Codec σ) :
    Lts (CacheRun σ) (CacheOp σ) where
  init r := r.state.cache = ∅ ∧ 1 ≤ r.state.maxEntries
    ∧ r.state.maxSizeBytes ≤ r.state.maxCacheSizeBytes
  step r op := some (r.step codec op)

end Freeciv3d.Proxy
