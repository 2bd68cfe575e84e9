/-
What the operations of `StateCache` leave of its entries.

`get` returns an entry that is fresh and verifies, and takes out one
that does not (`get_entry`). `set` makes room for its entry and puts it
under its key (`set_of_takes`); the eviction changes no entry, and what
stays when room is made for a large entry stays when it is made for a
small one (`evict_of_le`). So an entry that the largest state the cache
takes would not push out survives every `set` (`Spares`).
-/
import Mathlib.Algebra.Order.Group.Basic
import Freeciv3d.Proxy.StateCache

namespace Freeciv3d.Proxy

open Lib

namespace StateCache

variable {σ : Type}

-- ==== what a get leaves

def limits (c : StateCache σ) : StateCache σ := { c with cache := ∅ }

/-- An entry that is young enough. -/
def Fresh (c : StateCache σ) (now : Rat) (e : CacheEntry σ) : Prop :=
  now - e.timestamp < c.ttl

instance (c : StateCache σ) (now : Rat) (e : CacheEntry σ) :
    Decidable (c.Fresh now e) :=
  inferInstanceAs (Decidable (_ < _))

theorem Fresh.mono {c : StateCache σ} {now τ : Rat} {e : CacheEntry σ}
    (h : c.Fresh τ e) (hle : now ≤ τ) : c.Fresh now e :=
  lt_of_le_of_lt (sub_le_sub_right hle _) h

theorem fresh_congr {c d : StateCache σ} (h : c.limits = d.limits)
    (now : Rat) (e : CacheEntry σ) : c.Fresh now e ↔ d.Fresh now e := by
  have httl : c.ttl = d.ttl := (congrArg ttl h :)
  unfold Fresh
  rw [httl]

/-- An entry that `get` returns. -/
def hit (c : StateCache σ) (now : Rat) (unmodified : Bool)
    (e : CacheEntry σ) : Bool :=
  decide (c.Fresh now e) && verify e now unmodified

section Get

variable {c : StateCache σ} {key : String} {now : Rat} {u : Bool}
variable {e : CacheEntry σ}

theorem get_of_absent (h : c.cache.get? key = none) :
    c.get key now u = (c, none) := by
  unfold get
  rw [h]

theorem get_of_hit (h : c.cache.get? key = some e)
    (hhit : c.hit now u e = true) :
    c.get key now u
      = ({ c with cache := c.cache.moveToEnd key }, some e.data) := by
  unfold get
  rw [h]
  exact if_pos hhit

theorem get_of_miss (h : c.cache.get? key = some e)
    (hmiss : ¬ c.hit now u e = true) :
    c.get key now u
      = ({ c with cache := c.cache.erase key }, none) := by
  unfold get
  rw [h]
  exact if_neg hmiss

end Get

theorem get_snd (c : StateCache σ) (key : String) (now : Rat) (u : Bool) :
    (c.get key now u).2
      = ((c.cache.get? key).filter (c.hit now u)).map CacheEntry.data := by
  cases hget : c.cache.get? key with
  | none =>
    rw [get_of_absent hget]
    rfl
  | some e =>
    by_cases h : c.hit now u e = true
    · rw [get_of_hit hget h, Option.filter_some_pos h]
      rfl
    · rw [get_of_miss hget h,
        Option.filter_some_neg ((Bool.not_eq_true _).mp h)]
      rfl

theorem get_limits (c : StateCache σ) (key : String) (now : Rat)
    (u : Bool) : (c.get key now u).1.limits = c.limits := by
  unfold get
  split
  · rfl
  · split <;> rfl

/-- After a `get`, the entry under its key is one that was returned;
the others are as they were. -/
theorem get_entry (c : StateCache σ) (key : String) (now : Rat) (u : Bool)
    (k : String) (e : CacheEntry σ) :
    (c.get key now u).1.cache.get? k = some e
      ↔ c.cache.get? k = some e ∧ (k = key → c.hit now u e = true) := by
  cases hget : c.cache.get? key with
  | none =>
    rw [get_of_absent hget]
    refine ⟨fun h => ⟨h, ?_⟩, And.left⟩
    intro heq
    subst heq
    rw [hget] at h
    cases h
  | some e' =>
    by_cases h : c.hit now u e' = true
    · rw [get_of_hit hget h]
      rw [Dict.get?_moveToEnd]
      refine ⟨fun hk => ⟨hk, ?_⟩, And.left⟩
      intro heq
      subst heq
      rw [hget] at hk
      cases hk
      exact h
    · rw [get_of_miss hget h]
      rw [Dict.get?_erase]
      by_cases hk : k = key
      · subst hk
        rw [if_pos rfl, hget]
        refine ⟨nofun, ?_⟩
        intro hp
        rcases hp with ⟨he, hhit⟩
        cases he
        exact absurd (hhit rfl) h
      · rw [if_neg hk]
        exact ⟨fun he => ⟨he, fun h => absurd h hk⟩, And.left⟩

-- ==== evictions

theorem get?_of_popFirst {d : Dict String (CacheEntry σ)} {k : String}
    {e : CacheEntry σ} (h : d.popFirst.get? k = some e) :
    d.get? k = some e := by
  rw [← Dict.mem_entries_iff] at *
  exact List.mem_of_mem_tail h

theorem evict_succ (maxEntries maxBytes size fuel : Nat)
    (d : Dict String (CacheEntry σ)) :
    evict maxEntries maxBytes size (fuel + 1) d
      = if maxEntries ≤ d.size || maxBytes < totalSize d + size
        then evict maxEntries maxBytes size fuel d.popFirst else d := rfl

theorem get?_of_evict {maxEntries maxBytes size fuel : Nat}
    {d : Dict String (CacheEntry σ)} {k : String} {e : CacheEntry σ}
    (h : (evict maxEntries maxBytes size fuel d).get? k = some e) :
    d.get? k = some e := by
  induction fuel generalizing d with
  | zero => exact h
  | succ fuel ih =>
    rw [evict_succ] at h
    split at h
    · exact get?_of_popFirst (ih h)
    · exact h

/-- What stays when room is made for a large entry stays when it is
made for a small one. -/
theorem evict_of_le {maxEntries maxBytes size size' fuel : Nat}
    (hle : size ≤ size') {d : Dict String (CacheEntry σ)} {k : String}
    {e : CacheEntry σ}
    (h : (evict maxEntries maxBytes size' fuel d).get? k = some e) :
    (evict maxEntries maxBytes size fuel d).get? k = some e := by
  induction fuel generalizing d with
  | zero => exact h
  | succ fuel ih =>
    by_cases hsmall : (maxEntries ≤ d.size
        || maxBytes < totalSize d + size) = true
    · have hlarge : (maxEntries ≤ d.size
          || maxBytes < totalSize d + size') = true := by
        simp only [Bool.or_eq_true, decide_eq_true_eq] at *
        omega
      rw [evict_succ, if_pos hlarge] at h
      rw [evict_succ, if_pos hsmall]
      exact ih h
    · rw [evict_succ, if_neg hsmall]
      exact get?_of_evict h

/-- Room for any entry the cache takes leaves `k` there. -/
def Spares (c : StateCache σ) (k : String) : Prop :=
  (c.ensureCapacity c.maxSizeBytes).cache.contains k = true

instance (c : StateCache σ) (k : String) : Decidable (c.Spares k) :=
  inferInstanceAs (Decidable (_ = _))

theorem Spares.get? {c : StateCache σ} {k : String} (h : c.Spares k)
    {size : Nat} (hle : size ≤ c.maxSizeBytes) {e : CacheEntry σ}
    (he : c.cache.get? k = some e) :
    (c.ensureCapacity size).cache.get? k = some e := by
  obtain ⟨e', he'⟩ := Dict.contains_iff.mp h
  have hsame := get?_of_evict he'
  rw [he] at hsame
  cases hsame
  exact evict_of_le hle he'

-- ==== what a set leaves

/-- The entry `set` makes. -/
def newEntry (c : StateCache σ) (codec : Codec σ) (data : σ)
    (playerId : Int) (now : Rat) : CacheEntry σ :=
  { data := data, timestamp := now, sizeBytes := (c.entrySize codec data).1
    playerId := playerId, signedWindow := window now
    isCompressed := (c.entrySize codec data).2 }

/-- A state small enough to be cached. -/
def Takes (c : StateCache σ) (codec : Codec σ) (data : σ) : Prop :=
  (c.entrySize codec data).1 ≤ c.maxSizeBytes

instance (c : StateCache σ) (codec : Codec σ) (data : σ) :
    Decidable (c.Takes codec data) :=
  inferInstanceAs (Decidable (_ ≤ _))

theorem set_of_not_takes {c : StateCache σ} {codec : Codec σ} {data : σ}
    (h : ¬ c.Takes codec data) (key : String) (p : Int) (now : Rat) :
    c.set codec key data p now = c := by
  unfold set
  exact if_pos (Nat.lt_of_not_le h)

theorem set_limits (c : StateCache σ) (codec : Codec σ) (key : String)
    (data : σ) (p : Int) (now : Rat) :
    (c.set codec key data p now).limits = c.limits := by
  unfold set
  dsimp only
  split <;> rfl

theorem cache_set_of_takes {c : StateCache σ} {codec : Codec σ} {data : σ}
    (h : c.Takes codec data) (key : String) (p : Int) (now : Rat) :
    (c.set codec key data p now).cache
      = ((c.ensureCapacity (c.entrySize codec data).1).cache.set key
          (c.newEntry codec data p now)).moveToEnd key := by
  unfold set
  dsimp only
  rw [if_neg (Nat.not_lt_of_le h)]
  rfl

theorem set_of_takes {c : StateCache σ} {codec : Codec σ} {data : σ}
    (h : c.Takes codec data) (key : String) (p : Int) (now : Rat)
    (k : String) :
    (c.set codec key data p now).cache.get? k
      = if k = key then some (c.newEntry codec data p now)
        else (c.ensureCapacity (c.entrySize codec data).1).cache.get? k := by
  rw [cache_set_of_takes h, Dict.get?_moveToEnd, Dict.get?_set]

end StateCache

end Freeciv3d.Proxy
