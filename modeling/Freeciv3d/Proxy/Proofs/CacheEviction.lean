/-
The bounds of a `StateCache` and what its evictions take.

# What always holds

After every operation the entries and their bytes are within the
limits, and they stand in the order of their last uses (`Kept`). Making
room takes entries from the front (`evict_entries`), so the least
recently used go first.

# Replacing an entry

`set` makes room before the entry it replaces is taken out, and counts
that entry, its place and its bytes. So replacing an entry by one that
is no larger takes another entry out, unless there is room for both, or
the entry that is replaced is itself the least recently used and goes
first (`RoomOrOldest`).
-/
import Mathlib.Algebra.BigOperators.Group.List.Basic
import Freeciv3d.Lib.Memo
import Freeciv3d.Proxy.Proofs.CacheEntries

namespace Freeciv3d.Proxy

open Lib

namespace CacheRun

variable {σ : Type} {codec : Codec σ} {r r' : CacheRun σ}
variable {d : Dict String (CacheEntry σ)} {key : String}
variable {maxEntries maxBytes size fuel : Nat}

-- ==== the statement

/-- What a `set` takes out was used before all that stays. -/
def EvictsOldest (codec : Codec σ) (r : CacheRun σ) (key : String)
    (data : σ) (playerId : Int) (now : Rat) : Prop :=
  ∀ k k', k ≠ key → k' ≠ key → r.state.cache.contains k = true →
    (r.state.set codec key data playerId now).cache.contains k = false →
    (r.state.set codec key data playerId now).cache.contains k' = true →
    r.used k < r.used k'

/-- A `set` takes out no other entry. -/
def SparesOthers (codec : Codec σ) (r : CacheRun σ) (key : String)
    (data : σ) (playerId : Int) (now : Rat) : Prop :=
  ∀ k, k ≠ key → r.state.cache.contains k = true →
    (r.state.set codec key data playerId now).cache.contains k = true

/-- There is room for one more entry of this size, or the key is the
least recently used. -/
def RoomOrOldest (codec : Codec σ) (r : CacheRun σ) (key : String)
    (data : σ) : Prop :=
  (r.state.cache.size < r.state.maxEntries
      ∧ StateCache.totalSize r.state.cache
          + (r.state.entrySize codec data).1 ≤ r.state.maxCacheSizeBytes)
    ∨ r.state.cache.keys.head? = some key

-- ==== the bytes

def total (l : List (String × CacheEntry σ)) : Nat :=
  (l.map fun e => e.2.sizeBytes).sum

theorem totalSize_eq (d : Dict String (CacheEntry σ)) :
    StateCache.totalSize d = total d.entries := by
  unfold StateCache.totalSize total Dict.values
  rw [List.map_map, List.sum_eq_foldl]
  rfl

theorem total_append (l l' : List (String × CacheEntry σ)) :
    total (l ++ l') = total l + total l' := by
  rw [total, List.map_append, List.sum_append]
  rfl

theorem total_sublist {l l' : List (String × CacheEntry σ)}
    (h : l'.Sublist l) : total l' ≤ total l := by
  induction h with
  | slnil => exact Nat.le_refl _
  | cons e _ ih => exact Nat.le_trans ih (Nat.le_add_left _ _)
  | cons_cons e _ ih => exact Nat.add_le_add_left ih _

theorem total_erase {v : CacheEntry σ} (h : d.get? key = some v) :
    total (d.erase key).entries + v.sizeBytes = total d.entries := by
  obtain ⟨before, after, hsplit, herase⟩ := Dict.entries_split h
  rw [herase, hsplit, total_append, total_append]
  show total before + total after + v.sizeBytes
    = total before + (v.sizeBytes + total after)
  omega

-- ==== making room

theorem popFirst_entries (d : Dict String (CacheEntry σ)) :
    d.popFirst.entries = d.entries.drop 1 := List.drop_one.symm

theorem evict_entries (d : Dict String (CacheEntry σ)) :
    ∃ n, (StateCache.evict maxEntries maxBytes size fuel d).entries
      = d.entries.drop n := by
  induction fuel generalizing d with
  | zero => exact ⟨0, rfl⟩
  | succ fuel ih =>
    rw [StateCache.evict_succ]
    split
    case isTrue =>
      obtain ⟨n, hn⟩ := ih d.popFirst
      refine ⟨1 + n, ?_⟩
      rw [hn, popFirst_entries, List.drop_drop]
    case isFalse => exact ⟨0, rfl⟩

theorem evict_room (d : Dict String (CacheEntry σ)) (hfuel : d.size ≤ fuel)
    (hentries : 1 ≤ maxEntries) (hsize : size ≤ maxBytes) :
    (StateCache.evict maxEntries maxBytes size fuel d).size < maxEntries
      ∧ total (StateCache.evict maxEntries maxBytes size fuel d).entries
          + size ≤ maxBytes := by
  induction fuel generalizing d with
  | zero =>
    have hnil : d.entries = [] := List.length_eq_zero_iff.mp
      (Nat.le_zero.mp hfuel)
    show d.entries.length < maxEntries ∧ total d.entries + size ≤ maxBytes
    rw [hnil]
    show 0 < maxEntries ∧ 0 + size ≤ maxBytes
    omega
  | succ fuel ih =>
    rw [StateCache.evict_succ]
    split
    case isTrue =>
      apply ih
      show d.popFirst.entries.length ≤ fuel
      rw [popFirst_entries, List.length_drop]
      have : d.entries.length ≤ fuel + 1 := hfuel
      omega
    case isFalse h =>
      rw [totalSize_eq] at h
      simp only [Bool.or_eq_true, decide_eq_true_eq] at h
      omega

-- ==== what always holds

/-- The limits, the bounds and the order. -/
structure Kept (r : CacheRun σ) : Prop where
  place : 1 ≤ r.state.maxEntries
  limits : r.state.maxSizeBytes ≤ r.state.maxCacheSizeBytes
  few : r.state.cache.size ≤ r.state.maxEntries
  small : total r.state.cache.entries ≤ r.state.maxCacheSizeBytes
  each : ∀ e ∈ r.state.cache.entries, e.2.sizeBytes ≤ r.state.maxSizeBytes
  order : Recency.InOrder r.used r.state.cache.entries
  before : Recency.UsedBefore r.used r.count r.state.cache.entries

section Limits

variable {c c' : StateCache σ} (h : c'.limits = c.limits)

include h

theorem maxEntries_of_limits : c'.maxEntries = c.maxEntries :=
  (congrArg StateCache.maxEntries h :)

theorem maxSizeBytes_of_limits : c'.maxSizeBytes = c.maxSizeBytes :=
  (congrArg StateCache.maxSizeBytes h :)

theorem maxCacheSizeBytes_of_limits :
    c'.maxCacheSizeBytes = c.maxCacheSizeBytes :=
  (congrArg StateCache.maxCacheSizeBytes h :)

end Limits

/-- Operations leave the limits, and so room for an entry. -/
theorem Kept.same_limits (h : Kept r)
    (hlimits : r'.state.limits = r.state.limits) :
    1 ≤ r'.state.maxEntries
      ∧ r'.state.maxSizeBytes ≤ r'.state.maxCacheSizeBytes := by
  rw [maxEntries_of_limits hlimits, maxSizeBytes_of_limits hlimits,
    maxCacheSizeBytes_of_limits hlimits]
  exact ⟨h.place, h.limits⟩

theorem Kept.of_sublist (h : Kept r)
    (hlimits : r'.state.limits = r.state.limits)
    (hsub : r'.state.cache.entries.Sublist r.state.cache.entries)
    (hused : r'.used = r.used) (hcount : r'.count = r.count + 1) :
    Kept r' where
  place := (h.same_limits hlimits).1
  limits := (h.same_limits hlimits).2
  few := by
    rw [maxEntries_of_limits hlimits]
    exact Nat.le_trans hsub.length_le h.few
  small := by
    rw [maxCacheSizeBytes_of_limits hlimits]
    exact Nat.le_trans (total_sublist hsub) h.small
  each := by
    rw [maxSizeBytes_of_limits hlimits]
    exact fun e he => h.each e (hsub.subset he)
  order := by rw [hused]; exact h.order.sublist hsub
  before := by rw [hused, hcount]; exact (h.before.sublist hsub).succ

theorem Kept.of_touch (h : Kept r) {e : CacheEntry σ}
    {l : List (String × CacheEntry σ)}
    (hlimits : r'.state.limits = r.state.limits)
    (hsub : l.Sublist r.state.cache.entries) (hnew : ∀ e ∈ l, e.1 ≠ key)
    (hentries : r'.state.cache.entries = l ++ [(key, e)])
    (hfew : l.length < r.state.maxEntries)
    (hsmall : total l + e.sizeBytes ≤ r.state.maxCacheSizeBytes)
    (heach : e.sizeBytes ≤ r.state.maxSizeBytes)
    (hused : r'.used = r.use key) (hcount : r'.count = r.count + 1) :
    Kept r' where
  place := (h.same_limits hlimits).1
  limits := (h.same_limits hlimits).2
  few := by
    rw [maxEntries_of_limits hlimits]
    show r'.state.cache.entries.length ≤ r.state.maxEntries
    rw [hentries, List.length_append]
    exact hfew
  small := by
    rw [maxCacheSizeBytes_of_limits hlimits, hentries, total_append]
    exact hsmall
  each := by
    rw [maxSizeBytes_of_limits hlimits, hentries]
    intro e' he'
    rcases List.mem_append.mp he' with hold | hlast
    · exact h.each e' (hsub.subset hold)
    · cases List.mem_singleton.mp hlast
      exact heach
  order := by
    rw [hused, hentries]
    exact (h.order.sublist hsub).touch (h.before.sublist hsub) hnew e
  before := by
    rw [hused, hcount, hentries]
    exact (h.before.sublist hsub).touch hnew e

theorem Kept.of_init (h : (cacheRuns codec).init r) : Kept r := by
  obtain ⟨hempty, hplace, hlimits⟩ := h
  have hnil : r.state.cache.entries = [] := by
    rw [hempty]
    rfl
  refine ⟨hplace, hlimits, ?_, ?_, ?_, ?_, ?_⟩
  · show r.state.cache.entries.length ≤ _
    rw [hnil]
    exact Nat.zero_le _
  · rw [hnil]
    exact Nat.zero_le _
  · rw [hnil]
    exact List.forall_mem_nil _
  · rw [hnil]
    exact List.Pairwise.nil
  · rw [hnil]
    exact List.forall_mem_nil _

-- ==== the steps

theorem set_entries {c : StateCache σ} {data : σ} (h : c.Takes codec data)
    (playerId : Int) (now : Rat) :
    (c.set codec key data playerId now).cache.entries
      = ((c.ensureCapacity (c.entrySize codec data).1).cache.erase
          key).entries
        ++ [(key, c.newEntry codec data playerId now)] := by
  rw [StateCache.cache_set_of_takes h]
  exact Dict.entries_set_moveToEnd _ key _

theorem ensureCapacity_sublist (c : StateCache σ) (size : Nat) :
    (c.ensureCapacity size).cache.entries.Sublist c.cache.entries := by
  have hdrop : ∃ n, (c.ensureCapacity size).cache.entries
      = c.cache.entries.drop n := evict_entries c.cache
  obtain ⟨n, hn⟩ := hdrop
  rw [hn]
  exact List.drop_sublist n _

theorem Kept.set (h : Kept r) (key : String) (data : σ)
    (playerId : Int) (now : Rat) :
    Kept (r.step codec (.set key data playerId now)) := by
  have hlimits : (r.state.set codec key data playerId now).limits
      = r.state.limits := r.state.set_limits codec key data playerId now
  by_cases htakes : r.state.Takes codec data
  · have hstores : r.state.stores codec data = true :=
      decide_eq_true htakes
    have hle : (r.state.entrySize codec data).1
        ≤ r.state.maxCacheSizeBytes := Nat.le_trans htakes h.limits
    obtain ⟨hfew, hsmall⟩ := evict_room r.state.cache
      (Nat.le_refl r.state.cache.size) h.place hle
    have hsub := Dict.erase_sublist
      (r.state.ensureCapacity (r.state.entrySize codec data).1).cache key
    refine h.of_touch hlimits
      (hsub.trans (ensureCapacity_sublist r.state _))
      (fun e he => Dict.ne_of_mem_erase he) (set_entries htakes playerId now)
      (Nat.lt_of_le_of_lt hsub.length_le hfew) ?_ htakes ?_ rfl
    · exact Nat.le_trans (Nat.add_le_add_right (total_sublist hsub) _) hsmall
    · exact if_pos hstores
  · have hstores : ¬ r.state.stores codec data = true :=
      fun hs => htakes (of_decide_eq_true hs)
    refine h.of_sublist hlimits ?_ (if_neg hstores) rfl
    show (r.state.set codec key data playerId now).cache.entries.Sublist _
    rw [StateCache.set_of_not_takes htakes]

theorem Kept.room_for_hit (h : Kept r) {e : CacheEntry σ}
    (hget : r.state.cache.get? key = some e) :
    (r.state.cache.erase key).entries.length < r.state.maxEntries
      ∧ total (r.state.cache.erase key).entries + e.sizeBytes
        ≤ r.state.maxCacheSizeBytes := by
  have hsize := r.state.cache.size_erase key
  rw [if_pos (Dict.contains_iff.mpr ⟨e, hget⟩)] at hsize
  have hfew := h.few
  rw [total_erase hget]
  refine ⟨?_, h.small⟩
  show (r.state.cache.erase key).size < _
  omega

theorem Kept.get (h : Kept r) (key : String) (now : Rat)
    (unmodified : Bool) :
    Kept (r.step codec (.get key now unmodified)) := by
  have hlimits := r.state.get_limits key now unmodified
  have hcache : (r.step codec (.get key now unmodified)).state.cache
      = (r.state.get key now unmodified).1.cache := rfl
  have hused : (r.step codec (.get key now unmodified)).used
      = if (r.state.get key now unmodified).2.isSome then r.use key
        else r.used := rfl
  cases hget : r.state.cache.get? key with
  | none =>
    rw [StateCache.get_of_absent hget] at hcache hused
    refine h.of_sublist hlimits ?_ hused rfl
    rw [hcache]
  | some e =>
    by_cases hhit : r.state.hit now unmodified e = true
    · rw [StateCache.get_of_hit hget hhit] at hcache hused
      obtain ⟨hfew, hsmall⟩ := h.room_for_hit hget
      refine h.of_touch hlimits (Dict.erase_sublist _ key)
        (fun e he => Dict.ne_of_mem_erase he) ?_ hfew hsmall
        (h.each _ (Dict.mem_entries_iff.mpr hget)) hused rfl
      rw [hcache]
      exact Dict.entries_moveToEnd hget
    · rw [StateCache.get_of_miss hget hhit] at hcache hused
      refine h.of_sublist hlimits ?_ hused rfl
      rw [hcache]
      exact Dict.erase_sublist _ key

theorem Kept.step (h : Kept r) (op : CacheOp σ) :
    Kept (r.step codec op) := by
  cases op with
  | set key data playerId now => exact h.set key data playerId now
  | get key now unmodified => exact h.get key now unmodified
  | invalidate pattern playerId =>
    exact h.of_sublist rfl List.filter_sublist rfl rfl
  | clear => exact h.of_sublist rfl (List.nil_sublist _) rfl rfl

theorem reach_kept (h : (cacheRuns codec).Reach r) : Kept r := by
  refine h.invariant (I := fun r => Kept r) (fun _ h => Kept.of_init h) ?_
  intro s op s' hkept hstep
  cases Option.some.inj hstep
  exact hkept.step op

-- ==== what a set takes

/-- Of the other keys a stored `set` leaves those that making room
leaves. -/
theorem set_contains {c : StateCache σ} {data : σ}
    (h : c.Takes codec data) (playerId : Int) (now : Rat) {k : String}
    (hk : k ≠ key) :
    (c.set codec key data playerId now).cache.contains k
      = (c.ensureCapacity (c.entrySize codec data).1).cache.contains k := by
  unfold Dict.contains
  rw [StateCache.set_of_takes h key playerId now k, if_neg hk]

theorem Kept.evictsOldest (h : Kept r) (key : String) (data : σ)
    (playerId : Int) (now : Rat) :
    EvictsOldest codec r key data playerId now := by
  intro k k' hk hk' hthere hgone hkept
  by_cases htakes : r.state.Takes codec data
  · rw [set_contains htakes playerId now hk] at hgone
    rw [set_contains htakes playerId now hk'] at hkept
    have hdrop : ∃ n, (r.state.ensureCapacity
        (r.state.entrySize codec data).1).cache.entries
        = r.state.cache.entries.drop n := evict_entries r.state.cache
    obtain ⟨n, hn⟩ := hdrop
    obtain ⟨e, he⟩ := Dict.contains_iff.mp hthere
    obtain ⟨e', he'⟩ := Dict.contains_iff.mp hkept
    have hlate := Dict.mem_entries_iff.mpr he'
    have hall := Dict.mem_entries_iff.mpr he
    rw [← List.take_append_drop n r.state.cache.entries] at hall
    rcases List.mem_append.mp hall with hearly | hstays
    · rw [hn] at hlate
      exact h.order.lt_of_take_drop hearly hlate
    · rw [← hn] at hstays
      have hcontains := Dict.contains_iff.mpr
        ⟨e, Dict.mem_entries_iff.mp hstays⟩
      exact absurd (hcontains.symm.trans hgone) (by decide)
  · rw [StateCache.set_of_not_takes htakes, hthere] at hgone
    cases hgone

-- ==== replacing an entry

theorem evict_of_room {size fuel : Nat}
    (hfew : d.size < maxEntries) (hsmall : total d.entries + size ≤ maxBytes) :
    StateCache.evict maxEntries maxBytes size fuel d = d := by
  cases fuel with
  | zero => rfl
  | succ fuel =>
    rw [StateCache.evict_succ, if_neg]
    rw [totalSize_eq]
    simp only [Bool.or_eq_true, decide_eq_true_eq]
    omega

theorem evict_of_full {size : Nat} {e : String × CacheEntry σ}
    {rest : List (String × CacheEntry σ)} (hentries : d.entries = e :: rest)
    (hfull : ¬ (d.size < maxEntries
      ∧ total d.entries + size ≤ maxBytes)) :
    StateCache.evict maxEntries maxBytes size d.size d
      = StateCache.evict maxEntries maxBytes size rest.length
          d.popFirst := by
  have hfuel : d.size = rest.length + 1 := congrArg List.length hentries
  rw [hfuel, StateCache.evict_succ, if_pos]
  rw [totalSize_eq]
  simp only [Bool.or_eq_true, decide_eq_true_eq]
  omega

theorem popFirst_get? {e : CacheEntry σ}
    {rest : List (String × CacheEntry σ)}
    (hentries : d.entries = (key, e) :: rest) :
    d.popFirst.get? key = none ∧ ∀ k, k ≠ key →
      d.popFirst.get? k = d.get? k := by
  have hnodup := d.nodup
  rw [hentries, List.map_cons, List.nodup_cons] at hnodup
  have hrest : d.popFirst.entries = rest := by
    rw [popFirst_entries, hentries]
    rfl
  refine ⟨Option.eq_none_iff_forall_ne_some.mpr fun v hv => ?_,
    fun k hk => ?_⟩
  · have hmem := Dict.mem_entries_iff.mpr hv
    rw [hrest] at hmem
    have hin : key ∈ rest.map Prod.fst := List.mem_map_of_mem hmem
    exact hnodup.1 hin
  · show d.popFirst.entries.lookup k = d.entries.lookup k
    rw [hrest, hentries, Dict.lookup_cons_ite, if_neg hk]

theorem Kept.evict_of_oldest (h : Kept r) {old : CacheEntry σ}
    {rest : List (String × CacheEntry σ)} {size : Nat}
    (hentries : r.state.cache.entries = (key, old) :: rest)
    (hle : size ≤ old.sizeBytes) {k : String} (hk : k ≠ key)
    (hthere : r.state.cache.contains k = true) :
    (r.state.ensureCapacity size).cache.contains k = true := by
  have hfew : r.state.cache.entries.length ≤ r.state.maxEntries := h.few
  have hsmall := h.small
  have hrest : r.state.cache.popFirst.entries = rest := by
    rw [popFirst_entries, hentries]
    rfl
  show (StateCache.evict _ _ _ _ _).contains k = true
  by_cases hroom : r.state.cache.size < r.state.maxEntries
      ∧ total r.state.cache.entries + size ≤ r.state.maxCacheSizeBytes
  · rw [evict_of_room hroom.1 hroom.2]
    exact hthere
  · rw [evict_of_full hentries hroom, evict_of_room]
    · unfold Dict.contains
      rw [(popFirst_get? hentries).2 k hk]
      exact hthere
    · show r.state.cache.popFirst.entries.length < _
      rw [hentries, List.length_cons] at hfew
      rw [hrest]
      omega
    · have htotal : total r.state.cache.entries
          = old.sizeBytes + total rest := by
        rw [hentries]
        rfl
      rw [hrest]
      omega

theorem Kept.sparesOthers_iff (h : Kept r) {data : σ} {old : CacheEntry σ}
    (playerId : Int) (now : Rat) (hold : r.state.cache.get? key = some old)
    (hle : (r.state.entrySize codec data).1 ≤ old.sizeBytes) :
    SparesOthers codec r key data playerId now
      ↔ RoomOrOldest codec r key data := by
  have htakes : r.state.Takes codec data :=
    Nat.le_trans hle (h.each _ (Dict.mem_entries_iff.mpr hold))
  cases hentries : r.state.cache.entries with
  | nil =>
    have hmem := Dict.mem_entries_iff.mpr hold
    rw [hentries] at hmem
    cases hmem
  | cons first rest =>
    obtain ⟨k₀, e₀⟩ := first
    have hhead : r.state.cache.keys.head? = some k₀ := by
      unfold Dict.keys
      rw [hentries]
      rfl
    constructor
    · intro hspares
      by_cases hk₀ : k₀ = key
      · subst hk₀
        exact .inr hhead
      · refine .inl ?_
        rw [totalSize_eq]
        -- without room the first entry goes, and it is another one
        by_contra hfull
        have hkept := hspares k₀ hk₀ (Dict.contains_iff.mpr
          ⟨e₀, Dict.mem_entries_iff.mp (hentries ▸ List.mem_cons_self)⟩)
        rw [set_contains htakes playerId now hk₀] at hkept
        obtain ⟨e, he⟩ := Dict.contains_iff.mp hkept
        have hevict : (r.state.ensureCapacity
            (r.state.entrySize codec data).1).cache
            = StateCache.evict _ _ _ rest.length r.state.cache.popFirst :=
          evict_of_full hentries hfull
        rw [hevict] at he
        have hpop := StateCache.get?_of_evict he
        rw [(popFirst_get? hentries).1] at hpop
        cases hpop
    · intro hcond k hk hthere
      rw [set_contains htakes playerId now hk]
      rcases hcond with ⟨hfew, hsmall⟩ | holdest
      · rw [totalSize_eq] at hsmall
        show (StateCache.evict _ _ _ _ _).contains k = true
        rw [evict_of_room hfew hsmall]
        exact hthere
      · rw [hhead] at holdest
        cases holdest
        have hsame : e₀ = old := by
          have hfirst := Dict.mem_entries_iff.mp
            (hentries ▸ List.mem_cons_self)
          exact Option.some.inj (hfirst.symm.trans hold)
        subst hsame
        exact h.evict_of_oldest hentries hle hk hthere

-- ==== runs

/-- After any operations the cache is within its limits, and of a `set`
that is next: what it takes out was used before all that stays, and
replacing an entry by one no larger takes no other out exactly when
there is room for both or the key is the least recently used. -/
theorem within_limits (h : (cacheRuns codec).Reach r) :
    r.state.cache.size ≤ r.state.maxEntries
      ∧ StateCache.totalSize r.state.cache ≤ r.state.maxCacheSizeBytes
      ∧ ∀ key data playerId now,
        EvictsOldest codec r key data playerId now
          ∧ ∀ old, r.state.cache.get? key = some old →
              (r.state.entrySize codec data).1 ≤ old.sizeBytes →
              (SparesOthers codec r key data playerId now
                ↔ RoomOrOldest codec r key data) := by
  have hkept := reach_kept h
  refine ⟨hkept.few, ?_, fun key data playerId now => ⟨?_, ?_⟩⟩
  · rw [totalSize_eq]
    exact hkept.small
  · exact hkept.evictsOldest key data playerId now
  · exact fun old hold hle => hkept.sparesOthers_iff playerId now hold hle

def tenBytes : Codec Nat := ⟨fun _ => 10, fun _ => 10⟩

def twoPlaces : CacheRun Nat :=
  { state := { StateCache.init with maxEntries := 2 }
    count := 0
    used := fun _ => 0 }

def afterOps (ops : List (CacheOp Nat)) : CacheRun Nat :=
  ((cacheRuns tenBytes).exec twoPlaces ops).getD twoPlaces

theorem reach_afterOps (ops : List (CacheOp Nat)) :
    (cacheRuns tenBytes).Reach (afterOps ops) := by
  have hinit : (cacheRuns tenBytes).init twoPlaces :=
    ⟨rfl, by decide, by decide⟩
  exact (Lts.Reach.init hinit).exec_getD ops

/-- Both places are taken, the older one by the state of player 1. -/
def bothSet : List (CacheOp Nat) :=
  [.set "state_1" 1 1 0, .set "state_2" 2 2 1]

/-- Setting the newer key again takes out the older one. -/
theorem replacing_evicts :
    (cacheRuns tenBytes).Reach (afterOps bothSet)
      ∧ (∃ old, (afterOps bothSet).state.cache.get? "state_2" = some old
        ∧ ((afterOps bothSet).state.entrySize tenBytes 3).1
          ≤ old.sizeBytes)
      ∧ ¬ SparesOthers tenBytes (afterOps bothSet) "state_2" 3 2 2 := by
  refine ⟨reach_afterOps bothSet, ⟨_, rfl, by decide⟩, fun hspares => ?_⟩
  have hkept := hspares "state_1" (by decide) (by decide)
  revert hkept
  decide

/-- The older key may be set again. -/
theorem replacing_oldest_spares :
    SparesOthers tenBytes (afterOps bothSet) "state_1" 3 1 2 :=
  (((within_limits (reach_afterOps bothSet)).2.2 "state_1" 3 1 2).2 _ rfl
    (by decide)).mpr (.inr (by decide))

end CacheRun

end Freeciv3d.Proxy
