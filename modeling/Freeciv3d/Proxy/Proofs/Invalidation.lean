/-
What is gone after `invalidate`.

# The ghost state

A `TracedRun` notes for each key the `set` that stored what is under it:
its number in the run, the state and the player. `Traced` is the
invariant: an entry holds what the noted `set` stored. So what a `get`
returns has a `set` it comes from, and "was set for the player before
the call" is a fact about that `set`.

# What stays

An empty pattern is in every key and player 0 is a player, but both are
falsy and `invalidate` takes them for not given. An entry of player 0
under the empty key is the one that no `invalidate` removes
(`stays_of_falsy`). So a call is complete just when it is given neither
(`complete_iff`).
-/
import Freeciv3d.Proxy.Proofs.CacheEntries

namespace Freeciv3d.Proxy

open Lib

variable {σ : Type}

-- ==== what is invalidated

/-- The `set` that stored what is under a key. -/
structure Stored (σ : Type) where
  number : Nat
  data : σ
  playerId : Int

structure TracedRun (σ : Type) extends CacheRun σ where
  stored : String → Option (Stored σ)

def TracedRun.step (codec : Codec σ) (r : TracedRun σ)
    (op : CacheOp σ) : TracedRun σ where
  toCacheRun := r.toCacheRun.step codec op
  stored :=
    match op with
    | .set key data playerId _ =>
      if r.state.stores codec data then
        Function.update r.stored key
          (some { number := r.count, data := data, playerId := playerId })
      else r.stored
    | _ => r.stored

def tracedRuns (codec : Codec σ) : Lts (TracedRun σ) (CacheOp σ) where
  init r := (cacheRuns codec).init r.toCacheRun
  step r op := some (r.step codec op)

structure Invalidation where
  pattern : Option String
  playerId : Option Int

namespace Invalidation

/-- What is under the key for the player is to go: the key contains the
pattern, or it is the player given. -/
def Matches (i : Invalidation) (key : String) (playerId : Int) : Prop :=
  i.pattern.any (PyStr.hasSubstring key) = true
    ∨ i.playerId = some playerId

instance (i : Invalidation) (key : String) (playerId : Int) :
    Decidable (i.Matches key playerId) :=
  inferInstanceAs (Decidable (_ ∨ _))

/-- Whatever was stored before the call and whatever is done after it,
a state that a `get` returns was stored after the call, or it is not one
that was to go. -/
def Removes (codec : Codec σ) (i : Invalidation) : Prop :=
  ∀ r r' after, (tracedRuns codec).Reach r →
    (tracedRuns codec).exec (r.step codec (.invalidate i.pattern i.playerId))
      after = some r' →
    ∀ key now unmodified d, (r'.state.get key now unmodified).2 = some d →
      ∃ w, r'.stored key = some w ∧ w.data = d
        ∧ (w.number < r.count → ¬ i.Matches key w.playerId)

/-- Any other state is answered as it would have been without the
call. -/
def Spares (codec : Codec σ) (i : Invalidation) : Prop :=
  ∀ r, (tracedRuns codec).Reach r →
    ∀ key w, r.stored key = some w → ¬ i.Matches key w.playerId →
      ∀ now unmodified,
        ((r.state.invalidateMatching i.pattern i.playerId).get key now
          unmodified).2 = (r.state.get key now unmodified).2

/-- Neither argument is given and falsy. -/
def Truthy (i : Invalidation) : Prop :=
  i.pattern ≠ some "" ∧ i.playerId ≠ some 0

instance (i : Invalidation) : Decidable i.Truthy :=
  inferInstanceAs (Decidable (_ ∧ _))

end Invalidation

-- ==== the invariant

/-- The entry holds what the `set` stored. -/
def Stored.Backs (w : Stored σ) (e : CacheEntry σ) : Prop :=
  w.data = e.data ∧ w.playerId = e.playerId

/-- Each entry holds what the noted `set` stored. `gone` is what is not
there of the `set`s before number `n`. -/
structure Traced (n : Nat) (gone : String → Int → Prop)
    (r : TracedRun σ) : Prop where
  later : n ≤ r.count
  backed : ∀ key e, r.state.cache.get? key = some e →
    ∃ w, r.stored key = some w ∧ w.Backs e ∧ w.number < r.count
      ∧ (w.number < n → ¬ gone key w.playerId)

section Steps

variable {codec : Codec σ} {n : Nat} {gone : String → Int → Prop}
variable {r r' : TracedRun σ}

theorem Traced.of_entries (h : Traced n gone r)
    (hcount : r'.count = r.count + 1) (hstored : r'.stored = r.stored)
    (hentries : ∀ key e, r'.state.cache.get? key = some e →
      r.state.cache.get? key = some e) :
    Traced n gone r' := by
  refine ⟨by have := h.later; omega, fun key e he => ?_⟩
  obtain ⟨w, hw, hbacks, hnumber, hgone⟩ :=
    h.backed key e (hentries key e he)
  rw [hstored, hcount]
  exact ⟨w, hw, hbacks, by omega, hgone⟩

theorem stores_iff {c : StateCache σ} {data : σ} :
    c.stores codec data = true ↔ c.Takes codec data := decide_eq_true_iff

theorem Traced.set (h : Traced n gone r) (key : String) (data : σ)
    (playerId : Int) (now : Rat) :
    Traced n gone (r.step codec (.set key data playerId now)) := by
  by_cases htakes : r.state.Takes codec data
  · refine ⟨Nat.le_succ_of_le h.later, fun k e he => ?_⟩
    have hstored : (r.step codec (.set key data playerId now)).stored
        = Function.update r.stored key (some ⟨r.count, data, playerId⟩) :=
      if_pos (stores_iff.mpr htakes)
    have hentry : (r.state.set codec key data playerId now).cache.get? k
        = some e := he
    rw [StateCache.set_of_takes htakes] at hentry
    rw [hstored]
    by_cases hk : k = key
    · subst hk
      rw [if_pos rfl] at hentry
      cases hentry
      refine ⟨_, Function.update_self .., ⟨rfl, rfl⟩, Nat.lt_succ_self _, ?_⟩
      intro hlt
      exact absurd hlt (Nat.not_lt_of_le h.later)
    · rw [if_neg hk] at hentry
      obtain ⟨w, hw, hbacks, hnumber, hgone⟩ :=
        h.backed k e (StateCache.get?_of_evict hentry)
      refine ⟨w, ?_, hbacks, Nat.lt_succ_of_lt hnumber, hgone⟩
      rw [Function.update_of_ne hk]
      exact hw
  · have hstate : (r.step codec (.set key data playerId now)).state
        = r.state := StateCache.set_of_not_takes htakes key playerId now
    refine h.of_entries rfl ?_ fun k e he => ?_
    · exact if_neg fun hstores => htakes (stores_iff.mp hstores)
    · rw [hstate] at he
      exact he

/-- An entry that `invalidate` leaves is one that was there and that the
filter keeps. -/
theorem get?_invalidateMatching (c : StateCache σ)
    (pattern : Option String) (playerId : Option Int) (key : String) :
    (c.invalidateMatching pattern playerId).cache.get? key
      = (c.cache.get? key).filter fun e =>
          !((pattern.any fun s => s != "" && PyStr.hasSubstring key s)
            || playerId.any fun p => p != 0 && e.playerId == p) :=
  Dict.get?_filter ..

theorem Traced.step (h : Traced n gone r) (op : CacheOp σ) :
    Traced n gone (r.step codec op) := by
  cases op with
  | set key data playerId now => exact h.set key data playerId now
  | get key now unmodified =>
    refine h.of_entries rfl rfl fun k e he => ?_
    exact ((StateCache.get_entry r.state key now unmodified k e).mp he).1
  | invalidate pattern playerId =>
    refine h.of_entries rfl rfl fun k e he => ?_
    have hfilter :=
      (get?_invalidateMatching r.state pattern playerId k).symm.trans he
    exact (Option.filter_eq_some_iff.mp hfilter).1
  | clear =>
    refine h.of_entries rfl rfl fun k e he => ?_
    cases (Dict.get?_empty k).symm.trans he

theorem Traced.exec (h : Traced n gone r) {ops : List (CacheOp σ)}
    (hops : (tracedRuns codec).exec r ops = some r') :
    Traced n gone r' := by
  induction ops generalizing r with
  | nil =>
    cases hops
    exact h
  | cons op ops ih => exact ih (h.step op) hops

/-- In every run the entries hold what was stored; nothing need be
gone. -/
theorem reach_traced (h : (tracedRuns codec).Reach r) :
    Traced 0 (fun _ _ => False) r := by
  refine h.invariant ?_ ?_
  · intro r hinit
    refine ⟨Nat.zero_le _, fun key e he => ?_⟩
    have hempty : r.state.cache = ∅ := hinit.1
    rw [hempty, Dict.get?_empty] at he
    cases he
  · intro r op r' hr hs
    cases hs
    exact hr.step op

end Steps

-- ==== a call with its arguments

namespace Invalidation

variable {i : Invalidation}

/-- When neither argument is falsy, the filter takes out what is to
go. -/
theorem Truthy.removed_iff (h : i.Truthy) (key : String) (p : Int) :
    ((i.pattern.any fun s => s != "" && PyStr.hasSubstring key s)
        || i.playerId.any fun q => q != 0 && p == q) = true
      ↔ i.Matches key p := by
  obtain ⟨pattern, playerId⟩ := i
  obtain ⟨hpattern, hplayer⟩ := h
  rw [Bool.or_eq_true]
  refine or_congr ?_ ?_
  · cases pattern with
    | none => rfl
    | some s =>
      have hs : s ≠ "" := fun hs => hpattern (congrArg some hs)
      simp [hs]
  · cases playerId with
    | none => simp
    | some q =>
      have hq : (q != 0) = true :=
        bne_iff_ne.mpr fun hq => hplayer (congrArg some hq)
      rw [Option.any_some, hq, Bool.true_and, beq_iff_eq, Option.some_inj]
      exact eq_comm

theorem Truthy.get?_invalidated (h : i.Truthy) (c : StateCache σ)
    {key : String} {e : CacheEntry σ} :
    (c.invalidateMatching i.pattern i.playerId).cache.get? key = some e
      ↔ c.cache.get? key = some e ∧ ¬ i.Matches key e.playerId := by
  rw [get?_invalidateMatching, Option.filter_eq_some_iff]
  refine and_congr_right fun _ => ?_
  rw [← h.removed_iff, Bool.not_eq_true', Bool.not_eq_true]

theorem Truthy.removes (h : i.Truthy) (codec : Codec σ) :
    Removes codec i := by
  intro r r' after hr hexec key now unmodified d hget
  have htraced := reach_traced hr
  have hcall : Traced r.count i.Matches
      (r.step codec (.invalidate i.pattern i.playerId)) := by
    refine ⟨Nat.le_succ _, fun k e he => ?_⟩
    obtain ⟨hthere, hnot⟩ := (h.get?_invalidated r.state).mp he
    obtain ⟨w, hw, hbacks, hnumber, -⟩ := htraced.backed k e hthere
    refine ⟨w, hw, hbacks, Nat.lt_succ_of_lt hnumber, fun _ => ?_⟩
    rw [hbacks.2]
    exact hnot
  rw [StateCache.get_snd] at hget
  obtain ⟨e, he, rfl⟩ := Option.map_eq_some_iff.mp hget
  have hentry := (Option.filter_eq_some_iff.mp he).1
  obtain ⟨w, hw, hbacks, -, hgone⟩ := (hcall.exec hexec).backed key e hentry
  exact ⟨w, hw, hbacks.1, hgone⟩

theorem Truthy.spares (h : i.Truthy) (codec : Codec σ) :
    Spares codec i := by
  intro r hr key w hw hnot now unmodified
  rw [StateCache.get_snd, StateCache.get_snd]
  have hget : (r.state.invalidateMatching i.pattern
      i.playerId).cache.get? key = r.state.cache.get? key := by
    cases he : r.state.cache.get? key with
    | none =>
      rw [get?_invalidateMatching, he]
      rfl
    | some e =>
      obtain ⟨w', hw', hbacks, -⟩ := (reach_traced hr).backed key e he
      cases hw.symm.trans hw'
      rw [hbacks.2] at hnot
      exact (h.get?_invalidated r.state).mpr ⟨he, hnot⟩
  rw [hget]
  rfl

-- ==== what is not removed

theorem hasSubstring_empty (s : String) :
    PyStr.hasSubstring "" s = (s == "") := by
  have hlist : s.toList = [] ↔ s = "" := String.toList_eq_nil_iff
  cases h : s.toList with
  | nil =>
    rw [hlist.mp h]
    rfl
  | cons c cs =>
    have hs : s ≠ "" := by
      intro hs
      rw [hlist.mpr hs] at h
      cases h
    have hnot : PyStr.hasSubstring "" s = false := by
      simp [PyStr.hasSubstring, h]
    rw [hnot, beq_eq_false_iff_ne.mpr hs]

/-- An entry of player 0 under the empty key stays, whatever the
call. -/
theorem stays_of_falsy (c : StateCache σ) (i : Invalidation)
    {e : CacheEntry σ} (he : c.cache.get? "" = some e)
    (hplayer : e.playerId = 0) :
    (c.invalidateMatching i.pattern i.playerId).cache.get? "" = some e := by
  rw [get?_invalidateMatching, he]
  refine Option.filter_some_pos ?_
  rw [Bool.not_eq_true', Bool.or_eq_false_iff]
  constructor
  · cases i.pattern with
    | none => rfl
    | some s =>
      rw [Option.any_some, hasSubstring_empty]
      simp
  · cases i.playerId with
    | none => rfl
    | some p =>
      rw [Option.any_some, hplayer]
      by_cases hp : p = 0
      · rw [hp]
        rfl
      · rw [beq_eq_false_iff_ne.mpr (Ne.symm hp), Bool.and_false]

def roomFor (codec : Codec σ) (d : σ) : StateCache σ :=
  { StateCache.init with
    enableCompression := false
    maxEntries := 1
    maxSizeBytes := codec.jsonBytes d
    maxCacheSizeBytes := codec.jsonBytes d }

/-- The run of `roomFor` before its first operation. -/
def emptyRun (codec : Codec σ) (d : σ) : TracedRun σ where
  state := roomFor codec d
  count := 0
  used := fun _ => 0
  stored := fun _ => none

/-- The state is set for player 0 under the empty key. -/
def oneSet (codec : Codec σ) (d : σ) : TracedRun σ :=
  (emptyRun codec d).step codec (.set "" d 0 0)

theorem takes_roomFor (codec : Codec σ) (d : σ) :
    (roomFor codec d).Takes codec d := Nat.le_refl _

theorem reach_oneSet (codec : Codec σ) (d : σ) :
    (tracedRuns codec).Reach (oneSet codec d) :=
  .step (.init ⟨rfl, Nat.le_refl 1, Nat.le_refl _⟩) rfl

theorem stored_oneSet (codec : Codec σ) (d : σ) :
    (oneSet codec d).stored ""
      = some { number := 0, data := d, playerId := 0 } := by
  have hstored : (oneSet codec d).stored
      = Function.update (emptyRun codec d).stored "" (some ⟨0, d, 0⟩) :=
    if_pos (stores_iff.mpr (takes_roomFor codec d))
  rw [hstored, Function.update_self]

theorem entry_oneSet (codec : Codec σ) (d : σ) :
    (oneSet codec d).state.cache.get? ""
      = some ((roomFor codec d).newEntry codec d 0 0) :=
  (StateCache.set_of_takes (takes_roomFor codec d) "" 0 0 "").trans
    (if_pos rfl)

/-- Whatever the call, a `get` after it returns that state. -/
theorem get_oneSet (codec : Codec σ) (d : σ) (i : Invalidation) :
    (((oneSet codec d).state.invalidateMatching i.pattern
      i.playerId).get "" 0 true).2 = some d := by
  rw [StateCache.get_snd,
    stays_of_falsy _ i (entry_oneSet codec d) rfl]
  have hhit : StateCache.hit ((oneSet codec d).state.invalidateMatching
      i.pattern i.playerId) 0 true
      ((roomFor codec d).newEntry codec d 0 0) = true := by
    have hlimits : (oneSet codec d).state.limits = (roomFor codec d).limits :=
      StateCache.set_limits ..
    have httl : ((oneSet codec d).state.invalidateMatching i.pattern
        i.playerId).ttl = 5 := (congrArg StateCache.ttl hlimits :)
    simp [StateCache.hit, StateCache.Fresh, StateCache.verify, httl,
      StateCache.newEntry]
  rw [Option.filter_some_pos hhit]
  rfl

/-- So a call that is to remove it does not. -/
theorem not_removes (codec : Codec σ) (d : σ) {i : Invalidation}
    (h : i.Matches "" 0) : ¬ Removes codec i := by
  intro hremoves
  obtain ⟨w, hw, -, hgone⟩ := hremoves (oneSet codec d) _ []
    (reach_oneSet codec d) rfl "" 0 true d (get_oneSet codec d i)
  have hstored : (oneSet codec d).stored "" = some w := hw
  rw [stored_oneSet] at hstored
  cases hstored
  exact hgone Nat.zero_lt_one h

theorem matches_of_falsy {i : Invalidation} (h : ¬ i.Truthy) :
    i.Matches "" 0 := by
  by_cases hplayer : i.playerId = some 0
  · exact .inr hplayer
  · left
    have hpattern : i.pattern = some "" := by
      by_contra hpattern
      exact h ⟨hpattern, hplayer⟩
    rw [hpattern]
    rfl

end Invalidation

-- ==== the results

/-- A call of `invalidate` removes what it is to remove in every run,
and leaves the rest, just when neither argument is given and falsy. -/
theorem invalidation_complete_iff (codec : Codec σ) (d : σ)
    (i : Invalidation) :
    (i.Removes codec ∧ i.Spares codec) ↔ i.Truthy := by
  constructor
  · rintro ⟨hremoves, -⟩
    by_contra hfalsy
    exact Invalidation.not_removes codec d
      (Invalidation.matches_of_falsy hfalsy) hremoves
  · intro h
    exact ⟨h.removes codec, h.spares codec⟩

/-- `invalidate(player_id=0)` after a state was set for player 0: it is
still returned. -/
theorem invalidation_of_player_zero_fails :
    ¬ Invalidation.Removes (⟨fun _ => 100, fun _ => 100⟩ : Codec Nat)
      ⟨none, some 0⟩ :=
  Invalidation.not_removes _ 7 (.inr rfl)

end Freeciv3d.Proxy
