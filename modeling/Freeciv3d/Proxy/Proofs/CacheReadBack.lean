/-
When a cached state is read back.

# The invariant

Until an operation takes it out, the entry of a key something was
promised of holds what was signed (`Backed`); of a compressed one the
data as well. So within the time to live a `get` finds it, and returns
it if what is signed again is the message that was signed.

# When it is not

The message has the five-minute window in it, and a `get` after its end
removes an entry that has not expired. And it has the sorted text of the
data: a compressed state is signed with its keys as they are and checked
with the keys as strings, which are sorted otherwise (2 before 10, but
"10" before "2"). A dict that is shared may also have been changed.
`SignsTheSame` says that none of this is so.
-/
import Mathlib
import Freeciv3d.Proxy.SignedCache
import Freeciv3d.Proxy.Proofs.CacheEntries

namespace Freeciv3d.Proxy

open Lib

namespace PromisedCache

variable {env : CacheEnv} {r r' : PromisedCache}

-- ==== the statement

/-- The `get` of a key that something is promised of returns a state
that prints as the optimized one. -/
def ReadsBack (env : CacheEnv) (r : PromisedCache) : JsonCacheOp → Prop
  | .get key now verifiedAt => ∀ p, r.promises key = some p →
      now - p.timestamp < r.state.ttl →
      ∃ v, (SignedCache.get env r.state key now verifiedAt).2
          = some (some v)
        ∧ v.dumps env.toJsonRuntime = p.optimized.dumps env.toJsonRuntime
  | _ => True

/-- What is signed again prints as it did: a compressed state sorted
by its keys as strings, a shared dict because it was not changed. -/
def PrintsAsSigned (env : CacheEnv) (e : CacheEntry SignedState)
    (optimized : Json) : Prop :=
  if e.isCompressed then
    (optimized.reparsed env.toJsonRuntime).dumpsSorted env.toJsonRuntime
      = optimized.dumpsSorted env.toJsonRuntime
  else
    e.data.data.dumps env.toJsonRuntime
        = optimized.dumps env.toJsonRuntime
      ∧ e.data.data.dumpsSorted env.toJsonRuntime
        = optimized.dumpsSorted env.toJsonRuntime

/-- A `get` of a key that something is promised of signs what was
signed, in the same window. -/
def SignsTheSame (env : CacheEnv) (r : PromisedCache) :
    JsonCacheOp → Prop
  | .get key now verifiedAt => ∀ p, r.promises key = some p →
      now - p.timestamp < r.state.ttl →
      StateCache.window verifiedAt = StateCache.window p.signedAt
        ∧ ∀ e, r.state.cache.get? key = some e →
          PrintsAsSigned env e p.optimized
  | _ => True

-- ==== the promises

/-- An entry that holds what was promised. -/
structure Holds (env : CacheEnv) (key : String)
    (e : CacheEntry SignedState) (p : Promise) : Prop where
  timestamp : e.timestamp = p.timestamp
  playerId : e.playerId = p.playerId
  signature : SignedCache.generateSignature env p.optimized p.playerId key
    p.signedAt = some e.data.signature
  compressed : e.isCompressed = true → e.data.data = p.optimized

/-- Every promise has its entry. -/
def Backed (env : CacheEnv) (r : PromisedCache) : Prop :=
  ∀ key p, r.promises key = some p →
    ∃ e, r.state.cache.get? key = some e ∧ Holds env key e p

theorem Holds.signature_ne_empty {key : String}
    {e : CacheEntry SignedState} {p : Promise} (h : Holds env key e p) :
    e.data.signature ≠ "" := by
  obtain ⟨text, -, hsignature⟩ := Option.map_eq_some_iff.mp h.signature
  rw [← hsignature]
  exact env.hmac_ne_empty _

theorem dumps_read {key : String} {e : CacheEntry SignedState}
    {p : Promise} (h : Holds env key e p)
    (hprints : PrintsAsSigned env e p.optimized) :
    (SignedCache.read env e).dumps env.toJsonRuntime
        = p.optimized.dumps env.toJsonRuntime
      ∧ (SignedCache.read env e).dumpsSorted env.toJsonRuntime
        = p.optimized.dumpsSorted env.toJsonRuntime := by
  unfold PrintsAsSigned at hprints
  unfold SignedCache.read
  by_cases hc : e.isCompressed = true
  · rw [if_pos hc] at hprints ⊢
    rw [h.compressed hc]
    exact ⟨Json.dumps_reparsed _ _, hprints⟩
  · rw [if_neg hc] at hprints ⊢
    exact hprints

theorem verify_of_signsTheSame {key : String}
    {e : CacheEntry SignedState} {p : Promise} {verifiedAt : Rat}
    (h : Holds env key e p)
    (hwindow : StateCache.window verifiedAt
      = StateCache.window p.signedAt)
    (hprints : PrintsAsSigned env e p.optimized) :
    SignedCache.verifyCacheIntegrity env key e verifiedAt
      = some (true, some (SignedCache.read env e)) := by
  have hsigned : SignedCache.generateSignature env
      (SignedCache.read env e) e.playerId key verifiedAt
      = some e.data.signature := by
    rw [← h.signature]
    unfold SignedCache.generateSignature
    rw [(dumps_read h hprints).2, hwindow, h.playerId]
  unfold SignedCache.verifyCacheIntegrity
  rw [if_neg h.signature_ne_empty, hsigned, Option.map_some, if_pos rfl]

theorem get_of_signsTheSame {c : StateCache SignedState} {key : String}
    {e : CacheEntry SignedState} {p : Promise} {now verifiedAt : Rat}
    (hget : c.cache.get? key = some e) (h : Holds env key e p)
    (hfresh : now - p.timestamp < c.ttl)
    (hwindow : StateCache.window verifiedAt
      = StateCache.window p.signedAt)
    (hprints : PrintsAsSigned env e p.optimized) :
    SignedCache.get env c key now verifiedAt
      = ({ c with cache := c.cache.moveToEnd key },
        some (some (SignedCache.read env e))) := by
  have hfresh' : now - e.timestamp < c.ttl := h.timestamp ▸ hfresh
  unfold SignedCache.get
  rw [hget]
  dsimp only
  rw [if_pos hfresh', verify_of_signsTheSame h hwindow hprints]

/-- A compressed state is signed the same again when the order of the
keys of its dicts is that of their strings. -/
theorem printsAsSigned_of_textOrder {e : CacheEntry SignedState}
    {optimized : Json} {text : String} (hc : e.isCompressed = true)
    (horder : optimized.InTextOrder env.toJsonRuntime)
    (htext : optimized.dumpsSorted env.toJsonRuntime = some text) :
    PrintsAsSigned env e optimized := by
  unfold PrintsAsSigned
  rw [if_pos hc, Json.dumpsSorted_reparsed horder htext, htext]

-- ==== the steps

theorem get?_get_of_ne (c : StateCache SignedState) {key k : String}
    (hk : k ≠ key) (now verifiedAt : Rat) :
    (SignedCache.get env c key now verifiedAt).1.cache.get? k
      = c.cache.get? k := by
  unfold SignedCache.get
  split
  · rfl
  · split
    · split
      · rfl
      · exact Dict.get?_moveToEnd c.cache key k
      · exact Dict.get?_erase_of_ne c.cache hk
    · exact Dict.get?_erase_of_ne c.cache hk

theorem of_unexpired {key k : String} {now : Rat} {p : Promise}
    (h : r.unexpired key now k = some p) :
    r.promises k = some p
      ∧ (k = key → now - p.timestamp < r.state.ttl) := by
  obtain ⟨hp, hkeep⟩ := Option.filter_eq_some_iff.mp h
  refine ⟨hp, fun hk => ?_⟩
  simpa [hk] using hkeep

theorem Backed.get (h : Backed env r) {key : String}
    {now verifiedAt : Rat}
    (hsame : SignsTheSame env r (.get key now verifiedAt)) :
    Backed env (r.step env (.get key now verifiedAt)) := by
  intro k p hpromise
  obtain ⟨hp, hfresh⟩ := of_unexpired hpromise
  obtain ⟨e, hget, hholds⟩ := h k p hp
  refine ⟨e, ?_, hholds⟩
  show (SignedCache.get env r.state key now verifiedAt).1.cache.get? k = _
  by_cases hk : k = key
  · subst hk
    obtain ⟨hwindow, hprints⟩ := hsame p hp (hfresh rfl)
    rw [get_of_signsTheSame hget hholds (hfresh rfl) hwindow
      (hprints e hget)]
    exact (Dict.get?_moveToEnd r.state.cache k k).trans hget
  · rw [get?_get_of_ne r.state hk]
    exact hget

theorem Backed.remaining (h : Backed env r)
    {state : StateCache SignedState} {k : String}
    (hkeep : ∀ e, state.cache.get? k = some e →
      r.state.cache.get? k = some e)
    {p : Promise} (hp : r.remaining state k = some p) :
    ∃ e, state.cache.get? k = some e ∧ Holds env k e p := by
  unfold PromisedCache.remaining at hp
  split at hp
  case isTrue => cases hp
  case isFalse hthere =>
    obtain ⟨e, hget, hholds⟩ := h k p hp
    have hbefore : r.state.cache.contains k = true :=
      Dict.contains_iff.mpr ⟨e, hget⟩
    have hafter : state.cache.contains k = true := by
      simpa [hbefore] using hthere
    obtain ⟨e', hget'⟩ := Dict.contains_iff.mp hafter
    have heq := hkeep e' hget'
    rw [hget] at heq
    cases heq
    exact ⟨e, hget', hholds⟩

theorem set_cases (env : CacheEnv) (c : StateCache SignedState)
    (key : String) (data : Json) (playerId : Int) (signedAt now : Rat) :
    ((SignedCache.set env c key data playerId signedAt now).1 = c
        ∧ (SignedCache.set env c key data playerId signedAt now).2
          ≠ some true)
      ∨ ∃ optimized signature, env.optimize data = some optimized
        ∧ SignedCache.generateSignature env optimized playerId key signedAt
          = some signature
        ∧ c.Takes env.codec ⟨optimized, optimized, signature⟩
        ∧ SignedCache.set env c key data playerId signedAt now
          = (c.set env.codec key ⟨optimized, optimized, signature⟩ playerId
              now, some true) := by
  unfold SignedCache.set
  cases hoptimized : env.optimize data with
  | none => exact .inl ⟨rfl, by simp⟩
  | some optimized =>
    dsimp only
    by_cases hstores : c.stores env.codec ⟨optimized, optimized, ""⟩ = true
    · rw [if_pos hstores]
      cases hsignature : SignedCache.generateSignature env optimized
        playerId key signedAt with
      | none => exact .inl ⟨rfl, by simp⟩
      | some signature =>
        refine .inr ⟨optimized, signature, rfl, hsignature, ?_, rfl⟩
        exact of_decide_eq_true hstores
    · rw [if_neg hstores]
      exact .inl ⟨rfl, by simp⟩

/-- A `set` that returns `True` has stored what it promises. -/
theorem holds_set {c : StateCache SignedState} {key : String}
    {data : Json} {playerId : Int} {signedAt now : Rat} {p : Promise}
    (h : promised env data playerId signedAt now
      (SignedCache.set env c key data playerId signedAt now).2 = some p) :
    ∃ e, (SignedCache.set env c key data playerId signedAt now).1.cache.get?
        key = some e ∧ Holds env key e p := by
  obtain ⟨hreturned, hsome⟩ := Option.ite_none_right_eq_some.mp h
  rcases set_cases env c key data playerId signedAt now with
    ⟨-, hfails⟩ | ⟨optimized, signature, hoptimized, hsignature, htakes, hset⟩
  · exact absurd hreturned hfails
  · rw [hoptimized] at hsome
    cases hsome
    rw [hset]
    refine ⟨c.newEntry env.codec ⟨optimized, optimized, signature⟩ playerId
      now, ?_, ⟨rfl, rfl, hsignature, fun _ => rfl⟩⟩
    exact (StateCache.set_of_takes htakes key playerId now key).trans
      (if_pos rfl)

theorem promises_set (env : CacheEnv) (r : PromisedCache) (key : String)
    (data : Json) (playerId : Int) (signedAt now : Rat) :
    (r.step env (.set key data playerId signedAt now)).promises
      = Function.update
        (r.remaining
          (SignedCache.set env r.state key data playerId signedAt now).1) key
        (promised env data playerId signedAt now
          (SignedCache.set env r.state key data playerId signedAt now).2) :=
  rfl

theorem Backed.set (h : Backed env r) (key : String) (data : Json)
    (playerId : Int) (signedAt now : Rat) :
    Backed env (r.step env (.set key data playerId signedAt now)) := by
  intro k p hpromise
  rw [promises_set] at hpromise
  by_cases hk : k = key
  · subst hk
    rw [Function.update_self] at hpromise
    exact holds_set hpromise
  · rw [Function.update_of_ne hk] at hpromise
    refine h.remaining (fun e hget => ?_) hpromise
    have he : (SignedCache.set env r.state key data playerId signedAt
      now).1.cache.get? k = some e := hget
    rcases set_cases env r.state key data playerId signedAt now with
      ⟨hsame, -⟩ | ⟨optimized, signature, -, -, htakes, hset⟩
    · rw [hsame] at he
      exact he
    · rw [hset, StateCache.set_of_takes htakes, if_neg hk] at he
      exact StateCache.get?_of_evict he

theorem Backed.invalidate (h : Backed env r) (pattern : Option String)
    (playerId : Option Int) :
    Backed env (r.step env (.invalidate pattern playerId)) := by
  intro k p hpromise
  refine h.remaining (fun e he => ?_) hpromise
  have hfilter := (Dict.get?_filter r.state.cache _ k).symm.trans he
  exact (Option.filter_eq_some_iff.mp hfilter).1

theorem Backed.modify (h : Backed env r) (key : String) (data : Json) :
    Backed env (r.step env (.modify key data)) := by
  intro k p hp
  obtain ⟨e, hget, hholds⟩ := h k p hp
  have hmodify := Dict.get?_modify r.state.cache key k fun e =>
    if e.isCompressed then e
    else { e with data := { e.data with data := data } }
  by_cases hk : k = key
  · rw [if_pos hk, hget] at hmodify
    refine ⟨_, hmodify, ?_⟩
    dsimp only
    by_cases hc : e.isCompressed = true
    · rw [if_pos hc]
      exact hholds
    · rw [if_neg hc]
      exact ⟨hholds.timestamp, hholds.playerId, hholds.signature,
        fun hc' => absurd hc' hc⟩
  · rw [if_neg hk, hget] at hmodify
    exact ⟨e, hmodify, hholds⟩

theorem Backed.step (h : Backed env r) {op : JsonCacheOp}
    (hsame : SignsTheSame env r op) : Backed env (r.step env op) := by
  cases op with
  | set key data playerId signedAt now =>
    exact h.set key data playerId signedAt now
  | get key now verifiedAt => exact h.get hsame
  | invalidate pattern playerId => exact h.invalidate pattern playerId
  | clear =>
    intro k p hp
    cases hp
  | modify key data => exact h.modify key data

theorem Backed.readsBack (h : Backed env r) {op : JsonCacheOp}
    (hsame : SignsTheSame env r op) : ReadsBack env r op := by
  cases op with
  | get key now verifiedAt =>
    intro p hp hfresh
    obtain ⟨e, hget, hholds⟩ := h key p hp
    obtain ⟨hwindow, hprints⟩ := hsame p hp hfresh
    refine ⟨SignedCache.read env e, ?_,
      (dumps_read hholds (hprints e hget)).1⟩
    rw [get_of_signsTheSame hget hholds hfresh hwindow (hprints e hget)]
  | set | invalidate | clear | modify => trivial

-- ==== the converse

/-- The message signed again and the one that was signed are one if
their digests are. -/
def NoCollision (env : CacheEnv) (r : PromisedCache) : JsonCacheOp → Prop
  | .get key _ verifiedAt => ∀ p e again signed,
      r.promises key = some p → r.state.cache.get? key = some e →
      (SignedCache.read env e).dumpsSorted env.toJsonRuntime = some again →
      p.optimized.dumpsSorted env.toJsonRuntime = some signed →
      env.hmac (SignedCache.message again (toString p.playerId) key
          (toString (StateCache.window verifiedAt)))
        = env.hmac (SignedCache.message signed (toString p.playerId) key
          (toString (StateCache.window p.signedAt))) →
      SignedCache.message again (toString p.playerId) key
          (toString (StateCache.window verifiedAt))
        = SignedCache.message signed (toString p.playerId) key
          (toString (StateCache.window p.signedAt))
  | _ => True

theorem append_cons_inj_of_not_mem {c : Char} {x y z w : List Char}
    (hz : c ∉ z) (hw : c ∉ w) (h : x ++ c :: z = y ++ c :: w) :
    x = y ∧ z = w := by
  have hreverse : ∀ l l' : List Char, c ∉ l →
      (l.reverse ++ c :: l'.reverse).takeWhile (· != c) = l.reverse := by
    intro l l' hl
    rw [List.takeWhile_append_of_pos]
    · simp
    · intro d hd
      have hne : d ≠ c := fun heq => hl (heq ▸ List.mem_reverse.mp hd)
      simpa using hne
  have hrev := congrArg List.reverse h
  simp only [List.reverse_append, List.reverse_cons, List.append_assoc,
    List.singleton_append] at hrev
  have hzw : z = w := by
    have htake := congrArg (List.takeWhile (· != c)) hrev
    rw [hreverse z x hz, hreverse w y hw] at htake
    exact List.reverse_injective htake
  subst hzw
  exact ⟨List.append_cancel_right h, rfl⟩

theorem bar_not_mem_toString (n : Int) : '|' ∉ (toString n).toList := by
  have hnat : ∀ m : Nat, '|' ∉ (Nat.repr m).toList := by
    intro m hmem
    have hdigit : '|' ∈ Nat.toDigits 10 m := by
      simpa [Nat.repr] using hmem
    exact absurd
      (Nat.isDigit_of_mem_toDigits (by decide) (by decide) hdigit)
      (by decide)
  cases n with
  | ofNat m => exact hnat m
  | negSucc m =>
    show '|' ∉ ("-" ++ Nat.repr (m + 1)).toList
    rw [String.toList_append, List.mem_append]
    rintro (hminus | hdigits)
    · revert hminus
      decide
    · exact hnat _ hdigits

theorem message_inj {text text' playerId key : String} {m n : Int}
    (h : SignedCache.message text playerId key (toString m)
      = SignedCache.message text' playerId key (toString n)) :
    text = text' ∧ m = n := by
  have hlist : ∀ t w : String,
      (SignedCache.message t playerId key w).toList
        = (t.toList ++ '|' :: (playerId.toList ++ '|' :: key.toList))
          ++ '|' :: w.toList := by
    intro t w
    simp [SignedCache.message]
  have heq := congrArg String.toList h
  rw [hlist, hlist] at heq
  obtain ⟨hfront, hwindow⟩ := append_cons_inj_of_not_mem
    (bar_not_mem_toString m) (bar_not_mem_toString n) heq
  refine ⟨String.toList_inj.mp (List.append_cancel_right hfront), ?_⟩
  exact Int.repr_injective (String.toList_inj.mp hwindow)

theorem of_verify {key : String} {e : CacheEntry SignedState}
    {verifiedAt : Rat} {data : Option Json}
    (hsigned : e.data.signature ≠ "")
    (h : SignedCache.verifyCacheIntegrity env key e verifiedAt
      = some (true, data)) :
    SignedCache.generateSignature env (SignedCache.read env e) e.playerId
        key verifiedAt = some e.data.signature
      ∧ data = some (SignedCache.read env e) := by
  unfold SignedCache.verifyCacheIntegrity at h
  rw [if_neg hsigned] at h
  obtain ⟨expected, hexpected, hresult⟩ := Option.map_eq_some_iff.mp h
  by_cases heq : e.data.signature = expected
  · rw [if_pos heq] at hresult
    cases hresult
    exact ⟨heq ▸ hexpected, rfl⟩
  · rw [if_neg heq] at hresult
    cases hresult

theorem of_get {c : StateCache SignedState} {key : String}
    {e : CacheEntry SignedState} {now verifiedAt : Rat} {v : Json}
    (hget : c.cache.get? key = some e)
    (hfresh : now - e.timestamp < c.ttl)
    (h : (SignedCache.get env c key now verifiedAt).2 = some (some v)) :
    SignedCache.verifyCacheIntegrity env key e verifiedAt
      = some (true, some v) := by
  unfold SignedCache.get at h
  rw [hget] at h
  dsimp only at h
  rw [if_pos hfresh] at h
  split at h
  · cases h
  · rename_i data hverify
    rw [hverify]
    cases h
    rfl
  · cases h

theorem Backed.signsTheSame (h : Backed env r) {op : JsonCacheOp}
    (hcollision : NoCollision env r op) (hreads : ReadsBack env r op) :
    SignsTheSame env r op := by
  cases op with
  | get key now verifiedAt =>
    intro p hp hfresh
    obtain ⟨e, hget, hholds⟩ := h key p hp
    obtain ⟨v, hreturned, hdumps⟩ := hreads p hp hfresh
    have hfresh' : now - e.timestamp < r.state.ttl :=
      hholds.timestamp ▸ hfresh
    obtain ⟨hagain, hdata⟩ := of_verify hholds.signature_ne_empty
      (of_get hget hfresh' hreturned)
    cases hdata
    obtain ⟨again, htext, hmac⟩ := Option.map_eq_some_iff.mp hagain
    obtain ⟨signed, hsigned, hmac'⟩ :=
      Option.map_eq_some_iff.mp hholds.signature
    rw [hholds.playerId] at hmac
    obtain ⟨heq, hwindow⟩ := message_inj
      (hcollision p e again signed hp hget htext hsigned
        (hmac.trans hmac'.symm))
    refine ⟨hwindow, fun e' hget' => ?_⟩
    rw [hget] at hget'
    cases hget'
    have hsorted : (SignedCache.read env e).dumpsSorted
        env.toJsonRuntime = p.optimized.dumpsSorted env.toJsonRuntime := by
      rw [htext, hsigned, heq]
    unfold PrintsAsSigned
    unfold SignedCache.read at hsorted hdumps
    by_cases hc : e.isCompressed = true
    · rw [if_pos hc, hholds.compressed hc] at hsorted
      rw [if_pos hc]
      exact hsorted
    · rw [if_neg hc] at hsorted hdumps ⊢
      exact ⟨hdumps, hsorted⟩
  | set | invalidate | clear | modify => trivial

-- ==== runs

theorem backed_of_init (h : (jsonCacheRuns env).init r) : Backed env r := by
  intro key p hp
  rw [h.2] at hp
  cases hp

/-- In a run from an empty cache every `get` within the time to live
returns what prints as the optimized state, if every one signs what was
signed, in the same window; and only if, as long as no digests
collide. -/
theorem reads_back_iff (h : (jsonCacheRuns env).init r)
    (ops : List JsonCacheOp) :
    ((jsonCacheRuns env).Along (SignsTheSame env) r ops →
        (jsonCacheRuns env).Along (ReadsBack env) r ops)
      ∧ ((jsonCacheRuns env).Along (NoCollision env) r ops →
        (jsonCacheRuns env).Along (ReadsBack env) r ops →
          (jsonCacheRuns env).Along (SignsTheSame env) r ops) := by
  have hbacked := backed_of_init h
  constructor
  · refine Lts.along_of_along (J := fun r => Backed env r) ?_ hbacked
    intro r op r' hbacked hsame hstep
    cases Option.some.inj hstep
    exact ⟨hbacked.readsBack hsame, hbacked.step hsame⟩
  · intro hcollision hreads
    refine Lts.along_of_along (J := fun r => Backed env r) ?_ hbacked
      (hcollision.and hreads)
    intro r op r' hbacked hboth hstep
    cases Option.some.inj hstep
    have hsame := hbacked.signsTheSame hboth.1 hboth.2
    exact ⟨hsame, hbacked.step hsame⟩

/-- Plain ASCII strings, no floats, and digests that are the message
with a mark. -/
def asciiEnv : CacheEnv where
  floatRepr _ := "?"
  quote s := "\"" ++ s ++ "\""
  repr _ := "?"
  hmac message := "#" ++ message
  hmac_ne_empty message h := by simpa using congrArg String.length h
  gzip _ := 80
  maxCities := 5

def start : PromisedCache := ⟨StateCache.init, fun _ => none⟩

theorem init_start : (jsonCacheRuns asciiEnv).init start := ⟨rfl, rfl⟩

/-- A state with two units, of more than a kilobyte. -/
def twoUnits (id id' : Int) : Json :=
  .dict
    [(.str "log", .str (String.ofList (List.replicate 1200 '.'))),
      (.str "units",
        .dict [(.int id, .str "Workers"), (.int id', .str "Explorer")])]

def setAndGet (data : Json) (setAt getAt : Rat) : List JsonCacheOp :=
  [.set "state_1" data 1 setAt setAt, .get "state_1" getAt getAt]

def afterSet (data : Json) (setAt : Rat) : PromisedCache :=
  start.step asciiEnv (.set "state_1" data 1 setAt setAt)

theorem promises_afterSet {data : Json} {setAt : Rat}
    (hoptimized : asciiEnv.optimize data = some data)
    (hreturned : (SignedCache.set asciiEnv start.state "state_1" data 1 setAt
      setAt).2 = some true) :
    (afterSet data setAt).promises "state_1"
      = some ⟨data, 1, setAt, setAt⟩ := by
  rw [afterSet, promises_set, Function.update_self, promised,
    if_pos hreturned, hoptimized]
  rfl

theorem not_readsBack {data : Json} {setAt getAt : Rat}
    (hoptimized : asciiEnv.optimize data = some data)
    (hreturned : (SignedCache.set asciiEnv start.state "state_1" data 1 setAt
      setAt).2 = some true)
    (hfresh : getAt - setAt < ((afterSet data setAt).state.ttl : Rat))
    (hnone : ((SignedCache.get asciiEnv (afterSet data setAt).state "state_1"
      getAt getAt).2.map Option.isNone) = some true) :
    ¬ (jsonCacheRuns asciiEnv).Along (ReadsBack asciiEnv) start
      (setAndGet data setAt getAt) := by
  intro h
  have hget : ReadsBack asciiEnv (afterSet data setAt)
      (.get "state_1" getAt getAt) := h.2.1
  obtain ⟨v, hv, -⟩ :=
    hget _ (promises_afterSet hoptimized hreturned) hfresh
  rw [hv] at hnone
  cases hnone

/-- A state is lost when a window ends between its `set` and its `get`,
and when two of its keys are in another order as strings. -/
theorem reads_back_fails :
    (jsonCacheRuns asciiEnv).init start
      ∧ ¬ (jsonCacheRuns asciiEnv).Along (ReadsBack asciiEnv) start
        (setAndGet (.dict [(.str "units", .dict [])]) 299 301)
      ∧ ¬ (jsonCacheRuns asciiEnv).Along (ReadsBack asciiEnv) start
        (setAndGet (twoUnits 2 10) 0 1) := by
  refine ⟨init_start, ?_, ?_⟩
  · exact not_readsBack rfl (by decide +kernel) (by decide +kernel)
      (by decide +kernel)
  · exact not_readsBack rfl (by decide +kernel) (by decide +kernel)
      (by decide +kernel)

theorem signsTheSame_twoUnits :
    SignsTheSame asciiEnv (afterSet (twoUnits 2 3) 0)
      (.get "state_1" 1 1) := by
  have hpromise : (afterSet (twoUnits 2 3) 0).promises "state_1"
      = some ⟨twoUnits 2 3, 1, 0, 0⟩ :=
    promises_afterSet rfl (by decide +kernel)
  have hcompressed : ((afterSet (twoUnits 2 3) 0).state.cache.get?
      "state_1").map CacheEntry.isCompressed = some true := by
    decide +kernel
  have hsorted : ((twoUnits 2 3).dumpsSorted
      asciiEnv.toJsonRuntime).isSome = true := by decide +kernel
  intro p hp _
  rw [hpromise] at hp
  cases hp
  refine ⟨by decide +kernel, fun e hget => ?_⟩
  rw [hget] at hcompressed
  obtain ⟨text, htext⟩ := Option.isSome_iff_exists.mp hsorted
  refine printsAsSigned_of_textOrder (Option.some.inj hcompressed) ?_ htext
  exact ⟨by decide, trivial, ⟨by decide, trivial, trivial, trivial⟩, trivial⟩

/-- Units 2 and 3 are read back. -/
theorem reads_back_twoUnits :
    (jsonCacheRuns asciiEnv).Along (ReadsBack asciiEnv) start
      (setAndGet (twoUnits 2 3) 0 1) :=
  (reads_back_iff init_start _).1 ⟨trivial, signsTheSame_twoUnits, trivial⟩

end PromisedCache

end Freeciv3d.Proxy
