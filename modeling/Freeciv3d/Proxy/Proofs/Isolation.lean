/-
What one game's state queries can tell about the other games of the
process.

# The leak

The key of the shared cache is the player, the format and the turn of
the query; the game is not in it, as it is in the extractor's own key
(`QueryWorld.extractorKey`). Two games whose queries agree in the three
share an entry, and within its time to live the one is answered with
the state of the other (`answers_other_game`). Less directly, the other
games use up the cache's room, `on_close` invalidates by player id in
all games, and a build that finds a `CivCom` with another player id at
hand searches the registry across games.

# What keeps games apart

`Isolating g` says of a step that none of this happens to game `g`. A
game sees its own labels only (`visible`), and what it can see of the
process is its own objects and its slice of the cache: the entries it
stored, while they are fresh (`slice`). Each cache operation has one
lemma on slices, and `unwinding` puts them together.
-/
import Freeciv3d.Proxy.Proofs.CacheEntries
import Freeciv3d.Proxy.StateQueryHandler
import Freeciv3d.Proxy.StateQueries

namespace Freeciv3d.Proxy

open Lib

namespace QueryHost

variable {γ ε σ : Type}

-- ==== what is seen

def actor : HostAct ε → GameId
  | .game g _ => g
  | .ask g _ _ => g
  | .answer g _ _ _ _ => g
  | .close g _ _ => g

def own : HostAct ε → HostAct ε
  | .answer g i _ u now => .answer g i none u now
  | .game g e => .game g e
  | .ask g a q => .ask g a q
  | .close g p now => .close g p now

/-- What a game sees of a step: of another game's nothing. -/
def visible (g : GameId) (a : HostAct ε) : Option (HostAct ε) :=
  if actor a = g then some (own a) else none

theorem visible_eq_none {g : GameId} {a : HostAct ε} :
    visible g a = none ↔ actor a ≠ g := by
  unfold visible
  split
  next h => exact ⟨nofun, fun hne => absurd h hne⟩
  next h => exact ⟨fun _ => h, fun _ => rfl⟩

def answersTo (w : QueryHost γ σ) (g : GameId) :
    List (GameId × AgentId × StateReply σ) :=
  w.answers.filter fun r => r.1 = g

/-- An entry that a query of `g` stored, and that is fresh. -/
def Holds (w : QueryHost γ σ) (g : GameId) (τ : Rat) (k : String)
    (e : CacheEntry σ) : Prop :=
  w.storedBy k = some g ∧ w.stateCache.Fresh τ e

instance (w : QueryHost γ σ) (g : GameId) (τ : Rat) (k : String)
    (e : CacheEntry σ) : Decidable (w.Holds g τ k e) :=
  inferInstanceAs (Decidable (_ ∧ _))

def slice (w : QueryHost γ σ) (g : GameId) (τ : Rat) (k : String) :
    Option (CacheEntry σ) :=
  (w.stateCache.cache.get? k).filter fun e => decide (w.Holds g τ k e)

/-- Two processes that are the same to a game. -/
structure Alike (g : GameId) (s t : QueryHost γ σ) : Prop where
  games : s.games g = t.games g
  limits : s.stateCache.limits = t.stateCache.limits
  slice : ∀ τ, s.now ≤ τ → t.now ≤ τ → ∀ k, s.slice g τ k = t.slice g τ k
  answers : s.answersTo g = t.answersTo g

theorem Alike.symm {g : GameId} {s t : QueryHost γ σ} (h : Alike g s t) :
    Alike g t s where
  games := h.games.symm
  limits := h.limits.symm
  slice := fun τ ht hs k => (h.slice τ hs ht k).symm
  answers := h.answers.symm

-- ==== the condition

/-- An answered query leaves a game alone: its key is no fresh entry's
of the other side, it reads no `CivCom` across the border of the game,
and if it stores a state, the entries of the game need not make
room. -/
structure QueryApart (g : GameId) (w : QueryHost γ σ) (g' : GameId)
    (key : String) (f : Option (GameId × AgentId)) (u : Bool) (now : Rat) :
    Prop where
  border : ∀ x ∈ w.stateCache.cache.entries, x.1 = key →
    w.stateCache.Fresh now x.2 → (w.storedBy key = some g ↔ g' = g)
  stray : f.all (fun f => g' ≠ g ∧ f.1 ≠ g) = true
  room : (w.stateCache.get key now u).2.isNone = true →
    ∀ x ∈ (w.stateCache.get key now u).1.cache.entries, w.Holds g now x.1 x.2 →
      (w.stateCache.get key now u).1.Spares x.1

instance (g : GameId) (w : QueryHost γ σ) (g' : GameId) (key : String)
    (f : Option (GameId × AgentId)) (u : Bool) (now : Rat) :
    Decidable (QueryApart g w g' key f u now) :=
  decidable_of_iff (_ ∧ _ ∧ _) ⟨fun ⟨h₁, h₂, h₃⟩ => ⟨h₁, h₂, h₃⟩,
    fun ⟨h₁, h₂, h₃⟩ => ⟨h₁, h₂, h₃⟩⟩

/-- The steps that leave a game alone. -/
def Isolating (code : GameCode γ ε σ) (g : GameId) (w : QueryHost γ σ) :
    HostAct ε → Prop
  | .answer g' i found u now =>
    (w.resumed code g' i).all fun r =>
      decide (QueryApart g w g'
        (cacheKey r.2.2.2 r.2.1.queryFormat r.2.2.1.gameTurn)
        (w.stray code g' r.1 r.2.1 found) u now)
  | .close g' p now =>
    g' = g ∨ ∀ x ∈ w.stateCache.cache.entries, w.Holds g now x.1 x.2 →
      p = 0 ∨ x.2.playerId ≠ p
  | .game _ _ => True
  | .ask _ _ _ => True

instance (code : GameCode γ ε σ) (g : GameId) (w : QueryHost γ σ)
    (a : HostAct ε) : Decidable (Isolating code g w a) := by
  cases a <;> unfold Isolating <;> infer_instance

-- ==== slices, by operation

theorem slice_eq_some {w : QueryHost γ σ} {g : GameId} {τ : Rat}
    {k : String} {e : CacheEntry σ} :
    w.slice g τ k = some e
      ↔ w.stateCache.cache.get? k = some e ∧ w.Holds g τ k e := by
  unfold slice
  rw [Option.filter_eq_some_iff, decide_eq_true_eq]

theorem slice_eq_none {w : QueryHost γ σ} {g : GameId} {τ : Rat}
    {k : String} (h : ∀ e, w.stateCache.cache.get? k = some e →
      ¬ w.Holds g τ k e) : w.slice g τ k = none := by
  rw [Option.eq_none_iff_forall_ne_some]
  intro e he
  obtain ⟨hget, hholds⟩ := slice_eq_some.mp he
  exact h e hget hholds

def fetched (w : QueryHost γ σ) (key : String) (now : Rat) (u : Bool) :
    QueryHost γ σ :=
  { w with stateCache := (w.stateCache.get key now u).1, now := now }

theorem slice_fetched (w : QueryHost γ σ) (g : GameId) {now τ : Rat}
    (hτ : now ≤ τ) (key k : String) (u : Bool) (e : CacheEntry σ) :
    (w.fetched key now u).slice g τ k = some e
      ↔ w.slice g τ k = some e
        ∧ (k = key → StateCache.verify e now u = true) := by
  have hholds : (w.fetched key now u).Holds g τ k e ↔ w.Holds g τ k e :=
    and_congr_right' (StateCache.fresh_congr
      (w.stateCache.get_limits key now u) τ e)
  rw [slice_eq_some, slice_eq_some, hholds]
  show (w.stateCache.get key now u).1.cache.get? k = some e ∧ _ ↔ _
  rw [StateCache.get_entry]
  unfold StateCache.hit
  rw [Bool.and_eq_true, decide_eq_true_eq]
  constructor
  · intro hp
    rcases hp with ⟨⟨he, hhit⟩, hh⟩
    exact ⟨⟨he, hh⟩, fun hk => (hhit hk).2⟩
  · intro hp
    rcases hp with ⟨⟨he, hh⟩, hv⟩
    exact ⟨⟨he, fun hk => ⟨hh.2.mono hτ, hv hk⟩⟩, hh⟩

def closed (w : QueryHost γ σ) (p : Int) (now : Rat) : QueryHost γ σ :=
  { w with stateCache := w.stateCache.invalidate p, now := now }

/-- An `on_close` takes the entries of its player out of every slice,
but for player 0. -/
theorem slice_closed (w : QueryHost γ σ) (g : GameId) (p : Int) (now τ : Rat)
    (k : String) (e : CacheEntry σ) :
    (w.closed p now).slice g τ k = some e
      ↔ w.slice g τ k = some e ∧ (p = 0 ∨ e.playerId ≠ p) := by
  rw [slice_eq_some, slice_eq_some]
  show (w.stateCache.cache.filter _).get? k = some e ∧ w.Holds g τ k e ↔ _
  rw [Dict.get?_filter, Option.filter_eq_some_iff, Bool.not_eq_true',
    Bool.and_eq_false_iff, bne_eq_false_iff_eq, beq_eq_false_iff_ne]
  exact and_right_comm

theorem close_eq_some {w w' : QueryHost γ σ} {p : Int} {now : Rat}
    (h : w.close p now = some w') : w.now ≤ now ∧ w.closed p now = w' := by
  unfold close at h
  split at h
  next => cases h
  next hnow => exact ⟨not_lt.mp hnow, Option.some.inj h⟩

theorem get_own {w : QueryHost γ σ} {g : GameId} {key : String}
    {f : Option (GameId × AgentId)} {u : Bool} {now : Rat}
    (h : QueryApart g w g key f u now) :
    (w.stateCache.get key now u).2
      = ((w.slice g now key).filter
          fun e => StateCache.verify e now u).map CacheEntry.data := by
  rw [StateCache.get_snd]
  congr 1
  rw [Option.ext_iff]
  intro e
  rw [Option.filter_eq_some_iff, Option.filter_eq_some_iff, slice_eq_some]
  unfold StateCache.hit
  rw [Bool.and_eq_true, decide_eq_true_eq]
  constructor
  · intro hp
    rcases hp with ⟨he, hfresh, hv⟩
    have hmine := (h.border (key, e) (Dict.mem_entries_iff.mpr he) rfl
      hfresh).mpr rfl
    exact ⟨⟨he, hmine, hfresh⟩, hv⟩
  · intro hp
    rcases hp with ⟨⟨he, -, hfresh⟩, hv⟩
    exact ⟨he, hfresh, hv⟩

theorem slice_other {w : QueryHost γ σ} {g g' : GameId} (hg : g' ≠ g)
    {key : String} {f : Option (GameId × AgentId)} {u : Bool} {now τ : Rat}
    (h : QueryApart g w g' key f u now) (hτ : now ≤ τ) :
    w.slice g τ key = none := by
  refine slice_eq_none fun e he hh => ?_
  have hborder := h.border (key, e) (Dict.mem_entries_iff.mpr he) rfl
    (hh.2.mono hτ)
  exact hg (hborder.mp hh.1)

/-- The entries of a game need not make room. -/
def Roomy (g : GameId) (w : QueryHost γ σ) : Prop :=
  ∀ x ∈ w.stateCache.cache.entries, w.Holds g w.now x.1 x.2 →
    w.stateCache.Spares x.1

/-- Storing a state that fits, when the entries of the game need not
make room: the slice gets the entry if the game stored it. -/
theorem slice_store {w : QueryHost γ σ} {codec : Codec σ} {g : GameId}
    {τ : Rat} (hτ : w.now ≤ τ) {data : σ}
    (ht : w.stateCache.Takes codec data)
    (hroom : Roomy g w) (g' : GameId) (key : String) (p : Int) (now : Rat)
    (k : String) (e : CacheEntry σ) :
    (w.store codec g' key data p now).slice g τ k = some e
      ↔ if k = key then g' = g ∧ e = w.stateCache.newEntry codec data p now
          ∧ w.stateCache.Fresh τ e
        else w.slice g τ k = some e := by
  have hstored : (w.store codec g' key data p now).storedBy
      = Function.update w.storedBy key (some g') := by
    unfold store
    exact if_neg (Nat.not_lt_of_le ht)
  have hfresh := StateCache.fresh_congr
    (w.stateCache.set_limits codec key data p now) τ e
  rw [slice_eq_some]
  unfold Holds
  rw [hstored]
  show (w.stateCache.set codec key data p now).cache.get? k = some e ∧ _
    ∧ (w.stateCache.set codec key data p now).Fresh τ e ↔ _
  rw [hfresh, StateCache.set_of_takes ht]
  by_cases hk : k = key
  · subst hk
    rw [if_pos rfl, if_pos rfl, Function.update_self, Option.some_inj,
      Option.some_inj]
    constructor
    · intro hp
      rcases hp with ⟨rfl, hg, hf⟩
      exact ⟨hg, rfl, hf⟩
    · intro hp
      rcases hp with ⟨hg, rfl, hf⟩
      exact ⟨rfl, hg, hf⟩
  · rw [if_neg hk, if_neg hk, Function.update_of_ne hk, slice_eq_some]
    refine and_congr_left fun hh => ?_
    refine ⟨StateCache.get?_of_evict, fun he => ?_⟩
    have hspares := hroom (k, e) (Dict.mem_entries_iff.mpr he)
      ⟨hh.1, hh.2.mono hτ⟩
    exact hspares.get? ht he

theorem store_of_not_takes {w : QueryHost γ σ} {codec : Codec σ} {data : σ}
    (ht : ¬ w.stateCache.Takes codec data) (g : GameId) (key : String)
    (p : Int) (now : Rat) : w.store codec g key data p now = w := by
  unfold store
  rw [StateCache.set_of_not_takes ht, if_pos (Nat.lt_of_not_le ht)]

-- ==== steps of the game

section Own

variable {g : GameId} {s t : QueryHost γ σ}

theorem Alike.fetched (h : Alike g s t) {now : Rat} (hs : s.now ≤ now)
    (ht : t.now ≤ now) (key : String) (u : Bool) :
    Alike g (s.fetched key now u) (t.fetched key now u) where
  games := h.games
  limits := by
    show (s.stateCache.get key now u).1.limits = _
    rw [StateCache.get_limits, h.limits]
    exact (t.stateCache.get_limits key now u).symm
  slice := by
    intro τ (hτ : now ≤ τ) _ k
    rw [Option.ext_iff]
    intro e
    rw [slice_fetched s g hτ, slice_fetched t g hτ,
      h.slice τ (le_trans hs hτ) (le_trans ht hτ)]
  answers := h.answers

theorem Alike.setGame (h : Alike g s t) {a b : Hosted γ} (hab : a = b) :
    Alike g (s.setGame g a) (t.setGame g b) where
  games := by
    subst hab
    show Function.update s.games g a g = Function.update t.games g a g
    rw [Function.update_self, Function.update_self]
  limits := h.limits
  slice := h.slice
  answers := h.answers

theorem Alike.reply (h : Alike g s t) (a : AgentId) (r : StateReply σ) :
    Alike g (s.reply g a r) (t.reply g a r) where
  games := h.games
  limits := h.limits
  slice := h.slice
  answers := by
    show (s.answers ++ [_]).filter _ = (t.answers ++ [_]).filter _
    rw [List.filter_append, List.filter_append]
    congr 1
    exact h.answers

theorem Alike.store (h : Alike g s t) {codec : Codec σ} {data : σ}
    (hs : Roomy g s) (ht : Roomy g t) (key : String) (p : Int) (now : Rat) :
    Alike g (s.store codec g key data p now)
      (t.store codec g key data p now) := by
  have hsize : s.stateCache.entrySize codec data
      = t.stateCache.entrySize codec data :=
    (congrArg (fun c => StateCache.entrySize c codec data) h.limits :)
  have hmax : s.stateCache.maxSizeBytes = t.stateCache.maxSizeBytes :=
    (congrArg StateCache.maxSizeBytes h.limits :)
  have htakes : s.stateCache.Takes codec data
      ↔ t.stateCache.Takes codec data := by
    unfold StateCache.Takes
    rw [hsize, hmax]
  by_cases htake : s.stateCache.Takes codec data
  · have hentry : s.stateCache.newEntry codec data p now
        = t.stateCache.newEntry codec data p now := by
      unfold StateCache.newEntry
      rw [hsize]
    refine ⟨h.games, ?_, ?_, h.answers⟩
    · show (s.stateCache.set codec key data p now).limits = _
      rw [StateCache.set_limits, h.limits]
      exact (t.stateCache.set_limits codec key data p now).symm
    · intro τ (hτs : s.now ≤ τ) (hτt : t.now ≤ τ) k
      rw [Option.ext_iff]
      intro e
      rw [slice_store hτs htake hs, slice_store hτt (htakes.mp htake) ht,
        h.slice τ hτs hτt, hentry, StateCache.fresh_congr h.limits]
  · rw [store_of_not_takes htake, store_of_not_takes (htakes.not.mp htake)]
    exact h

theorem build_own {code : GameCode γ ε σ} {w : QueryHost γ σ} {a : AgentId}
    {q : StateQuery} {found : Option (GameId × AgentId)}
    (h : w.stray code g a q found = none) (now : Rat) :
    w.build code g a q found now
      = ((code.build (w.games g).game a q.queryFormat q.withActions now).1,
        Function.update w.games g { w.games g with
          game := (code.build (w.games g).game a q.queryFormat
            q.withActions now).2 }) := by
  unfold build
  rw [h]

theorem Alike.buildReply {code : GameCode γ ε σ} (h : Alike g s t)
    (codec : Codec σ) {a : AgentId} {q : StateQuery}
    {found found' : Option (GameId × AgentId)}
    (hs : s.stray code g a q found = none)
    (ht : t.stray code g a q found' = none) (hrs : Roomy g s)
    (hrt : Roomy g t) (p : Int) (key : String) (now : Rat) :
    Alike g (s.buildReply code codec g a q p key found now)
      (t.buildReply code codec g a q p key found' now) := by
  unfold QueryHost.buildReply
  rw [build_own hs, build_own ht, h.games]
  have hgames := h.setGame (a := { t.games g with
    game := (code.build (t.games g).game a q.queryFormat
      q.withActions now).2 }) rfl
  cases (code.build (t.games g).game a q.queryFormat q.withActions now).1 with
  | error e => exact hgames.reply a _
  | ok data => exact (hgames.store hrs hrt key p now).reply a _

theorem respond_hit (code : GameCode γ ε σ) (codec : Codec σ)
    {w : QueryHost γ σ} (g : GameId) (a : AgentId) {q : StateQuery}
    {v : AgentView} {p : Int} (found : Option (GameId × AgentId)) {u : Bool}
    {now : Rat} {data : σ}
    (h : (w.stateCache.get (cacheKey p q.queryFormat v.gameTurn) now u).2
      = some data) :
    w.respond code codec g a q v p found u now
      = (w.fetched (cacheKey p q.queryFormat v.gameTurn) now u).reply g a
          (cachedReply v q data now) := by
  unfold respond
  dsimp only
  rw [h]
  rfl

theorem respond_miss (code : GameCode γ ε σ) (codec : Codec σ)
    {w : QueryHost γ σ} (g : GameId) (a : AgentId) {q : StateQuery}
    {v : AgentView} {p : Int} (found : Option (GameId × AgentId)) {u : Bool}
    {now : Rat}
    (h : (w.stateCache.get (cacheKey p q.queryFormat v.gameTurn) now u).2
      = none) :
    w.respond code codec g a q v p found u now
      = (w.fetched (cacheKey p q.queryFormat v.gameTurn) now u).buildReply
          code codec g a q p (cacheKey p q.queryFormat v.gameTurn)
          found now := by
  unfold respond
  dsimp only
  rw [h]
  rfl

theorem QueryApart.roomy {w : QueryHost γ σ} {g' : GameId} {key : String}
    {f : Option (GameId × AgentId)} {u : Bool} {now : Rat}
    (h : QueryApart g w g' key f u now)
    (hmiss : (w.stateCache.get key now u).2 = none) :
    Roomy g (w.fetched key now u) := by
  intro x hx hh
  refine h.room (by rw [hmiss]; rfl) x hx ⟨hh.1, ?_⟩
  exact (StateCache.fresh_congr (w.stateCache.get_limits key now u)
    now x.2).mp hh.2

theorem QueryApart.stray_own {w : QueryHost γ σ} {key : String}
    {f : Option (GameId × AgentId)} {u : Bool} {now : Rat}
    (h : QueryApart g w g key f u now) : f = none := by
  have := h.stray
  cases f with
  | none => rfl
  | some f => simp at this

theorem Alike.closed (h : Alike g s t) {now : Rat} (hs : s.now ≤ now)
    (ht : t.now ≤ now) (p : Int) :
    Alike g (s.closed p now) (t.closed p now) where
  games := h.games
  limits := h.limits
  slice := by
    intro τ (hτ : now ≤ τ) _ k
    rw [Option.ext_iff]
    intro e
    rw [slice_closed, slice_closed,
      h.slice τ (le_trans hs hτ) (le_trans ht hτ)]
  answers := h.answers

/-- A query of the game itself is answered the same in processes that
are the same to it. -/
theorem Alike.respond {code : GameCode γ ε σ} (h : Alike g s t)
    (codec : Codec σ) {a : AgentId} {q : StateQuery} {v : AgentView}
    {p : Int} {now : Rat} {u : Bool} {found found' : Option (GameId × AgentId)}
    (hs : s.now ≤ now) (ht : t.now ≤ now)
    (hcs : QueryApart g s g (cacheKey p q.queryFormat v.gameTurn)
      (s.stray code g a q found) u now)
    (hct : QueryApart g t g (cacheKey p q.queryFormat v.gameTurn)
      (t.stray code g a q found') u now) :
    Alike g (s.respond code codec g a q v p found u now)
      (t.respond code codec g a q v p found' u now) := by
  have hfetched := h.fetched hs ht (cacheKey p q.queryFormat v.gameTurn) u
  have hget : (s.stateCache.get (cacheKey p q.queryFormat v.gameTurn) now u).2
      = (t.stateCache.get (cacheKey p q.queryFormat v.gameTurn) now u).2 := by
    rw [get_own hcs, get_own hct, h.slice now hs ht]
  cases hmiss : (t.stateCache.get
      (cacheKey p q.queryFormat v.gameTurn) now u).2 with
  | some data =>
    rw [respond_hit code codec g a found (hget.trans hmiss),
      respond_hit code codec g a found' hmiss]
    exact hfetched.reply a _
  | none =>
    rw [respond_miss code codec g a found (hget.trans hmiss),
      respond_miss code codec g a found' hmiss]
    exact hfetched.buildReply codec hcs.stray_own hct.stray_own
      (hcs.roomy (hget.trans hmiss)) (hct.roomy hmiss) p _ now

end Own

-- ==== steps of the other games

section Others

variable {g g' : GameId} {s t : QueryHost γ σ}

theorem Alike.fetched_other (h : Alike g s t) (hg : g' ≠ g) {key : String}
    {f : Option (GameId × AgentId)} {u : Bool} {now : Rat}
    (hs : s.now ≤ now) (hap : QueryApart g s g' key f u now) :
    Alike g (s.fetched key now u) t where
  games := h.games
  limits := (s.stateCache.get_limits key now u).trans h.limits
  slice := by
    intro τ (hτ : now ≤ τ) hτt k
    rw [← h.slice τ (le_trans hs hτ) hτt, Option.ext_iff]
    intro e
    rw [slice_fetched s g hτ]
    refine ⟨And.left, fun he => ⟨he, ?_⟩⟩
    intro heq
    subst heq
    rw [slice_other hg hap hτ] at he
    cases he
  answers := h.answers

theorem Alike.games_other (h : Alike g s t) {games : GameId → Hosted γ}
    (hgames : games g = s.games g) : Alike g { s with games := games } t where
  games := hgames.trans h.games
  limits := h.limits
  slice := h.slice
  answers := h.answers

theorem Alike.setGame_other (h : Alike g s t) (hg : g' ≠ g) (a : Hosted γ) :
    Alike g (s.setGame g' a) t :=
  h.games_other (Function.update_of_ne hg.symm ..)

theorem Alike.reply_other (h : Alike g s t) (hg : g' ≠ g) (a : AgentId)
    (r : StateReply σ) : Alike g (s.reply g' a r) t where
  games := h.games
  limits := h.limits
  slice := h.slice
  answers := by
    show (s.answers ++ [_]).filter _ = _
    rw [List.filter_append]
    have hnone : ([(g', a, r)] : List (GameId × AgentId × StateReply σ)).filter
        (fun r => r.1 = g) = [] := by
      simp [hg]
    rw [hnone, List.append_nil]
    exact h.answers

theorem Alike.store_other (h : Alike g s t) (hg : g' ≠ g) {codec : Codec σ}
    {data : σ} (hroom : Roomy g s) {key : String}
    (hnone : ∀ τ, s.now ≤ τ → s.slice g τ key = none) (p : Int) (now : Rat) :
    Alike g (s.store codec g' key data p now) t := by
  by_cases htake : s.stateCache.Takes codec data
  · refine ⟨h.games, ?_, ?_, h.answers⟩
    · exact (s.stateCache.set_limits codec key data p now).trans h.limits
    · intro τ (hτ : s.now ≤ τ) hτt k
      rw [← h.slice τ hτ hτt, Option.ext_iff]
      intro e
      rw [slice_store hτ htake hroom]
      split
      next hk =>
        subst hk
        rw [hnone τ hτ]
        refine ⟨fun he => absurd he.1 hg, nofun⟩
      next => rfl
  · rw [store_of_not_takes htake]
    exact h

theorem build_other {code : GameCode γ ε σ} {w : QueryHost γ σ}
    (hg : g' ≠ g) {a : AgentId} {q : StateQuery}
    {found : Option (GameId × AgentId)}
    (h : (w.stray code g' a q found).all (fun f => f.1 ≠ g) = true)
    (now : Rat) : (w.build code g' a q found now).2 g = w.games g := by
  unfold build
  cases hf : w.stray code g' a q found with
  | none => exact Function.update_of_ne hg.symm ..
  | some f =>
    rw [hf] at h
    have hne : f.1 ≠ g := of_decide_eq_true h
    show Function.update (Function.update w.games g' _) f.1 _ g = _
    rw [Function.update_of_ne hne.symm, Function.update_of_ne hg.symm]

theorem Alike.buildReply_other {code : GameCode γ ε σ} (h : Alike g s t)
    (hg : g' ≠ g) (codec : Codec σ) {a : AgentId} {q : StateQuery}
    {found : Option (GameId × AgentId)}
    (hf : (s.stray code g' a q found).all (fun f => f.1 ≠ g) = true)
    (hroom : Roomy g s) {key : String}
    (hnone : ∀ τ, s.now ≤ τ → s.slice g τ key = none) (p : Int) (now : Rat) :
    Alike g (s.buildReply code codec g' a q p key found now) t := by
  have hgames := h.games_other (build_other hg hf now)
  unfold QueryHost.buildReply
  rcases hb : s.build code g' a q found now with ⟨state, games⟩
  rw [hb] at hgames
  cases state with
  | error e => exact hgames.reply_other hg a _
  | ok data =>
    exact (hgames.store_other hg hroom hnone p now).reply_other hg a _

theorem Alike.respond_other {code : GameCode γ ε σ} (h : Alike g s t)
    (hg : g' ≠ g) (codec : Codec σ) {a : AgentId} {q : StateQuery}
    {v : AgentView} {p : Int} {now : Rat} {u : Bool}
    {found : Option (GameId × AgentId)} (hs : s.now ≤ now)
    (hc : QueryApart g s g' (cacheKey p q.queryFormat v.gameTurn)
      (s.stray code g' a q found) u now) :
    Alike g (s.respond code codec g' a q v p found u now) t := by
  have hfetched := h.fetched_other hg hs hc
  cases hmiss : (s.stateCache.get
      (cacheKey p q.queryFormat v.gameTurn) now u).2 with
  | some data =>
    rw [respond_hit code codec g' a found hmiss]
    exact hfetched.reply_other hg a _
  | none =>
    rw [respond_miss code codec g' a found hmiss]
    have hstray : (s.stray code g' a q found).all (fun f => f.1 ≠ g)
        = true := by
      have := hc.stray
      cases hf : s.stray code g' a q found with
      | none => rfl
      | some f =>
        rw [hf] at this
        exact decide_eq_true (of_decide_eq_true this).2
    refine hfetched.buildReply_other hg codec hstray (hc.roomy hmiss) ?_ p now
    intro τ (hτ : now ≤ τ)
    refine slice_eq_none fun e he hh => ?_
    have hslice := (slice_fetched s g hτ _ _ u e).mp
      (slice_eq_some.mpr ⟨he, hh⟩)
    rw [slice_other hg hc hτ] at hslice
    cases hslice.1

theorem Alike.closed_other (h : Alike g s t) {p : Int} {now : Rat}
    (hs : s.now ≤ now)
    (hc : ∀ x ∈ s.stateCache.cache.entries, s.Holds g now x.1 x.2 →
      p = 0 ∨ x.2.playerId ≠ p) : Alike g (s.closed p now) t where
  games := h.games
  limits := h.limits
  slice := by
    intro τ (hτ : now ≤ τ) hτt k
    rw [← h.slice τ (le_trans hs hτ) hτt, Option.ext_iff]
    intro e
    rw [slice_closed]
    refine ⟨And.left, fun he => ⟨he, ?_⟩⟩
    obtain ⟨hget, hh⟩ := slice_eq_some.mp he
    exact hc (k, e) (Dict.mem_entries_iff.mpr hget) ⟨hh.1, hh.2.mono hτ⟩
  answers := h.answers

end Others

-- ==== unwinding

theorem stray_setGame (code : GameCode γ ε σ) (w : QueryHost γ σ)
    (g : GameId) (l : List (AgentId × StateQuery)) (a : AgentId)
    (q : StateQuery) (found : Option (GameId × AgentId)) :
    (w.setGame g { w.games g with waiting := l }).stray code g a q found
      = w.stray code g a q found := by
  have hgame : ((w.setGame g { w.games g with waiting := l }).games g).game
      = (w.games g).game := by
    show (Function.update w.games g _ g).game = _
    rw [Function.update_self]
  unfold stray
  rw [hgame]

theorem answer_eq_some {code : GameCode γ ε σ} {codec : Codec σ}
    {w w' : QueryHost γ σ} {g : GameId} {i : Nat}
    {found : Option (GameId × AgentId)} {u : Bool} {now : Rat}
    (h : w.answer code codec g i found u now = some w') :
    w.now ≤ now ∧ ∃ a q v p, w.resumed code g i = some (a, q, v, p)
      ∧ (w.setGame g { w.games g with
          waiting := (w.games g).waiting.eraseIdx i }).respond code codec
            g a q v p found u now = w' := by
  unfold answer at h
  split at h
  next => cases h
  next hnow =>
    obtain ⟨⟨a, q, v, p⟩, hr, hw⟩ := Option.map_eq_some_iff.mp h
    exact ⟨not_lt.mp hnow, a, q, v, p, hr, hw⟩

theorem queryApart_of_isolating {code : GameCode γ ε σ} {w : QueryHost γ σ}
    {g g' : GameId} {i : Nat} {found : Option (GameId × AgentId)} {u : Bool}
    {now : Rat} {a : AgentId} {q : StateQuery} {v : AgentView} {p : Int}
    (h : Isolating code g w (.answer g' i found u now))
    (hr : w.resumed code g' i = some (a, q, v, p)) :
    QueryApart g (w.setGame g' { w.games g' with
        waiting := (w.games g').waiting.eraseIdx i }) g'
      (cacheKey p q.queryFormat v.gameTurn)
      ((w.setGame g' { w.games g' with
        waiting := (w.games g').waiting.eraseIdx i }).stray code g' a q found)
      u now := by
  change (w.resumed code g' i).all _ = true at h
  rw [hr] at h
  have hq := of_decide_eq_true (h :)
  rw [stray_setGame]
  exact ⟨hq.border, hq.stray, hq.room⟩

theorem hidden_step {code : GameCode γ ε σ} {codec : Codec σ} {g : GameId}
    {s s' t : QueryHost γ σ} {a : HostAct ε} (h : Alike g s t)
    (hc : Isolating code g s a) (ha : visible g a = none)
    (hs : s.apply code codec a = some s') : Alike g s' t := by
  have hg := visible_eq_none.mp ha
  cases a with
  | game g' e =>
    cases hs
    exact h.setGame_other hg _
  | ask g' a q =>
    cases hs
    unfold ask
    split
    · exact h.reply_other hg a _
    · exact h.setGame_other hg _
  | answer g' i found u now =>
    obtain ⟨hnow, a, q, v, p, hr, rfl⟩ := answer_eq_some hs
    exact (h.setGame_other hg _).respond_other hg codec hnow
      (queryApart_of_isolating hc hr)
  | close g' p now =>
    obtain ⟨hnow, rfl⟩ := close_eq_some hs
    exact h.closed_other hnow (hc.resolve_left hg)

theorem seen_step {code : GameCode γ ε σ} {codec : Codec σ} {g : GameId}
    {s s' t t' : QueryHost γ σ} {a b : HostAct ε} (h : Alike g s t)
    (hca : Isolating code g s a) (hcb : Isolating code g t b)
    (hab : visible g a = visible g b) (ha : visible g a ≠ none)
    (hs : s.apply code codec a = some s')
    (ht : t.apply code codec b = some t') : Alike g s' t' := by
  have hga : actor a = g := by
    by_contra hne
    exact ha (visible_eq_none.mpr hne)
  have hgb : actor b = g := by
    by_contra hne
    exact ha (hab.trans (visible_eq_none.mpr hne))
  have hown : own a = own b := by
    unfold visible at hab
    rw [if_pos hga, if_pos hgb] at hab
    exact Option.some.inj hab
  cases a with
  | game g' e =>
    cases b <;> cases hown
    obtain rfl : g' = g := hga
    cases hs
    cases ht
    exact h.setGame (by rw [h.games])
  | ask g' a q =>
    cases b <;> cases hown
    obtain rfl : g' = g := hga
    cases hs
    cases ht
    unfold ask
    rw [h.games]
    split
    · exact h.reply a _
    · exact h.setGame rfl
  | answer g' i found u now =>
    cases b <;> cases hown
    obtain rfl : g' = g := hga
    obtain ⟨hsnow, a, q, v, p, hsr, rfl⟩ := answer_eq_some hs
    obtain ⟨htnow, a', q', v', p', htr, rfl⟩ := answer_eq_some ht
    -- the same query goes on in both
    have hresumed : s.resumed code g' i = t.resumed code g' i := by
      unfold resumed
      rw [h.games]
    rw [hsr, htr] at hresumed
    cases hresumed
    exact (h.setGame (by rw [h.games])).respond codec hsnow htnow
      (queryApart_of_isolating hca hsr) (queryApart_of_isolating hcb htr)
  | close g' p now =>
    cases b <;> cases hown
    obtain rfl : g' = g := hga
    obtain ⟨hsnow, rfl⟩ := close_eq_some hs
    obtain ⟨htnow, rfl⟩ := close_eq_some ht
    exact h.closed hsnow htnow p

theorem unwinding (code : GameCode γ ε σ) (codec : Codec σ) (g : GameId) :
    Unwinding (hostRuns code codec) (Isolating code g) (visible g)
      (Alike g) where
  symm := Alike.symm
  hidden := hidden_step
  seen := seen_step

theorem Alike.start {games₁ games₂ : GameId → γ} {g : GameId}
    (h : games₁ g = games₂ g) (limits : StateCache σ) :
    Alike g (QueryHost.start games₁ limits) (QueryHost.start games₂ limits)
    where
  games := congrArg (fun x => (⟨x, []⟩ : Hosted γ)) h
  limits := rfl
  slice := fun _ _ _ _ => rfl
  answers := rfl

/-- **A game is answered the same whatever the other games do**, as
long as no step of either run touches it. -/
theorem answers_isolated (code : GameCode γ ε σ) (codec : Codec σ)
    (limits : StateCache σ) {games₁ games₂ : GameId → γ} {g : GameId}
    (hgames : games₁ g = games₂ g) {l₁ l₂ : List (HostAct ε)}
    {w₁ w₂ : QueryHost γ σ}
    (h₁ : (hostRuns code codec).exec (start games₁ limits) l₁ = some w₁)
    (h₂ : (hostRuns code codec).exec (start games₂ limits) l₂ = some w₂)
    (hc₁ : (hostRuns code codec).Along (Isolating code g)
      (start games₁ limits) l₁)
    (hc₂ : (hostRuns code codec).Along (Isolating code g)
      (start games₂ limits) l₂)
    (hl : l₁.filterMap (visible g) = l₂.filterMap (visible g)) :
    w₁.answersTo g = w₂.answersTo g :=
  ((unwinding code codec g).runs hl hc₁ hc₂ h₁ h₂
    (Alike.start hgames limits)).answers

-- ==== an example

namespace Example

/-- Games of one agent each, which asks through its own `CivCom`. -/
def code : GameCode QueryWorld QueryAct StateAnswer where
  view w _ :=
    { isLlmAgent := true
      playerId := w.playerId
      connected := true
      sessionId := none
      gameTurn := w.mirror.gameTurn }
  step w e := (w.act e).1
  searches _ _ _ := false
  build w _ format includeActions _ :=
    match w.playerId with
    | none => (.error "No player", w)
    | some p =>
      let format := if format = "full" then .full else .llmOptimized
      let (w, s) := w.buildOptimizedState format includeActions p
        ⟨true, true⟩
      (.ok s, w)
  buildFrom w other _ _ _ _ _ := (.error "No CivCom", w, other)

def codec : Codec StateAnswer := ⟨fun _ => 3000, fun _ => 900⟩

def world (gameId phase : String) (playerId : Int) : QueryWorld where
  gameId := gameId
  playerId := some playerId
  mirror := { Mirror.init with gamePhase := phase }
  extractorCache := ∅
  stateCache := ∅

/-- Game `x` with player 0, and other games with one player each. -/
def games (others : Int) (g : GameId) : QueryWorld :=
  if g = "x" then world g "movement" 0 else world g "diplomacy" others

def query : StateQuery := ⟨some "full", none, none⟩

/-- The agent of a game asks, and is answered some time later. -/
def asks (g : GameId) (now : Rat) : List (HostAct QueryAct) :=
  [.ask g "agent" query, .answer g 0 none true now]

/-- The phase in the states an agent was answered with. -/
def phase : GameId × AgentId × StateReply StateAnswer → Option String
  | (_, _, .state _ (.full s) _ _ _ _) => some s.phase
  | _ => none

end Example

/-- Game `y` asks first, as player 1; game `x` does not notice. -/
theorem answers_isolated_other_player :
    ∃ w₁ w₂ : QueryHost QueryWorld StateAnswer,
      (hostRuns Example.code Example.codec).exec
          (start (Example.games 1) .init)
          (Example.asks "y" 8 ++ Example.asks "x" 10) = some w₁
        ∧ (hostRuns Example.code Example.codec).exec
          (start (Example.games 0) .init) (Example.asks "x" 10) = some w₂
        ∧ w₁.answersTo "x" = w₂.answersTo "x" := by
  obtain ⟨w₁, h₁⟩ := Option.isSome_iff_exists.mp
    (show ((hostRuns Example.code Example.codec).exec
      (start (Example.games 1) .init)
      (Example.asks "y" 8 ++ Example.asks "x" 10)).isSome = true
      by decide +kernel)
  obtain ⟨w₂, h₂⟩ := Option.isSome_iff_exists.mp
    (show ((hostRuns Example.code Example.codec).exec
      (start (Example.games 0) .init) (Example.asks "x" 10)).isSome = true
      by decide +kernel)
  have hx : Example.games 1 "x" = Example.games 0 "x" := rfl
  exact ⟨w₁, w₂, h₁, h₂, answers_isolated Example.code Example.codec .init
    hx h₁ h₂ (by decide +kernel) (by decide +kernel) (by decide +kernel)⟩

/-- **Player 0 of game `y` asks two seconds before player 0 of game
`x`**, who is answered with the state of `y`. -/
theorem answers_other_game :
    ((hostRuns Example.code Example.codec).exec
        (start (Example.games 0) .init) (Example.asks "x" 10)).map
          (fun w => (w.answersTo "x").map Example.phase)
        = some [some "movement"]
      ∧ ((hostRuns Example.code Example.codec).exec
        (start (Example.games 0) .init)
        (Example.asks "y" 8 ++ Example.asks "x" 10)).map
          (fun w => (w.answersTo "x").map Example.phase)
        = some [some "diplomacy"]
      ∧ (Example.asks "y" 8 ++ Example.asks "x" 10).filterMap (visible "x")
        = (Example.asks "x" 10).filterMap (visible "x") := by
  refine ⟨?_, ?_, ?_⟩
  · decide +kernel
  · decide +kernel
  · decide +kernel

end QueryHost

end Freeciv3d.Proxy
