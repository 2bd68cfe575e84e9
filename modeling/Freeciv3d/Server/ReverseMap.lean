/-
Reverse path-finding maps: how far units are from a target, with a cache.

# Keys

A parameter is filled from a template, of which a question changes the
start tile, the move rate and the unit type; these three are the key. Two
keys are taken for the same if `pf_pos_hash_cmp` says so; equal keys have
equal hash values, so that the first such entry is found.

# Types

Unit types are numbered in the ruleset, and compared by number.

# Transparency

The cache of a reverse map is transparent as long as the types that it
takes for the same are alike to the search.

# What the search reads

Of two keys that compare equal, the parameters differ in the scopes of
tiles, in the cost of an attack, and in the cost of unknown tiles, at which
an omniscient search never looks. If they agree in what the search asks of
the first two, the searches are the same.

# The cache

Each entry holds what a search for its key finds. A search ends within as
many rounds as the map has tiles.
-/
import Freeciv3d.Server.PathTools
import Freeciv3d.Server.Proofs.PathAnswers

namespace Freeciv3d.Server

open Lib

structure UnitTypes where
  utype : Nat → UnitType
  index : ∀ i, (utype i).index = i
  /-- `utype_move_rate`, of a new unit of the type on the tile. -/
  moveRate : Nat → Nat → Nat

/-- A `struct pf_reverse_map`, without its hash. -/
structure PfReverseMap where
  game : PfGame
  types : UnitTypes
  owner : Nat
  targetTile : Nat
  maxTurns : Int
  omniscient : Bool

structure ReverseKey where
  startTile : Nat
  moveRate : Nat
  utype : Nat

namespace PfReverseMap

variable (r : PfReverseMap)

def mover (utype : UnitType) : PfMover where
  utype := utype
  owner := r.owner
  cargoDepth := 0
  cargoTypes := []

def pfReverseGetAction (t : Nat) (_ : KnownType) : Option PfAction :=
  some (if t = r.targetTile then .attack else .none)

/-- The parameter, as `pft_fill_reverse_parameter` and the question fill
it. -/
def parameter (k : ReverseKey) : PfParameter where
  map := r.game.map
  startTile := k.startTile
  movesLeftInitially := k.moveRate
  fuelLeftInitially := 1
  moveRate := k.moveRate
  fuel := 1
  transported := false
  cannotDisembark := false
  omniscience := r.omniscient
  getKnown := r.game.getKnown r.owner
  getTB := none
  canInvade t := (r.types.utype k.utype).civilian
    || r.game.canInvadeTile r.owner t
  getAction := some r.pfReverseGetAction
  isActionPossible := none
  getMoveScope := r.game.pfGetMoveScope (r.mover (r.types.utype k.utype))
  ignoreNoneScopes := true
  getZoc := none
  hasCity t := (r.game.cityOwner t).isSome
  noZocTerrain := r.game.noZocTerrain
  hasUnits t := !(r.game.units t).isEmpty
  attackTakesAll := (r.types.utype k.utype).attackTakesAll
  singleMove := r.game.singleMove
  unknownMoveCost := (r.types.utype k.utype).unknownMoveCost
  getMC := r.game.normalMove (r.mover (r.types.utype k.utype))
  getEC := none

/-- `pf_pos_hash_cmp`, with the significant flags of the types. -/
def pfPosHashCmp (k₁ k₂ : ReverseKey) : Bool :=
  let u₁ := r.types.utype k₁.utype
  let u₂ := r.types.utype k₂.utype
  k₁.startTile == k₂.startTile && k₁.moveRate == k₂.moveRate
    && (u₁.index == u₂.index
      || u₁.uclass == u₂.uclass
        && (r.omniscient || u₁.unknownMoveCost == u₂.unknownMoveCost)
        && u₁.igter == u₂.igter && u₁.civilian == u₂.civilian
        && u₁.coastStrict == u₂.coastStrict)

/-- The cost at which a search is given up, if there is a limit. -/
def maxCost (k : ReverseKey) : Option Int :=
  if r.maxTurns ≥ 0 then some (int32 (k.moveRate * (r.maxTurns + 1)))
  else none

/-- The loops of `pf_reverse_map_pos`: the position, if it is found. -/
def searchLoop (p : PfParameter) (target : Nat) (maxCost : Option Int) :
    Nat → PfNormalMap → Option (Option PfPosition)
  | 0, _ => none
  | rounds + 1, m =>
    match m.tile with
    | none => some none
    | some t =>
      if maxCost.any fun c => c ≤ (m.lattice t).cost then some none
      else if t = target then some (some (p.fillPosition m target none))
      else
        match p.pfMapIterate m with
        | (m, true) => searchLoop p target maxCost rounds m
        | (_, false) => some none

def search (k : ReverseKey) : Option (Option PfPosition) :=
  let p := r.parameter k
  searchLoop p r.targetTile (r.maxCost k) r.game.map.mapIndexSize
    p.pfNormalMapNew

/-- `struct pf_pos_hash`. -/
abbrev Hash := List (ReverseKey × Option PfPosition)

/-- `pf_reverse_map_pos`: the hash afterwards, and the position. -/
def pfReverseMapPos (hash : Hash) (k : ReverseKey) :
    Option (Hash × Option PfPosition) :=
  match hash.find? fun entry => r.pfPosHashCmp entry.1 k with
  | some (_, pos) => some (hash, pos)
  | none => do
      let pos ← r.search k
      return ((k, pos) :: hash, pos)

structure ReverseUnit where
  tile : Nat
  moveRate : Nat
  utype : Nat

inductive ReverseQuery where
  | unitMoveCost (punit : ReverseUnit)
  | utypeMoveCost (utype t : Nat)
  | unitPosition (punit : ReverseUnit)
  | utypePosition (utype t : Nat)

inductive ReverseAnswer where
  | moveCost (cost : Int)
  | position (pos : Option PfPosition)
  deriving DecidableEq

def key : ReverseQuery → ReverseKey
  | .unitMoveCost u | .unitPosition u => ⟨u.tile, u.moveRate, u.utype⟩
  | .utypeMoveCost utype t | .utypePosition utype t =>
    ⟨t, r.types.moveRate utype t, utype⟩

def answerOf (pos : Option PfPosition) : ReverseQuery → ReverseAnswer
  | .unitMoveCost _ | .utypeMoveCost _ _ =>
    .moveCost (pos.elim pfImpossibleMC fun pos => int32 pos.totalMC)
  | .unitPosition _ | .utypePosition _ _ => .position pos

/-- `pf_reverse_map_unit_move_cost` and its like. -/
def ask (hash : Hash) (q : ReverseQuery) : Option (Hash × ReverseAnswer) := do
  let (hash, pos) ← r.pfReverseMapPos hash (r.key q)
  return (hash, answerOf pos q)

def askAll : Hash → List ReverseQuery → Option (List ReverseAnswer)
  | _, [] => some []
  | hash, q :: qs => do
      let (hash, a) ← r.ask hash q
      let rest ← askAll hash qs
      return a :: rest

end PfReverseMap

-- ==== transparency

open Function

namespace PfParameter

variable (p : PfParameter)

-- ==== other types

/-- The parameter for another type of the same class and flags. -/
def withType (unknownMoveCost : Int)
    (getMoveScope : Nat → MoveScope → MoveScope × Bool)
    (attackTakesAll : Bool) : PfParameter :=
  { p with
    unknownMoveCost := unknownMoveCost
    getMoveScope := getMoveScope
    attackTakesAll := attackTakesAll }

def attackCost : Int :=
  if p.attackTakesAll then p.moveRate else p.singleMove

/-- The search asks for the scope of a tile, after one before it. -/
def AsksScope (v : Nat) (s : MoveScope) : Prop :=
  (v = p.startTile ∧ s = .none)
    ∨ ∃ u d, p.Scopes u s ∧ p.map.mapstep u d = some v

/-- All that the search asks of the one, it would get from the other. -/
structure Alike (p' : PfParameter) : Prop where
  scope : ∀ v s, p.AsksScope v s → p'.getMoveScope v s = p.getMoveScope v s
  attack : ∀ u d s v, p.Scopes u s → p.map.mapstep u d = some v →
    p.Attackable v → p'.attackCost = p.attackCost

/-- A node but for the start looks as it was initialised. -/
def Looks (lattice : Nat → PfNormalNode) : Prop :=
  ∀ v, v ≠ p.startTile → (lattice v).status ≠ .uninit →
    ((lattice v).action = .attack → p.Attackable v)
      ∧ (p.omniscience = true → (lattice v).nodeKnownType ≠ .unknown)

variable {p} {x : Int} {f : Nat → MoveScope → MoveScope × Bool} {a : Bool}
  {lattice : Nat → PfNormalNode} {queue : PQueue Nat} {done : List Nat}

theorem looks_init (v : Nat) (s : MoveScope) :
    let node := (initialised (p.pfNormalNodeInit .zero v s)).1
    (node.action = .attack → p.Attackable v)
      ∧ (p.omniscience = true → node.nodeKnownType ≠ .unknown) := by
  have hknown : ∀ type : KnownType,
      type = (if p.omniscience then .knownSeen else p.getKnown v) →
        p.omniscience = true → type ≠ .unknown := by
    rintro type htype homni
    rw [htype, if_pos homni]
    nofun
  have hinits := inits_node (p := p) v s
  cases hinit : p.pfNormalNodeInit .zero v s with
  | ok n | error n =>
    rw [hinit] at hinits
    exact ⟨hinits.attack, hknown _ hinits.known⟩

section

variable (halike : p.Alike (p.withType x f a))
  (hunknown : p.omniscience = true ∨ x = p.unknownMoveCost)

include halike

theorem init_withType {v : Nat} {s : MoveScope} (h : p.AsksScope v s)
    (node : PfNormalNode) :
    (p.withType x f a).pfNormalNodeInit node v s
      = p.pfNormalNodeInit node v s := by
  have hsame : ∀ n, (p.withType x f a).initScope n v s
      = p.initScope n v s := by
    intro n
    unfold initScope
    rw [halike.scope v s h]
    rfl
  have hknown : ∀ n, (p.withType x f a).initKnown n v s
      = p.initKnown n v s := by
    intro n
    unfold initKnown
    simp only [hsame]
    rfl
  unfold pfNormalNodeInit
  simp only [hknown]
  rfl

include hunknown

theorem moveCost_withType {t v : Nat} {d : Direction8}
    {node node₁ : PfNormalNode} (hscopes : p.Scopes t node.moveScope)
    (hstep : p.map.mapstep t d = some v)
    (hattack : node₁.action = .attack → p.Attackable v)
    (hknown : p.omniscience = true → node₁.nodeKnownType ≠ .unknown) :
    (p.withType x f a).moveCost t node v node₁ = p.moveCost t node v node₁
    := by
  have hcost : (if node₁.action = .attack
      ∧ (p.withType x f a).attackTakesAll = true then
        ((p.withType x f a).moveRate : Int)
      else (p.withType x f a).singleMove)
      = if node₁.action = .attack ∧ p.attackTakesAll = true then
        (p.moveRate : Int)
      else p.singleMove := by
    by_cases haction : node₁.action = .attack
    · have hsame := halike.attack t d _ v hscopes hstep (hattack haction)
      simp only [haction, true_and]
      exact hsame
    · rw [if_neg fun h => haction h.1, if_neg fun h => haction h.1]
      rfl
  have hnode : (if node₁.nodeKnownType = .unknown then
        (p.withType x f a).unknownMoveCost
      else (p.withType x f a).getMC t node.moveScope v node₁.moveScope)
      = if node₁.nodeKnownType = .unknown then p.unknownMoveCost
      else p.getMC t node.moveScope v node₁.moveScope := by
    by_cases hun : node₁.nodeKnownType = .unknown
    · rw [if_pos hun, if_pos hun]
      exact hunknown.resolve_left fun homni => hknown homni hun
    · rw [if_neg hun, if_neg hun]
      rfl
  unfold moveCost
  dsimp only
  rw [hcost, hnode]
  rfl

theorem reach_withType {t v : Nat} {d : Direction8} {node : PfNormalNode}
    (hscopes : p.Scopes t node.moveScope)
    (hstep : p.map.mapstep t d = some v)
    (hattack : (lattice v).action = .attack → p.Attackable v)
    (hknown : p.omniscience = true →
      (lattice v).nodeKnownType ≠ .unknown) :
    (p.withType x f a).reach t node (lattice, queue) v d
      = p.reach t node (lattice, queue) v d := by
  unfold PfParameter.reach
  dsimp only
  rw [moveCost_withType halike hunknown hscopes hstep hattack hknown]
  rfl

theorem visitNeighbor_withType {t v : Nat} {d : Direction8}
    (hkept : p.Kept lattice queue done) (ht : t ∈ done)
    (hstep : p.map.mapstep t d = some v) (hlooks : p.Looks lattice) :
    (p.withType x f a).visitNeighbor t (lattice t) (lattice, queue) (v, d)
      = p.visitNeighbor t (lattice t) (lattice, queue) (v, d) := by
  have hscopes := hkept.scopes t (by
    rw [(hkept.processed t).mpr ht]
    nofun)
  unfold visitNeighbor
  dsimp only
  by_cases hprocessed : (lattice v).status = .processed
  · rw [if_pos hprocessed, if_pos hprocessed]
  · have hne : v ≠ p.startTile := fun heq => hprocessed
      ((hkept.processed v).mpr (heq ▸ hkept.chained.start_mem))
    rw [if_neg hprocessed, if_neg hprocessed]
    by_cases hfresh : (lattice v).status = .uninit
    · obtain ⟨hattack, hknown⟩ :=
        looks_init (p := p) v (lattice t).moveScope
      rw [if_pos hfresh, if_pos hfresh, hkept.fresh v hfresh,
        init_withType halike (Or.inr ⟨t, d, hscopes, hstep⟩)]
      generalize initialised (p.pfNormalNodeInit .zero v
        (lattice t).moveScope) = r at hattack hknown
      obtain ⟨inited, entered⟩ := r
      cases entered with
      | false => rfl
      | true =>
        rw [if_pos rfl, if_pos rfl]
        exact reach_withType halike hunknown hscopes hstep
          (by rw [update_self]; exact hattack)
          (by rw [update_self]; exact hknown)
    · obtain ⟨hattack, hknown⟩ := hlooks v hne hfresh
      rw [if_neg hfresh, if_neg hfresh]
      by_cases hignore : (lattice v).behavior = .ignore
      · rw [if_pos hignore, if_pos hignore]
      · rw [if_neg hignore, if_neg hignore]
        exact reach_withType halike hunknown hscopes hstep hattack hknown

end

theorem Looks.visitNeighbor {t v : Nat} {d : Direction8}
    {node : PfNormalNode} (hfresh : ∀ v, (lattice v).status = .uninit →
      lattice v = .zero) (h : p.Looks lattice) :
    p.Looks (p.visitNeighbor t node (lattice, queue) (v, d)).1 := by
  have hreach : ∀ base : PfNormalNode,
      (base.action = .attack → p.Attackable v)
        ∧ (p.omniscience = true → base.nodeKnownType ≠ .unknown) →
      ((p.reachNode t node v d base queue).1.action = .attack →
          p.Attackable v)
        ∧ (p.omniscience = true →
          (p.reachNode t node v d base queue).1.nodeKnownType ≠ .unknown)
      := by
    intro base hbase
    rcases reachNode_cases rfl with heq | ⟨hrecorded, -⟩
    · rw [heq]
      exact hbase
    · have haction := congrArg PfNormalNode.action hrecorded.cached
      have hknown := congrArg PfNormalNode.nodeKnownType hrecorded.cached
      exact ⟨fun hattack => hbase.1 (haction.symm.trans hattack),
        fun homni hun => hbase.2 homni (hknown.symm.trans hun)⟩
  rw [visitNeighbor_eq]
  intro w hne hw
  dsimp only at hw ⊢
  by_cases hwv : w = v
  · subst hwv
    rw [update_self] at hw ⊢
    unfold visitNode at hw ⊢
    by_cases hprocessed : (lattice w).status = .processed
    · rw [if_pos hprocessed]
      exact h w hne (by rw [hprocessed]; nofun)
    · rw [if_neg hprocessed] at hw ⊢
      by_cases huninit : (lattice w).status = .uninit
      · have hlooks := looks_init (p := p) w node.moveScope
        rw [if_pos huninit, hfresh w huninit]
        generalize initialised (p.pfNormalNodeInit .zero w node.moveScope)
          = r at hlooks
        obtain ⟨inited, entered⟩ := r
        cases entered with
        | false => exact hlooks
        | true => exact hreach inited hlooks
      · rw [if_neg huninit]
        by_cases hignore : (lattice w).behavior = .ignore
        · rw [if_pos hignore]
          exact h w hne huninit
        · rw [if_neg hignore]
          exact hreach _ (h w hne huninit)
  · rw [update_of_ne hwv] at hw ⊢
    exact h w hne hw

section

variable (halike : p.Alike (p.withType x f a))
  (hunknown : p.omniscience = true ∨ x = p.unknownMoveCost)

include halike

theorem pfNormalMapNew_withType :
    (p.withType x f a).pfNormalMapNew = p.pfNormalMapNew := by
  have hinit : (p.withType x f a).pfNormalNodeInit .zero
      (p.withType x f a).startTile .none
        = p.pfNormalNodeInit .zero p.startTile .none :=
    init_withType halike (Or.inl ⟨rfl, rfl⟩) .zero
  have hnode : (p.withType x f a).startNode = p.startNode := by
    unfold startNode
    rw [hinit]
    rfl
  unfold pfNormalMapNew
  rw [hnode]
  rfl

include hunknown

theorem visitNeighbors_withType {t : Nat} (ht : t ∈ done)
    {node : PfNormalNode} (l : List (Nat × Direction8)) :
    ∀ (lattice : Nat → PfNormalNode) (queue : PQueue Nat),
      p.Kept lattice queue done → lattice t = node → p.Looks lattice →
        (∀ v d, (v, d) ∈ l → p.map.mapstep t d = some v) →
          let search := l.foldl (p.visitNeighbor t node) (lattice, queue)
          l.foldl ((p.withType x f a).visitNeighbor t node)
              (lattice, queue) = search
            ∧ p.Looks search.1 ∧ p.Kept search.1 search.2 done := by
  induction l with
  | nil => exact fun lattice queue h _ hlooks _ => ⟨rfl, hlooks, h⟩
  | cons y l ih =>
    obtain ⟨v, d⟩ := y
    rintro lattice queue h rfl hlooks hsteps
    have hstep := hsteps v d List.mem_cons_self
    obtain ⟨hkept, hkeep⟩ := h.visitNeighbor ht hstep
    rw [List.foldl_cons, List.foldl_cons,
      visitNeighbor_withType halike hunknown h ht hstep hlooks]
    exact ih _ _ hkept (hkeep t ht) (hlooks.visitNeighbor h.fresh)
      fun v' d' hmem => hsteps v' d' (List.mem_cons_of_mem _ hmem)

theorem pfMapIterate_withType {m : PfNormalMap} (h : Twin p m m done)
    (hlooks : p.Looks m.lattice) :
    (p.withType x f a).pfMapIterate m = p.pfMapIterate m
      ∧ p.Looks (p.pfMapIterate m).1.lattice := by
  unfold pfMapIterate
  cases ht : m.tile with
  | none => exact ⟨rfl, hlooks⟩
  | some t =>
    have hrun : (p.withType x f a).processTile m t = p.processTile m t
        ∧ p.Looks (p.processTile m t).1
        ∧ p.Kept (p.processTile m t).1 (p.processTile m t).2 done := by
      have hleave : (p.withType x f a).mayLeave (m.lattice t)
          = p.mayLeave (m.lattice t) := rfl
      unfold processTile
      dsimp only
      rw [hleave]
      by_cases hmay : p.mayLeave (m.lattice t) = true
      · rw [if_pos hmay, if_pos hmay]
        exact visitNeighbors_withType halike hunknown (h.current t ht) _
          _ _ h.kept rfl hlooks fun v d hvd => p.map.mem_adjcDir.mp hvd
      · rw [if_neg hmay, if_neg hmay]
        exact ⟨rfl, hlooks, h.kept⟩
    obtain ⟨hsame, hlooks', hkept⟩ := hrun
    dsimp only
    rw [hsame]
    refine ⟨rfl, ?_⟩
    cases hremove : (p.processTile m t).2.remove with
    | none => exact hlooks'
    | some y =>
      obtain ⟨t', queue⟩ := y
      intro v hne hv
      dsimp only at hv ⊢
      by_cases hvt : v = t'
      · have hnew := (hkept.keys.remove hremove).1
        rw [hvt] at hne ⊢
        rw [update_self]
        exact hlooks' t' hne (by rw [hnew]; nofun)
      · rw [update_of_ne hvt] at hv ⊢
        exact hlooks' v hne hv

end

theorem looks_new : p.Looks p.pfNormalMapNew.lattice := by
  intro v hne hv
  have hlattice : p.pfNormalMapNew.lattice
      = update (fun _ => .zero) p.startTile p.startNode := rfl
  have hzero : p.pfNormalMapNew.lattice v = .zero := by
    rw [hlattice, update_of_ne hne]
  rw [hzero] at hv
  exact absurd rfl hv

-- ==== the searches

theorem alike_self : p.Alike
    (p.withType p.unknownMoveCost p.getMoveScope p.attackTakesAll) :=
  ⟨fun _ _ _ => rfl, fun _ _ _ _ _ _ _ => rfl⟩

/-- A search ends, and so does the other, with the same position. -/
theorem searchLoop_withType (target : Nat) (maxCost : Option Int)
    (rounds : Nat) : ∀ (m : PfNormalMap) (done : List Nat),
      Twin p m m done → p.Looks m.lattice →
        p.map.mapIndexSize < rounds + done.length →
          ∃ pos, PfReverseMap.searchLoop p target maxCost rounds m
              = some pos
            ∧ (p.Alike (p.withType x f a) →
              (p.omniscience = true ∨ x = p.unknownMoveCost) →
                PfReverseMap.searchLoop (p.withType x f a) target maxCost
                  rounds m = some pos) := by
  induction rounds with
  | zero =>
    intro m done h _ hrounds
    have hle := length_le_of_kept h.kept
    omega
  | succ rounds ih =>
    intro m done h hlooks hrounds
    unfold PfReverseMap.searchLoop
    cases ht : m.tile with
    | none => exact ⟨none, rfl, fun _ _ => rfl⟩
    | some t =>
      dsimp only
      by_cases hmax : (maxCost.any fun c => c ≤ (m.lattice t).cost) = true
      · rw [if_pos hmax, if_pos hmax]
        exact ⟨none, rfl, fun _ _ => rfl⟩
      · rw [if_neg hmax, if_neg hmax]
        by_cases htarget : t = target
        · rw [if_pos htarget, if_pos htarget]
          exact ⟨_, rfl, fun _ _ => rfl⟩
        · rw [if_neg htarget, if_neg htarget]
          have hlooks' :=
            (pfMapIterate_withType alike_self (Or.inr rfl) h hlooks).2
          have hsame : p.Alike (p.withType x f a) →
              (p.omniscience = true ∨ x = p.unknownMoveCost) →
                (p.withType x f a).pfMapIterate m = p.pfMapIterate m :=
            fun halike hunknown =>
              (pfMapIterate_withType halike hunknown h hlooks).1
          have hiterate := h.iterate
          generalize p.pfMapIterate m = next at hlooks' hsame hiterate
          obtain ⟨m', more⟩ := next
          obtain ⟨-, -, ⟨hmore, t', h'⟩ | ⟨hmore, -, -⟩⟩ := hiterate
          · have hmore : more = true := hmore
            subst hmore
            obtain ⟨pos, hpos, hpos'⟩ := ih m' (t' :: done) h' hlooks'
              (by rw [List.length_cons]; omega)
            refine ⟨pos, hpos, fun halike hunknown => ?_⟩
            rw [hsame halike hunknown]
            exact hpos' halike hunknown
          · have hmore : more = false := hmore
            subst hmore
            refine ⟨none, rfl, fun halike hunknown => ?_⟩
            rw [hsame halike hunknown]

end PfParameter

namespace PfReverseMap

variable {r : PfReverseMap} {k k' : ReverseKey}

/-- Of keys that compare equal, the parameters differ only in what a type
is asked for. -/
theorem parameter_eq (h : r.pfPosHashCmp k k' = true) :
    let p := r.parameter k
    let p' := r.parameter k'
    p' = p.withType p'.unknownMoveCost p'.getMoveScope p'.attackTakesAll
      ∧ (p.omniscience = true
        ∨ p'.unknownMoveCost = p.unknownMoveCost) := by
  obtain ⟨start, rate, u⟩ := k
  obtain ⟨start', rate', u'⟩ := k'
  unfold pfPosHashCmp at h
  rw [Bool.and_eq_true, Bool.and_eq_true, beq_iff_eq, beq_iff_eq] at h
  obtain ⟨⟨rfl, rfl⟩, h⟩ := h
  rcases (Bool.or_eq_true _ _).mp h with hindex | hflags
  · rw [beq_iff_eq, r.types.index, r.types.index] at hindex
    subst hindex
    exact ⟨rfl, Or.inr rfl⟩
  · simp only [Bool.and_eq_true, Bool.or_eq_true, beq_iff_eq] at hflags
    obtain ⟨⟨⟨⟨hclass, hunknown⟩, higter⟩, hcivilian⟩, -⟩ := hflags
    refine ⟨?_, hunknown.imp_right Eq.symm⟩
    have hmove : r.game.normalMove (r.mover (r.types.utype u'))
        = r.game.normalMove (r.mover (r.types.utype u)) := by
      funext src s dst s'
      unfold PfGame.normalMove PfGame.pfMovePossible mover
      rw [hclass, higter]
    unfold parameter PfParameter.withType
    rw [hmove, hcivilian]

/-- A search ends; if the types are alike, that of an equal key finds the
same. -/
theorem search_ends (hstart : k.startTile < r.game.map.mapIndexSize) :
    ∃ pos, r.search k = some pos
      ∧ ∀ k', r.pfPosHashCmp k k' = true →
        (r.parameter k).Alike (r.parameter k') →
          r.search k' = some pos := by
  have hnew := PfParameter.twin_new (p := r.parameter k) hstart
  have hlooks := PfParameter.looks_new (p := r.parameter k)
  have hrounds : r.game.map.mapIndexSize < r.game.map.mapIndexSize
      + [(r.parameter k).startTile].length := Nat.lt_succ_self _
  obtain ⟨pos, hpos, -⟩ := PfParameter.searchLoop_withType
    (x := 0) (f := fun _ _ => (.none, false)) (a := false) r.targetTile
      (r.maxCost k) _ _ _ hnew hlooks hrounds
  refine ⟨pos, hpos, fun k' hcmp halike => ?_⟩
  obtain ⟨heq, hunknown⟩ := parameter_eq hcmp
  have hmax : r.maxCost k' = r.maxCost k := by
    unfold pfPosHashCmp at hcmp
    rw [Bool.and_eq_true, Bool.and_eq_true, beq_iff_eq, beq_iff_eq] at hcmp
    unfold maxCost
    rw [hcmp.1.2]
  rw [heq] at halike
  obtain ⟨pos', hpos', hsame⟩ := PfParameter.searchLoop_withType
    (x := (r.parameter k').unknownMoveCost)
    (f := (r.parameter k').getMoveScope)
    (a := (r.parameter k').attackTakesAll) r.targetTile (r.maxCost k) _ _ _
      hnew hlooks hrounds
  have hpos : pos' = pos := Option.some.inj (hpos'.symm.trans hpos)
  unfold search
  dsimp only
  rw [heq, hmax, PfParameter.pfNormalMapNew_withType halike,
    hsame halike hunknown, hpos]

-- ==== the cache

/-- Each entry holds what a search for a question's key finds. -/
def Coherent (r : PfReverseMap) (asked : List ReverseQuery) (hash : Hash) :
    Prop :=
  ∀ entry ∈ hash, (∃ q ∈ asked, entry.1 = r.key q)
    ∧ r.search entry.1 = some entry.2

theorem Coherent.pfReverseMapPos {asked : List ReverseQuery} {hash : Hash}
    (h : Coherent r asked hash) {q : ReverseQuery} (hq : q ∈ asked)
    (hstart : ∀ q ∈ asked,
      (r.key q).startTile < r.game.map.mapIndexSize)
    (halike : ∀ q ∈ asked, ∀ q' ∈ asked,
      r.pfPosHashCmp (r.key q) (r.key q') = true →
        (r.parameter (r.key q)).Alike (r.parameter (r.key q'))) :
    ∃ hash' pos, r.pfReverseMapPos hash (r.key q) = some (hash', pos)
      ∧ r.search (r.key q) = some pos ∧ Coherent r asked hash' := by
  unfold PfReverseMap.pfReverseMapPos
  cases hfind : hash.find? fun entry => r.pfPosHashCmp entry.1 (r.key q)
    with
  | some entry =>
    obtain ⟨k, pos⟩ := entry
    have hcmp := List.find?_some hfind
    obtain ⟨⟨q', hq', hkey⟩, hsearch⟩ :=
      h (k, pos) (List.mem_of_find?_eq_some hfind)
    subst hkey
    obtain ⟨pos', hpos', hsame⟩ := search_ends (hstart q' hq')
    have hpos : pos' = pos := Option.some.inj (hpos'.symm.trans hsearch)
    rw [← hpos]
    exact ⟨hash, pos', rfl, hsame _ hcmp (halike q' hq' q hq hcmp), h⟩
  | none =>
    obtain ⟨pos, hpos, -⟩ := search_ends (hstart q hq)
    rw [hpos]
    refine ⟨_, pos, rfl, rfl, fun entry hentry => ?_⟩
    rcases List.mem_cons.mp hentry with rfl | hin
    · exact ⟨⟨q, hq, rfl⟩, hpos⟩
    · exact h entry hin

/-- The answers to some questions, from a hash that is coherent, are those
of new maps. -/
theorem Coherent.askAll {asked : List ReverseQuery}
    (hstart : ∀ q ∈ asked,
      (r.key q).startTile < r.game.map.mapIndexSize)
    (halike : ∀ q ∈ asked, ∀ q' ∈ asked,
      r.pfPosHashCmp (r.key q) (r.key q') = true →
        (r.parameter (r.key q)).Alike (r.parameter (r.key q')))
    (qs : List ReverseQuery) : ∀ hash, Coherent r asked hash →
      (∀ q ∈ qs, q ∈ asked) →
        ∃ answers, r.askAll hash qs = some answers
          ∧ List.Forall₂
            (fun q a => (r.ask [] q).map Prod.snd = some a) qs answers
      := by
  induction qs with
  | nil => exact fun hash _ _ => ⟨[], rfl, .nil⟩
  | cons q qs ih =>
    intro hash h hqs
    have hq := hqs q List.mem_cons_self
    obtain ⟨hash', pos, hpos, hsearch, h'⟩ :=
      h.pfReverseMapPos hq hstart halike
    obtain ⟨answers, hanswers, hall⟩ :=
      ih hash' h' fun q' hq' => hqs q' (List.mem_cons_of_mem _ hq')
    have hask : r.ask hash q = some (hash', answerOf pos q) := by
      unfold ask
      rw [hpos]
      rfl
    have hnew : (r.ask [] q).map Prod.snd = some (answerOf pos q) := by
      unfold ask PfReverseMap.pfReverseMapPos
      rw [List.find?_nil]
      rw [hsearch]
      rfl
    refine ⟨answerOf pos q :: answers, ?_, .cons hnew hall⟩
    unfold PfReverseMap.askAll
    rw [hask]
    dsimp only [Option.bind_eq_bind, Option.bind_some]
    rw [hanswers]
    rfl

end PfReverseMap

-- ==== the answers

/-- As long as the types of questions with equal keys are alike to the
search, all answers of a reverse map are those of new ones. -/
theorem reverse_map_is_transparent (r : PfReverseMap)
    (qs : List PfReverseMap.ReverseQuery)
    (hstart : ∀ q ∈ qs, (r.key q).startTile < r.game.map.mapIndexSize)
    (halike : ∀ q ∈ qs, ∀ q' ∈ qs,
      r.pfPosHashCmp (r.key q) (r.key q') = true →
        (r.parameter (r.key q)).Alike (r.parameter (r.key q'))) :
    ∃ answers, r.askAll [] qs = some answers
      ∧ List.Forall₂ (fun q a => (r.ask [] q).map Prod.snd = some a) qs
        answers :=
  PfReverseMap.Coherent.askAll hstart halike qs [] (fun _ => nofun)
    fun _ hq => hq

/-- Ships: the first can take over cities, others cannot. -/
def ships : UnitTypes where
  utype i :=
    { index := i
      uclass := 0
      igter := false
      civilian := false
      coastStrict := false
      unknownMoveCost := 3
      canTakeOver := i = 0
      attackTakesAll := false
      ignoresZoc := true
      transports _ := false
      embarks _ := false
      disembarks _ := false }
  index _ := rfl
  moveRate _ _ := 9

def pastThePort : PfReverseMap where
  game :=
    { map :=
        { xsize := 3
          ysize := 1
          iso := false
          hex := false
          wrapX := false
          wrapY := false
          xsize_pos := three_pos
          ysize_pos := Nat.one_pos
          even := row_even }
      getKnown := fun _ _ => .knownSeen
      canInvadeTile := fun _ _ => true
      cityOwner := fun t => if t = 1 then some 1 else none
      allied := fun owner owner' => owner == owner'
      citymindist := 2
      buildAnywhere := fun _ => false
      isNativeTile := fun _ t => t = 0 ∨ t = 2
      isSafeOcean := fun _ => true
      isNativeMove := fun _ _ _ => true
      isCityChannelTile := fun _ _ => false
      tileHasNativeBase := fun _ _ => false
      units := fun _ => []
      noZocTerrain := fun _ => false
      isMyZoc := fun _ _ => true
      mapMoveCost := fun _ _ _ _ _ => 3
      singleMove := 3 }
  types := ships
  owner := 0
  targetTile := 2
  maxTurns := -1
  omniscient := true

theorem past_the_port_is_transparent :
    let qs : List PfReverseMap.ReverseQuery :=
      [.utypeMoveCost 1 0, .unitPosition ⟨0, 9, 2⟩, .utypeMoveCost 0 1]
    ∃ answers, pastThePort.askAll [] qs = some answers
      ∧ List.Forall₂
        (fun q a => (pastThePort.ask [] q).map Prod.snd = some a) qs
        answers := by
  refine reverse_map_is_transparent pastThePort _ ?_ ?_
  · decide
  · intro q hq q' hq' hcmp
    simp only [List.mem_cons, List.not_mem_nil, or_false] at hq hq'
    rcases hq with rfl | rfl | rfl <;> rcases hq' with rfl | rfl | rfl <;>
      first
      | exact ⟨fun _ _ _ => rfl, fun _ _ _ _ _ _ _ => rfl⟩
      | exact absurd hcmp (by decide)

/-- A ship that cannot enter the port gets the answer of one that can. -/
theorem port_is_passed :
    pastThePort.askAll [] [.utypeMoveCost 0 0, .utypeMoveCost 1 0]
        = some [.moveCost 6, .moveCost 6]
      ∧ (pastThePort.ask [] (.utypeMoveCost 1 0)).map Prod.snd
        = some (.moveCost (-1)) := by
  decide +kernel

end Freeciv3d.Server
