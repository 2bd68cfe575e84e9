/-
The search of normal path-finding maps is one for least costs, as long as
no combined cost leaves its `int`.

# The steps

`PfParameter.next` is one legal step in whole numbers: what the callbacks
allow, at the smaller of the move cost and the moves left. To come cheaper
to a tile is to leave it no dearer, so these are steps in the sense of the
general search.

# The search

`Ready` ties the lattice and the queue to the settled tiles and the fringe
of that search; `Searched` adds what holds between two rounds. A round
passes the steps of the current tile on, one neighbor after the other, and
settles the next one. The list of processed tiles, the last first, is what
the walk back to the start is done along.
-/
import Freeciv3d.Lib.LeastCost
import Freeciv3d.Server.PathFinding

namespace Freeciv3d.Server

open Lib Function

/-- A parameter as the maps of units without fuel get it: no extra costs,
and what can be done on a tile does not depend on how it is reached. The
moves are of the range of an `int`. -/
structure PfParameter.Plain (p : PfParameter) : Prop where
  fuel : p.fuel = 1
  fuelLeft : p.fuelLeftInitially = 1
  start : p.startTile < p.map.mapIndexSize
  rateFits : p.moveRate ≤ 2147483647
  initialFits : p.movesLeftInitially ≤ 2147483647
  noExtra : p.getEC = none
  scope : ∀ t s s', p.getMoveScope t s = p.getMoveScope t s'

namespace PfParameter

variable {p : PfParameter}

theorem Plain.pfMoveRate_eq (hp : p.Plain) : p.pfMoveRate = p.moveRate := by
  have h := hp.rateFits
  unfold pfMoveRate
  rw [hp.fuel, Int.natCast_one, Int.mul_one,
    int32_of_range (by omega) (by omega)]

theorem Plain.pfMovesLeftInitially_eq (hp : p.Plain) :
    p.pfMovesLeftInitially = p.movesLeftInitially := by
  have h := hp.initialFits
  unfold pfMovesLeftInitially
  rw [hp.fuelLeft, show ((1 : Nat) : Int) - 1 = 0 from rfl, Int.zero_mul,
    show int32 0 = 0 from rfl, Int.add_zero,
    int32_of_range (by omega) (by omega)]

variable (p)

def startCost : Int := (p.moveRate : Int) - p.movesLeftInitially

def movesLeft (cost : Int) : Int :=
  if cost ≤ 0 then p.moveRate - cost
  else if p.moveRate = 0 then 0
  else p.moveRate - cost % p.moveRate

theorem movesLeft_nonneg (cost : Int) : 0 ≤ p.movesLeft cost := by
  unfold movesLeft
  by_cases hneg : cost ≤ 0
  · rw [if_pos hneg]
    omega
  · rw [if_neg hneg]
    by_cases hrate : p.moveRate = 0
    · rw [if_pos hrate]
    · rw [if_neg hrate]
      have hlt := Int.emod_lt_of_pos cost
        (by omega : (0 : Int) < p.moveRate)
      omega

theorem Plain.pfMovesLeft_eq {p : PfParameter} (hp : p.Plain) {cost : Int}
    (hcost : p.startCost ≤ cost) : p.pfMovesLeft cost = p.movesLeft cost := by
  have hrate := hp.rateFits
  have hinit := hp.initialFits
  unfold startCost at hcost
  unfold pfMovesLeft movesLeft
  rw [hp.pfMoveRate_eq]
  by_cases hneg : cost ≤ 0
  · rw [if_pos hneg, if_pos hneg, int32_of_range (by omega) (by omega)]
  · rw [if_neg hneg, if_neg hneg]
    by_cases hzero : p.moveRate = 0
    · rw [if_pos hzero, if_pos (by omega)]
    · have hpos : (0 : Int) < p.moveRate := by omega
      have hlt := Int.emod_lt_of_pos cost hpos
      have hnonneg := Int.emod_nonneg cost (Int.ne_of_gt hpos)
      rw [if_neg hzero, if_neg (by omega),
        Int.tmod_eq_emod_of_nonneg (by omega),
        int32_of_range (by omega) (by omega)]

theorem turnEnd_mono {a a' : Int} (h : a ≤ a')
    (hmay : p.moveRate > 0 ∨ a' < 0) :
    a + p.movesLeft a ≤ a' + p.movesLeft a' := by
  unfold movesLeft
  by_cases ha' : a' ≤ 0
  · have ha : a ≤ 0 := Int.le_trans h ha'
    rw [if_pos ha', if_pos ha]
    omega
  · have hpos : (0 : Int) < p.moveRate := by omega
    have hrate : ¬ p.moveRate = 0 := by omega
    have hdiv' := Int.emod_add_mul_ediv a' p.moveRate
    rw [if_neg ha', if_neg hrate]
    by_cases ha : a ≤ 0
    · have hquot : 0 ≤ (p.moveRate : Int) * (a' / p.moveRate) :=
        Int.mul_nonneg (Int.le_of_lt hpos) (Int.ediv_nonneg (by omega)
          (Int.le_of_lt hpos))
      rw [if_pos ha]
      omega
    · have hdiv := Int.emod_add_mul_ediv a p.moveRate
      have hquot : (p.moveRate : Int) * (a / p.moveRate)
          ≤ p.moveRate * (a' / p.moveRate) :=
        Int.mul_le_mul_of_nonneg_left
          (Int.ediv_le_ediv hpos h) (Int.le_of_lt hpos)
      rw [if_neg ha, if_neg hrate]
      omega

-- ==== the tiles

end PfParameter

/-- What does not change in a node once it is initialised. -/
def PfNormalNode.cached (node : PfNormalNode) : PfNormalNode :=
  { node with
    cost := 0
    extraCost := 0
    dirToHere := none
    status := .uninit }

/-- How an initialisation ends. -/
def Inits (good bad : PfNormalNode → Prop) :
    Except PfNormalNode PfNormalNode → Prop
  | .ok node => good node
  | .error node => bad node

theorem Inits.bind {good bad good' : PfNormalNode → Prop}
    {x : Except PfNormalNode PfNormalNode}
    {f : PfNormalNode → Except PfNormalNode PfNormalNode}
    (hx : Inits good bad x) (hf : ∀ n, good n → Inits good' bad (f n)) :
    Inits good' bad (x >>= f) := by
  cases x with
  | ok node => exact hf node hx
  | error node => exact hx

namespace PfParameter

variable (p : PfParameter)

/-- An action there may be an attack. -/
def Attackable (t : Nat) : Prop :=
  ∃ getAction known, p.getAction = some getAction
    ∧ getAction t known = some .attack

/-- A node under initialisation: what is known of the way to it is left
alone, and a tile to ignore is not entered, but for the start. -/
structure Initing (node₀ : PfNormalNode) (t : Nat) (node : PfNormalNode) :
    Prop where
  cost : node.cost = node₀.cost
  extraCost : node.extraCost = node₀.extraCost
  known : node.nodeKnownType
    = if p.omniscience then .knownSeen else p.getKnown t
  status : node.status = .init
  attack : node.action = .attack → p.Attackable t
  behavior : p.startTile ≠ t → node.behavior ≠ .ignore

/-- A node that cannot be entered. -/
structure Refused (node₀ : PfNormalNode) (t : Nat) (node : PfNormalNode) :
    Prop where
  cost : node.cost = node₀.cost
  extraCost : node.extraCost = node₀.extraCost
  known : node.nodeKnownType
    = if p.omniscience then .knownSeen else p.getKnown t
  status : node.status = .init
  attack : node.action = .attack → p.Attackable t
  behavior : node.behavior = .ignore
  notStart : p.startTile ≠ t

variable {p} {node₀ node : PfNormalNode} {t : Nat}

theorem inits_forbid (h : p.Initing node₀ t node) :
    Inits (p.Initing node₀ t) (p.Refused node₀ t) (p.forbid node t) := by
  unfold forbid
  by_cases hstart : p.startTile = t
  · rw [if_neg (not_not.mpr hstart)]
    by_cases hnormal : node.behavior = .normal
    · rw [if_pos hnormal]
      exact ⟨h.cost, h.extraCost, h.known, h.status, h.attack,
        fun hne => absurd hstart hne⟩
    · rw [if_neg hnormal]
      exact h
  · rw [if_pos hstart]
    exact ⟨h.cost, h.extraCost, h.known, h.status, h.attack, rfl, hstart⟩

theorem inits_behavior (h : p.Initing node₀ t node) :
    Inits (p.Initing node₀ t) (p.Refused node₀ t)
      (p.initBehavior node t) := by
  unfold initBehavior
  cases p.getTB with
  | none => exact h
  | some getTB =>
    dsimp only
    by_cases hignore : getTB t node.nodeKnownType = .ignore
        ∧ p.startTile ≠ t
    · rw [if_pos hignore]
      exact ⟨h.cost, h.extraCost, h.known, h.status, h.attack, hignore.1,
        hignore.2⟩
    · rw [if_neg hignore]
      exact ⟨h.cost, h.extraCost, h.known, h.status, h.attack,
        fun hne heq => hignore ⟨heq, hne⟩⟩

theorem inits_invade (h : p.Initing node₀ t node) :
    Inits (p.Initing node₀ t) (p.Refused node₀ t)
      (p.initInvade node t) := by
  unfold initInvade
  by_cases hcan : p.canInvade t = true
  · rw [if_pos hcan]
    exact h
  · rw [if_neg hcan]
    exact inits_forbid h

theorem inits_action (h : p.Initing node₀ t node) :
    Inits (p.Initing node₀ t) (p.Refused node₀ t)
      (p.initAction node t) := by
  unfold initAction
  cases hget : p.getAction with
  | none => exact h
  | some getAction =>
    dsimp only
    cases hresult : getAction t node.nodeKnownType with
    | none => exact (inits_forbid h).bind fun n hn =>
      ⟨hn.cost, hn.extraCost, hn.known, hn.status, nofun, hn.behavior⟩
    | some action =>
      cases action with
      | none =>
        exact ⟨h.cost, h.extraCost, h.known, h.status, nofun, h.behavior⟩
      | attack =>
        exact ⟨h.cost, h.extraCost, h.known, h.status,
          fun _ => ⟨getAction, _, hget, hresult⟩, fun _ => nofun⟩
      | diplomat | tradeRoute =>
        exact ⟨h.cost, h.extraCost, h.known, h.status, nofun, fun _ => nofun⟩

theorem inits_scope (h : p.Initing node₀ t node) (s : MoveScope) :
    Inits (p.Initing node₀ t) (p.Refused node₀ t)
      (p.initScope node t s) := by
  unfold initScope
  cases p.getMoveScope t s with
  | mk scope canDisembark =>
    have hscope : p.Initing node₀ t { node with moveScope := scope } :=
      ⟨h.cost, h.extraCost, h.known, h.status, h.attack, h.behavior⟩
    dsimp only
    by_cases hnone : scope = .none ∧ node.action = .none
        ∧ p.ignoreNoneScopes = true
    · rw [if_pos hnone]
      exact inits_forbid hscope
    · rw [if_neg hnone]
      by_cases hferry : scope = .onlyTransport
          ∧ (!canDisembark) = true
          ∧ (p.startTile ≠ t ∨ (!p.transported) = true)
      · rw [if_pos hferry]
        exact ⟨h.cost, h.extraCost, h.known, h.status, h.attack, fun _ => nofun⟩
      · rw [if_neg hferry]
        exact hscope

theorem initing_zoc (h : p.Initing node₀ t node) :
    p.Initing node₀ t (p.initZoc node t) := by
  unfold initZoc
  cases p.getZoc with
  | none => exact h
  | some getZoc =>
    dsimp only
    by_cases hzoc : (!p.hasCity t && !p.noZocTerrain t && !getZoc t) = true
    · rw [if_pos hzoc]
      exact ⟨h.cost, h.extraCost, h.known, h.status, h.attack, h.behavior⟩
    · rw [if_neg hzoc]
      exact h

theorem initing_extra (h : p.Initing node₀ t node) :
    p.Initing node₀ t (p.initExtra node t) := by
  unfold initExtra
  cases p.getEC with
  | none => exact h
  | some getEC =>
    exact ⟨h.cost, h.extraCost, h.known, h.status, h.attack, h.behavior⟩

theorem inits_known (h : p.Initing node₀ t node) (s : MoveScope) :
    Inits (p.Initing node₀ t) (p.Refused node₀ t)
      (p.initKnown node t s) := by
  unfold initKnown
  by_cases hknown : node.nodeKnownType = .unknown
  · rw [if_pos hknown]
    exact ⟨h.cost, h.extraCost, h.known, h.status, h.attack, h.behavior⟩
  · rw [if_neg hknown]
    exact (inits_invade h).bind fun n₁ h₁ =>
      (inits_action h₁).bind fun n₂ h₂ =>
        (inits_scope h₂ s).bind fun n₃ h₃ => initing_zoc h₃

theorem inits_node (t : Nat) (s : MoveScope) :
    Inits (p.Initing .zero t) (p.Refused .zero t)
      (p.pfNormalNodeInit .zero t s) := by
  have hzero : p.Initing .zero t { PfNormalNode.zero with
      status := .init
      nodeKnownType :=
        if p.omniscience then .knownSeen else p.getKnown t } :=
    ⟨rfl, rfl, rfl, rfl, nofun, fun _ h => by cases h⟩
  unfold pfNormalNodeInit
  exact (inits_behavior hzero).bind fun n hn =>
    (inits_known hn s).bind fun n' hn' => initing_extra hn'

theorem init_congr {t : Nat} {s s' : MoveScope}
    (h : p.getMoveScope t s = p.getMoveScope t s') (node : PfNormalNode) :
    p.pfNormalNodeInit node t s = p.pfNormalNodeInit node t s' := by
  have hsame : ∀ n, p.initScope n t s = p.initScope n t s' := by
    intro n
    unfold initScope
    rw [h]
  unfold pfNormalNodeInit initKnown
  simp only [hsame]

variable (p)

/-- A tile's node as it is initialised, and the start as it is made. -/
def place (t : Nat) : PfNormalNode :=
  if t = p.startTile then p.startNode
  else (initialised (p.pfNormalNodeInit .zero t .none)).1

def enters (t : Nat) : Bool :=
  (initialised (p.pfNormalNodeInit .zero t .none)).2

variable {p}

theorem place_of_ne {t : Nat} (ht : t ≠ p.startTile) :
    p.place t = (initialised (p.pfNormalNodeInit .zero t .none)).1 :=
  if_neg ht

theorem ignore_iff {t : Nat} (ht : t ≠ p.startTile) :
    (p.place t).behavior = .ignore ↔ p.enters t = false := by
  have h := inits_node (p := p) t .none
  rw [place_of_ne ht]
  unfold enters
  cases hinit : p.pfNormalNodeInit .zero t .none with
  | ok n =>
    rw [hinit] at h
    exact ⟨fun heq => absurd heq (h.behavior ht.symm), nofun⟩
  | error n =>
    rw [hinit] at h
    exact ⟨fun _ => rfl, fun _ => h.behavior⟩

theorem place_fresh {t : Nat} (ht : t ≠ p.startTile) :
    (p.place t).status = .init ∧ (p.place t).extraCost = 0 := by
  have h := inits_node (p := p) t .none
  rw [place_of_ne ht]
  cases hinit : p.pfNormalNodeInit .zero t .none with
  | ok n | error n =>
    rw [hinit] at h
    exact ⟨h.status, h.extraCost⟩

theorem Plain.initialised_eq (hp : p.Plain) {t : Nat}
    (ht : t ≠ p.startTile) (s : MoveScope) :
    initialised (p.pfNormalNodeInit .zero t s)
      = (p.place t, p.enters t) := by
  rw [init_congr (hp.scope t s .none) .zero, place_of_ne ht]
  rfl

theorem startNode_status : p.startNode.status = .processed := rfl

theorem Plain.startNode_cost (hp : p.Plain) :
    p.startNode.cost = p.startCost := by
  have hrate := hp.rateFits
  have hinit := hp.initialFits
  unfold startNode startCost
  rw [hp.pfMoveRate_eq, hp.pfMovesLeftInitially_eq,
    int32_of_range (by omega) (by omega)]

-- ==== legal steps

variable (p)

/-- What a step between two tiles costs, if it is legal at all. -/
def legalMove (u v : Nat) : Option Int :=
  if (p.map.adjcDir u).any (fun x => x.1 = v)
      ∧ (p.place u).behavior ≠ .dontLeave ∧ (p.place u).moveScope ≠ .none
      ∧ (v = p.startTile ∨ p.enters v) then
    p.moveCost u (p.place u) v (p.place v)
  else none

/-- A legal step, at the smaller of its cost and the moves left. A unit
that has no moves of its own goes as far as its initial ones. -/
def next (u : Nat) (a : Int) (v : Nat) : Option Int :=
  if p.moveRate > 0 ∨ a < 0 then
    (p.legalMove u v).map fun c => a + min c (p.movesLeft a)
  else none

theorem moveCost_nonneg {t t₁ : Nat} {node node₁ : PfNormalNode} {c : Int}
    (h : p.moveCost t node t₁ node₁ = some c) : 0 ≤ c := by
  unfold moveCost at h
  by_cases hzoc : node.zocNumber ≠ .mine ∧ node₁.zocNumber = .no
  · rw [if_pos hzoc] at h
    cases h
  · rw [if_neg hzoc] at h
    dsimp only at h
    generalize (if node₁.action ≠ .none then _ else _ : Int) = cost at h
    by_cases hneg : cost < 0
    · rw [if_pos hneg] at h
      cases h
    · rw [if_neg hneg] at h
      cases h
      exact Int.not_lt.mp hneg

theorem next_eq_some {u v : Nat} {a b : Int} :
    p.next u a v = some b ↔ (p.moveRate > 0 ∨ a < 0)
      ∧ ∃ c, p.legalMove u v = some c ∧ a + min c (p.movesLeft a) = b := by
  unfold next
  by_cases hmay : p.moveRate > 0 ∨ a < 0
  · rw [if_pos hmay, Option.map_eq_some_iff]
    exact ⟨fun h => ⟨hmay, h⟩, fun h => h.2⟩
  · rw [if_neg hmay]
    exact ⟨nofun, fun h => absurd h.1 hmay⟩

theorem legalMove_nonneg {u v : Nat} {c : Int}
    (h : p.legalMove u v = some c) : 0 ≤ c := by
  unfold legalMove at h
  split at h
  · exact p.moveCost_nonneg h
  · cases h

def legal : Steps Nat where
  next := p.next
  grow {u a v b} h := by
    obtain ⟨-, c, hc, rfl⟩ := p.next_eq_some.mp h
    have hcost := p.legalMove_nonneg hc
    have hleft := p.movesLeft_nonneg a
    omega
  mono {u a a' v b'} hle h := by
    obtain ⟨hmay, c, hc, rfl⟩ := p.next_eq_some.mp h
    refine ⟨a + min c (p.movesLeft a), p.next_eq_some.mpr
      ⟨by omega, c, hc, rfl⟩, ?_⟩
    have hturn := p.turnEnd_mono hle hmay
    omega

/-- Some legal sequence of steps leads from the start to the tile, at a
total that counts from `startCost`. -/
def Leads (t : Nat) (a : Int) : Prop :=
  p.legal.Leads p.startTile p.startCost t a

/-- The least such total. -/
def Least (t : Nat) (a : Int) : Prop :=
  p.legal.Least p.startTile p.startCost t a

/-- No step that the search looks at makes a total whose combined cost
leaves the `int` of a priority: a step out of a tile reached at its least
total, to a tile not reached at less, and not the start. -/
def PriorityFits : Prop :=
  ∀ u a, p.Least u a → ∀ v b, p.next u a v = some b →
    v ≠ p.startTile → (∀ c, p.Leads v c → a ≤ c) →
      -32768 < b ∧ b < 32768

variable {p} in
theorem startCost_le {t : Nat} {a : Int} (h : p.Leads t a) :
    p.startCost ≤ a := by
  unfold Leads at h
  induction h with
  | start => exact Int.le_refl _
  | step before next ih => exact Int.le_trans ih (p.legal.grow next)

variable {p} in
theorem least_start : p.Least p.startTile p.startCost :=
  ⟨.start, fun _ h => startCost_le h⟩

-- ==== the lattice

def settledOf (lattice : Nat → PfNormalNode) (v : Nat) : Option Int :=
  if (lattice v).status = .processed then some (lattice v).cost else none

/-- The totals of the reached tiles that are not processed. -/
def fringeOf (lattice : Nat → PfNormalNode) (v : Nat) : Option Int :=
  if (lattice v).status = .new then some (lattice v).cost else none

theorem settledOf_eq_some {lattice : Nat → PfNormalNode} {v : Nat}
    {a : Int} : settledOf lattice v = some a
      ↔ (lattice v).status = .processed ∧ (lattice v).cost = a := by
  unfold settledOf
  by_cases h : (lattice v).status = .processed
  · rw [if_pos h]
    exact ⟨fun heq => ⟨h, Option.some.inj heq⟩, fun heq => by rw [heq.2]⟩
  · rw [if_neg h]
    exact ⟨nofun, fun heq => absurd heq.1 h⟩

theorem fringeOf_eq_some {lattice : Nat → PfNormalNode} {v : Nat}
    {a : Int} : fringeOf lattice v = some a
      ↔ (lattice v).status = .new ∧ (lattice v).cost = a := by
  unfold fringeOf
  by_cases h : (lattice v).status = .new
  · rw [if_pos h]
    exact ⟨fun heq => ⟨h, Option.some.inj heq⟩, fun heq => by rw [heq.2]⟩
  · rw [if_neg h]
    exact ⟨nofun, fun heq => absurd heq.1 h⟩

/-- The recorded direction leads back into a list of tiles, by a legal
step. -/
def BackInto (lattice : Nat → PfNormalNode) (v : Nat) (done : List Nat) :
    Prop :=
  ∃ u d, u ∈ done ∧ (lattice v).dirToHere = some d
    ∧ p.map.mapstep u d = some v
    ∧ p.next u (lattice u).cost v = some (lattice v).cost

/-- Each tile was reached from one processed before it, back to the
start. -/
inductive Linked (lattice : Nat → PfNormalNode) : List Nat → Prop where
  | start : Linked lattice [p.startTile]
  | cons {v : Nat} {rest : List Nat} (ne : v ≠ p.startTile)
      (back : p.BackInto lattice v rest) (before : Linked lattice rest) :
      Linked lattice (v :: rest)

/-- What holds of the lattice and the queue, when some tiles are
processed. -/
structure Ready (lattice : Nat → PfNormalNode) (queue : PQueue Nat)
    (done : List Nat) : Prop where
  cached : ∀ v, (lattice v).status ≠ .uninit →
    (lattice v).cached = (p.place v).cached
  fresh : ∀ v, (lattice v).status = .uninit → lattice v = .zero
  processed : ∀ v, (lattice v).status = .processed ↔ v ∈ done
  nodup : done.Nodup
  onMap : ∀ v ∈ done, v < p.map.mapIndexSize
  linked : p.Linked lattice done
  waiting : ∀ v, (lattice v).status = .new →
    v < p.map.mapIndexSize ∧ p.BackInto lattice v done
      ∧ -32768 < (lattice v).cost ∧ (lattice v).cost < 32768
  extra : ∀ v, (lattice v).extraCost = 0
  holds : queue.Holds fun v =>
    (fringeOf lattice v).map fun a => -(65536 * a)

variable {p} {lattice lattice' : Nat → PfNormalNode} {done : List Nat}

theorem BackInto.congr {v : Nat} (h : p.BackInto lattice v done)
    (hv : lattice' v = lattice v)
    (hdone : ∀ u ∈ done, lattice' u = lattice u) :
    p.BackInto lattice' v done := by
  obtain ⟨u, d, hu, hdir, hstep, hnext⟩ := h
  exact ⟨u, d, hu, by rw [hv, hdir], hstep, by rw [hv, hdone u hu, hnext]⟩

theorem Linked.congr (h : p.Linked lattice done)
    (hdone : ∀ u ∈ done, lattice' u = lattice u) :
    p.Linked lattice' done := by
  induction h with
  | start => exact .start
  | cons ne back before ih =>
    have hrest := fun u hu => hdone u (List.mem_cons_of_mem _ hu)
    exact .cons ne (back.congr (hdone _ List.mem_cons_self) hrest)
      (ih hrest)

theorem Linked.start_mem (h : p.Linked lattice done) :
    p.startTile ∈ done := by
  induction h with
  | start => exact List.mem_cons_self
  | cons ne back before ih => exact List.mem_cons_of_mem _ ih

-- ==== one neighbor

def reachedNode (node : PfNormalNode) (b : Int) (d : Direction8) :
    PfNormalNode :=
  { node with
    status := .new
    extraCost := 0
    cost := b
    dirToHere := some d }

theorem pfTotalCC_eq {b : Int} (h₁ : -32768 < b) (h₂ : b < 32768) :
    p.pfTotalCC b 0 = 65536 * b := by
  unfold pfTotalCC pfTurnFactor
  rw [Int.natCast_zero, Int.zero_mul, Int.add_zero,
    int32_of_range (by omega) (by omega)]

theorem Ready.record {queue queue' : PQueue Nat}
    (h : p.Ready lattice queue done) {t v : Nat} {d : Direction8} {b : Int}
    (ht : t ∈ done) (hv : v ∉ done)
    (hinit : (lattice v).status ≠ .uninit)
    (hstep : p.map.mapstep t d = some v)
    (hnext : p.next t (lattice t).cost v = some b)
    (hfits : -32768 < b ∧ b < 32768)
    (hqueue : queue'.Holds (update (fun x =>
      (fringeOf lattice x).map fun a => -(65536 * a)) v
        (some (-(65536 * b))))) :
    p.Ready (update lattice v (reachedNode (lattice v) b d)) queue' done
      ∧ fringeOf (update lattice v (reachedNode (lattice v) b d))
        = update (fringeOf lattice) v (some b) := by
  have hne : ∀ u ∈ done, u ≠ v := by
    rintro u hu rfl
    exact hv hu
  have hkeep : ∀ u ∈ done,
      update lattice v (reachedNode (lattice v) b d) u = lattice u :=
    fun u hu => update_of_ne (hne u hu) _ _
  have hfringe : fringeOf (update lattice v (reachedNode (lattice v) b d))
      = update (fringeOf lattice) v (some b) := by
    funext x
    unfold fringeOf
    by_cases hx : x = v
    · rw [hx, update_self, update_self]
      rfl
    · rw [update_of_ne hx, update_of_ne hx]
  refine ⟨
    { cached := fun x hx => ?_
      fresh := fun x hx => ?_
      processed := fun x => ?_
      nodup := h.nodup
      onMap := h.onMap
      linked := h.linked.congr hkeep
      waiting := fun x hx => ?_
      extra := fun x => ?_
      holds := ?_ }, hfringe⟩
  · by_cases hxv : x = v
    · rw [hxv, update_self]
      exact h.cached v hinit
    · rw [update_of_ne hxv] at hx ⊢
      exact h.cached x hx
  · by_cases hxv : x = v
    · rw [hxv, update_self] at hx
      cases hx
    · rw [update_of_ne hxv] at hx ⊢
      exact h.fresh x hx
  · by_cases hxv : x = v
    · rw [hxv, update_self]
      exact ⟨nofun, fun hmem => absurd hmem hv⟩
    · rw [update_of_ne hxv]
      exact h.processed x
  · by_cases hxv : x = v
    · rw [hxv]
      refine ⟨p.map.mapstep_lt hstep, ⟨t, d, ht, ?_, hstep, ?_⟩, ?_⟩
      · rw [update_self]
        rfl
      · rw [hkeep t ht, hnext, update_self]
        rfl
      · rw [update_self]
        exact hfits
    · rw [update_of_ne hxv] at hx ⊢
      obtain ⟨hlt, hback, hcost⟩ := h.waiting x hx
      exact ⟨hlt, hback.congr (update_of_ne hxv _ _) hkeep, hcost⟩
  · by_cases hxv : x = v
    · rw [hxv, update_self]
      rfl
    · rw [update_of_ne hxv]
      exact h.extra x
  · have hsame : (fun x => (fringeOf (update lattice v
          (reachedNode (lattice v) b d)) x).map fun a => -(65536 * a))
        = update (fun x => (fringeOf lattice x).map fun a =>
          -(65536 * a)) v (some (-(65536 * b))) := by
      rw [hfringe]
      funext x
      by_cases hxv : x = v
      · rw [hxv, update_self, update_self]
        rfl
      · rw [update_of_ne hxv, update_of_ne hxv]
    rw [hsame]
    exact hqueue

theorem moveCost_congr {t v : Nat} {n n' n₁ n₁' : PfNormalNode}
    (h : n.cached = n'.cached) (h₁ : n₁.cached = n₁'.cached) :
    p.moveCost t n v n₁ = p.moveCost t n' v n₁' := by
  calc p.moveCost t n v n₁
      = p.moveCost t n.cached v n₁.cached := rfl
    _ = p.moveCost t n'.cached v n₁'.cached := by rw [h, h₁]
    _ = p.moveCost t n' v n₁' := rfl

/-- The tile whose steps are passed on: a processed one that may be left,
than which no other tile can be reached at less. -/
structure Current (lattice : Nat → PfNormalNode) (done : List Nat)
    (t : Nat) : Prop where
  mem : t ∈ done
  least : p.Least t (lattice t).cost
  beyond : ∀ v c, v ∉ done → p.Leads v c → (lattice t).cost ≤ c
  leaves : p.mayLeave (lattice t)

section

variable {queue : PQueue Nat} {t v : Nat} {d : Direction8}

theorem Ready.legalMove_eq (h : p.Ready lattice queue done)
    (ht : p.Current lattice done t) (hstep : p.map.mapstep t d = some v)
    (hinit : (lattice v).status ≠ .uninit) (henters : p.enters v = true) :
    p.legalMove t v = p.moveCost t (lattice t) v (lattice v) := by
  have hprocessed := (h.processed t).mpr ht.mem
  have hcached := h.cached t (by rw [hprocessed]; nofun)
  have hleaves := of_decide_eq_true ht.leaves
  have hbehavior : (p.place t).behavior = (lattice t).behavior :=
    (congrArg PfNormalNode.behavior hcached).symm
  have hscope : (p.place t).moveScope = (lattice t).moveScope :=
    (congrArg PfNormalNode.moveScope hcached).symm
  have hadjacent : (p.map.adjcDir t).any (fun x => x.1 = v) = true :=
    List.any_eq_true.mpr ⟨(v, d), p.map.mem_adjcDir.mpr hstep,
      decide_eq_true rfl⟩
  unfold legalMove
  rw [if_pos ⟨hadjacent, hbehavior ▸ hleaves.1, hscope ▸ hleaves.2.1,
    Or.inr henters⟩]
  exact moveCost_congr hcached.symm (h.cached v hinit).symm

theorem Ready.reach (hp : p.Plain) (hfits : p.PriorityFits)
    (h : p.Ready lattice queue done) (ht : p.Current lattice done t)
    (hstep : p.map.mapstep t d = some v) (hv : v ∉ done)
    (hinit : (lattice v).status ≠ .uninit) (henters : p.enters v = true) :
    let search := p.reach t (lattice t) (lattice, queue) v d
    p.Ready search.1 search.2 done
      ∧ (∀ u ∈ done, search.1 u = lattice u)
      ∧ fringeOf search.1 = update (fringeOf lattice) v
        (Steps.relaxed (fringeOf lattice v)
          (p.next t (lattice t).cost v)) := by
  have hlegal := h.legalMove_eq ht hstep hinit henters
  have hmay : p.moveRate > 0 ∨ (lattice t).cost < 0 :=
    (of_decide_eq_true ht.leaves).2.2
  have hkeep : ∀ b, ∀ u ∈ done,
      update lattice v (reachedNode (lattice v) b d) u = lattice u := by
    intro b u hu
    refine update_of_ne ?_ _ _
    rintro rfl
    exact hv hu
  have hstart : p.startCost ≤ (lattice t).cost :=
    startCost_le ht.least.1
  unfold PfParameter.reach
  dsimp only
  cases hcost : p.moveCost t (lattice t) v (lattice v) with
  | none =>
    have hnext : p.next t (lattice t).cost v = none := by
      unfold next
      rw [if_pos hmay, hlegal, hcost]
      rfl
    refine ⟨h, fun _ _ => rfl, ?_⟩
    rw [hnext]
    exact (update_eq_self v (fringeOf lattice)).symm
  | some c =>
    have hnext : p.next t (lattice t).cost v
        = some ((lattice t).cost + min c (p.movesLeft (lattice t).cost)) :=
      p.next_eq_some.mpr ⟨hmay, c, hlegal.trans hcost, rfl⟩
    have hne : v ≠ p.startTile := by
      rintro rfl
      exact hv h.linked.start_mem
    have hbounds := hfits t _ ht.least v _ hnext hne
      (fun c' hc' => ht.beyond v c' hv hc')
    have hb : int32 (adjustCost c (p.pfMovesLeft (lattice t).cost)
          + (lattice t).cost)
        = (lattice t).cost + min c (p.movesLeft (lattice t).cost) := by
      rw [hp.pfMovesLeft_eq hstart, Int.add_comm]
      exact int32_of_range (by unfold adjustCost; omega)
        (by unfold adjustCost; omega)
    rw [hnext]
    dsimp only
    rw [hb, hp.noExtra]
    generalize (lattice t).cost + min c (p.movesLeft (lattice t).cost) = b
      at hbounds hnext
    simp only [Option.isSome_none, Bool.false_eq_true, if_false, h.extra]
    rw [pfTotalCC_eq hbounds.1 hbounds.2,
      int32_of_range (by omega) (by omega)]
    by_cases hfirst : (lattice v).status = .init
    · -- "We are reaching this node for the first time."
      have hnone : fringeOf lattice v = none := by
        unfold fringeOf
        rw [hfirst]
        rfl
      have hqueue := h.holds.insert (d := v)
        (by rw [hnone]; rfl) (-(65536 * b))
      obtain ⟨hready, hfringe⟩ := h.record ht.mem hv hinit hstep hnext
        hbounds hqueue
      rw [if_pos hfirst, hnone]
      exact ⟨hready, hkeep b, hfringe⟩
    · have hnew : (lattice v).status = .new := by
        cases hstatus : (lattice v).status with
        | uninit => exact absurd hstatus hinit
        | init => exact absurd hstatus hfirst
        | new => rfl
        | processed => exact absurd ((h.processed v).mp hstatus) hv
      have hsome : fringeOf lattice v = some (lattice v).cost :=
        fringeOf_eq_some.mpr ⟨hnew, rfl⟩
      obtain ⟨-, -, hold₁, hold₂⟩ := h.waiting v hnew
      rw [if_neg hfirst, hsome, pfTotalCC_eq hold₁ hold₂]
      by_cases hbetter : b < (lattice v).cost
      · have hqueue := h.holds.replace (d := v)
          (by rw [hsome]; rfl)
          (by omega : -(65536 * (lattice v).cost) < -(65536 * b))
        obtain ⟨hready, hfringe⟩ := h.record ht.mem hv hinit hstep hnext
          hbounds hqueue
        rw [if_pos (by omega)]
        unfold Steps.relaxed
        dsimp only
        rw [if_pos hbetter]
        exact ⟨hready, hkeep b, hfringe⟩
      · rw [if_neg (by omega)]
        unfold Steps.relaxed
        dsimp only
        rw [if_neg hbetter, ← hsome, update_eq_self]
        exact ⟨h, fun _ _ => rfl, rfl⟩

theorem Ready.inited (h : p.Ready lattice queue done)
    (hv : v ≠ p.startTile) (hfresh : (lattice v).status = .uninit) :
    p.Ready (update lattice v (p.place v)) queue done
      ∧ (∀ u ∈ done, update lattice v (p.place v) u = lattice u)
      ∧ fringeOf (update lattice v (p.place v)) = fringeOf lattice := by
  obtain ⟨hstatus, hextra⟩ := place_fresh hv
  have hnot : v ∉ done := fun hmem => by
    rw [(h.processed v).mpr hmem] at hfresh
    cases hfresh
  have hkeep : ∀ u ∈ done,
      update lattice v (p.place v) u = lattice u := by
    intro u hu
    refine update_of_ne ?_ _ _
    rintro rfl
    exact hnot hu
  have hfringe : fringeOf (update lattice v (p.place v))
      = fringeOf lattice := by
    funext x
    unfold fringeOf
    by_cases hx : x = v
    · rw [hx, update_self, hstatus, hfresh]
      rfl
    · rw [update_of_ne hx]
  refine ⟨
    { cached := fun x hx => ?_
      fresh := fun x hx => ?_
      processed := fun x => ?_
      nodup := h.nodup
      onMap := h.onMap
      linked := h.linked.congr hkeep
      waiting := fun x hx => ?_
      extra := fun x => ?_
      holds := ?_ }, hkeep, hfringe⟩
  · by_cases hxv : x = v
    · rw [hxv, update_self]
    · rw [update_of_ne hxv] at hx ⊢
      exact h.cached x hx
  · by_cases hxv : x = v
    · rw [hxv, update_self, hstatus] at hx
      cases hx
    · rw [update_of_ne hxv] at hx ⊢
      exact h.fresh x hx
  · by_cases hxv : x = v
    · rw [hxv, update_self, hstatus]
      exact ⟨nofun, fun hmem => absurd hmem hnot⟩
    · rw [update_of_ne hxv]
      exact h.processed x
  · by_cases hxv : x = v
    · rw [hxv, update_self, hstatus] at hx
      cases hx
    · rw [update_of_ne hxv] at hx ⊢
      obtain ⟨hlt, hback, hcost⟩ := h.waiting x hx
      exact ⟨hlt, hback.congr (update_of_ne hxv _ _) hkeep, hcost⟩
  · by_cases hxv : x = v
    · rw [hxv, update_self]
      exact hextra
    · rw [update_of_ne hxv]
      exact h.extra x
  · rw [hfringe]
    exact h.holds

theorem next_none {a : Int} (hv : v ≠ p.startTile)
    (henters : p.enters v = false) : p.next t a v = none := by
  have hlegal : p.legalMove t v = none := by
    unfold legalMove
    rw [henters]
    exact if_neg fun h => h.2.2.2.elim hv nofun
  unfold next
  rw [hlegal, Option.map_none, ite_self]

theorem Ready.visitNeighbor (hp : p.Plain) (hfits : p.PriorityFits)
    (h : p.Ready lattice queue done) (ht : p.Current lattice done t)
    (hstep : p.map.mapstep t d = some v) :
    let search := p.visitNeighbor t (lattice t) (lattice, queue) (v, d)
    p.Ready search.1 search.2 done
      ∧ (∀ u ∈ done, search.1 u = lattice u)
      ∧ fringeOf search.1 = Steps.relax (fun u => decide (u ∈ done))
        (p.next t (lattice t).cost) (fringeOf lattice) v := by
  have hstart := h.linked.start_mem
  unfold PfParameter.visitNeighbor Steps.relax
  dsimp only
  by_cases hprocessed : (lattice v).status = .processed
  · have hv := decide_eq_true ((h.processed v).mp hprocessed)
    rw [if_pos hprocessed, if_pos hv]
    exact ⟨h, fun _ _ => rfl, rfl⟩
  · have hv : v ∉ done := fun hmem =>
      hprocessed ((h.processed v).mpr hmem)
    have hne : v ≠ p.startTile := by
      rintro rfl
      exact hv hstart
    have hidle : p.enters v = false →
        update (fringeOf lattice) v (Steps.relaxed (fringeOf lattice v)
          (p.next t (lattice t).cost v)) = fringeOf lattice := by
      intro henters
      rw [next_none hne henters]
      unfold Steps.relaxed
      exact update_eq_self v _
    have hundone : ¬ decide (v ∈ done) = true := by
      rw [decide_eq_true_eq]
      exact hv
    rw [if_neg hprocessed, if_neg hundone]
    by_cases hfresh : (lattice v).status = .uninit
    · obtain ⟨hready, hkeep, hfringe⟩ := h.inited hne hfresh
      rw [if_pos hfresh, h.fresh v hfresh, hp.initialised_eq hne]
      cases henters : p.enters v with
      | false =>
        rw [if_neg Bool.false_ne_true, hidle henters]
        exact ⟨hready, hkeep, hfringe⟩
      | true =>
        rw [if_pos rfl]
        have hsame : update lattice v (p.place v) t = lattice t :=
          hkeep t ht.mem
        have ht' : p.Current (update lattice v (p.place v)) done t :=
          ⟨ht.mem, hsame ▸ ht.least, hsame ▸ ht.beyond,
            hsame ▸ ht.leaves⟩
        have hinit : (update lattice v (p.place v) v).status ≠ .uninit := by
          rw [update_self, (place_fresh hne).1]
          nofun
        have hreach := hready.reach hp hfits ht' hstep hv hinit henters
        rw [hsame, hfringe] at hreach
        obtain ⟨hready', hkeep', hfringe'⟩ := hreach
        exact ⟨hready', fun u hu => (hkeep' u hu).trans (hkeep u hu),
          hfringe'⟩
    · rw [if_neg hfresh]
      have hbehavior := congrArg PfNormalNode.behavior (h.cached v hfresh)
      have hcached : (lattice v).behavior = (p.place v).behavior :=
        hbehavior
      by_cases hignore : (lattice v).behavior = .ignore
      · rw [if_pos hignore, hidle ((ignore_iff hne).mp (hcached ▸ hignore))]
        exact ⟨h, fun _ _ => rfl, rfl⟩
      · rw [if_neg hignore]
        have henters : p.enters v = true := by
          cases hfalse : p.enters v with
          | true => rfl
          | false =>
            have hplace := (ignore_iff hne).mpr hfalse
            exact absurd (hcached.trans hplace) hignore
        exact h.reach hp hfits ht hstep hv hfresh henters

theorem Current.congr (ht : p.Current lattice done t)
    (hkeep : ∀ u ∈ done, lattice' u = lattice u) :
    p.Current lattice' done t := by
  have hsame := hkeep t ht.mem
  exact ⟨ht.mem, hsame ▸ ht.least, hsame ▸ ht.beyond, hsame ▸ ht.leaves⟩

theorem Ready.visitNeighbors (hp : p.Plain) (hfits : p.PriorityFits)
    {node : PfNormalNode} (l : List (Nat × Direction8)) :
    ∀ (lattice : Nat → PfNormalNode) (queue : PQueue Nat),
      p.Ready lattice queue done → p.Current lattice done t →
        lattice t = node →
          (∀ v d, (v, d) ∈ l → p.map.mapstep t d = some v) →
            let search := l.foldl (p.visitNeighbor t node) (lattice, queue)
            p.Ready search.1 search.2 done
              ∧ (∀ u ∈ done, search.1 u = lattice u)
              ∧ Steps.Passes (fun u => decide (u ∈ done))
                (p.next t node.cost) (fringeOf lattice)
                (fringeOf search.1) (l.map Prod.fst) := by
  induction l with
  | nil => exact fun lattice queue h _ _ _ => ⟨h, fun _ _ => rfl, .nil⟩
  | cons x l ih =>
    obtain ⟨v, d⟩ := x
    rintro lattice queue h ht rfl hsteps
    have hstep := hsteps v d List.mem_cons_self
    obtain ⟨hready, hkeep, hfringe⟩ := h.visitNeighbor hp hfits ht hstep
    rw [List.foldl_cons, List.map_cons]
    obtain ⟨hready', hkeep', hpasses⟩ := ih _ _ hready (ht.congr hkeep)
      (hkeep t ht.mem)
      fun v' d' hmem => hsteps v' d' (List.mem_cons_of_mem _ hmem)
    rw [hfringe] at hpasses
    exact ⟨hready', fun u hu => (hkeep' u hu).trans (hkeep u hu),
      hpasses.cons⟩

-- ==== a round

theorem Ready.settledOf_congr (h : p.Ready lattice queue done)
    {queue' : PQueue Nat} (h' : p.Ready lattice' queue' done)
    (hkeep : ∀ u ∈ done, lattice' u = lattice u) :
    settledOf lattice' = settledOf lattice := by
  funext v
  unfold settledOf
  by_cases hv : v ∈ done
  · rw [hkeep v hv]
  · rw [if_neg fun heq => hv ((h'.processed v).mp heq),
      if_neg fun heq => hv ((h.processed v).mp heq)]

theorem Ready.settledOf_isSome (h : p.Ready lattice queue done) :
    (fun u => (settledOf lattice u).isSome)
      = fun u => decide (u ∈ done) := by
  funext v
  unfold settledOf
  by_cases hv : v ∈ done
  · rw [if_pos ((h.processed v).mpr hv), decide_eq_true hv]
    rfl
  · rw [if_neg fun heq => hv ((h.processed v).mp heq), decide_eq_false hv]
    rfl

theorem Ready.settledOf_mem (h : p.Ready lattice queue done)
    (hv : v ∈ done) : settledOf lattice v = some (lattice v).cost :=
  settledOf_eq_some.mpr ⟨(h.processed v).mpr hv, rfl⟩

end

/-- What holds of a map between two calls. -/
structure Searched (m : PfNormalMap) (done : List Nat) : Prop where
  ready : p.Ready m.lattice m.queue done
  searching : p.legal.Searching p.startTile p.startCost
    (settledOf m.lattice) (fringeOf m.lattice) m.tile
  current : ∀ t, m.tile = some t → t ∈ done
  ended : m.tile = none → ∀ v, fringeOf m.lattice v = none

variable {m : PfNormalMap}

theorem next_of_not_mayLeave {t v : Nat} {node : PfNormalNode}
    (hcached : node.cached = (p.place t).cached)
    (hleave : p.mayLeave node = false) : p.next t node.cost v = none := by
  have hbehavior : (p.place t).behavior = node.behavior :=
    (congrArg PfNormalNode.behavior hcached).symm
  have hscope : (p.place t).moveScope = node.moveScope :=
    (congrArg PfNormalNode.moveScope hcached).symm
  have hnot := of_decide_eq_false hleave
  cases hnext : p.next t node.cost v with
  | none => rfl
  | some b =>
    obtain ⟨hmay, c, hc, -⟩ := p.next_eq_some.mp hnext
    unfold legalMove at hc
    split at hc
    · next hlegal =>
      exact absurd ⟨hbehavior ▸ hlegal.2.1, hscope ▸ hlegal.2.2.1, hmay⟩
        hnot
    · cases hc

theorem next_adjacent {u v : Nat} {a b : Int} (h : p.next u a v = some b) :
    v ∈ (p.map.adjcDir u).map Prod.fst := by
  obtain ⟨-, c, hc, -⟩ := p.next_eq_some.mp h
  unfold legalMove at hc
  split at hc
  · next hlegal =>
    obtain ⟨x, hx, heq⟩ := List.any_eq_true.mp hlegal.1
    exact List.mem_map.mpr ⟨x, hx, of_decide_eq_true heq⟩
  · cases hc

theorem Searched.processTile (hp : p.Plain) (hfits : p.PriorityFits)
    (h : p.Searched m done) {t : Nat} (ht : m.tile = some t) :
    let search := p.processTile m t
    p.Ready search.1 search.2 done
      ∧ (∀ u ∈ done, search.1 u = m.lattice u)
      ∧ p.legal.Searching p.startTile p.startCost (settledOf search.1)
        (fringeOf search.1) none := by
  have hmem := h.current t ht
  have hsettled := h.ready.settledOf_mem hmem
  have hsearching := h.searching
  rw [ht] at hsearching
  unfold PfParameter.processTile
  dsimp only
  cases hleave : p.mayLeave (m.lattice t) with
  | false =>
    have hstatus : (m.lattice t).status ≠ .uninit := by
      rw [(h.ready.processed t).mpr hmem]
      nofun
    have hnone : ∀ v, p.next t (m.lattice t).cost v = none := fun v =>
      next_of_not_mayLeave (h.ready.cached t hstatus) hleave
    rw [if_neg Bool.false_ne_true]
    refine ⟨h.ready, fun _ _ => rfl, ?_⟩
    refine hsearching.pass hsettled hsearching.apart
      (fun v b hv => Or.inl hv) (fun v b hv => ⟨b, hv, Int.le_refl b⟩)
      fun v b _ hnext => ?_
    have hnext : p.next t (m.lattice t).cost v = some b := hnext
    rw [hnone v] at hnext
    cases hnext
  | true =>
    have hcurrent : p.Current m.lattice done t := by
      refine ⟨hmem, hsearching.least t _ hsettled, fun v c hv hc => ?_,
        hleave⟩
      rcases hsearching.beyond hsettled hc with ⟨a, ha, -⟩ | hle
      · exact absurd ((h.ready.processed v).mp (settledOf_eq_some.mp ha).1)
          hv
      · exact hle
    obtain ⟨hready, hkeep, hpasses⟩ := Ready.visitNeighbors hp hfits
      (p.map.adjcDir t) m.lattice m.queue h.ready hcurrent rfl
      fun v d hvd => p.map.mem_adjcDir.mp hvd
    rw [if_pos rfl, h.ready.settledOf_congr hready hkeep]
    rw [← h.ready.settledOf_isSome] at hpasses
    exact ⟨hready, hkeep, hsearching.pass_all hsettled
      (fun v b hnext => next_adjacent hnext) hpasses⟩

theorem Ready.settle {queue queue' : PQueue Nat} {t : Nat}
    (h : p.Ready lattice queue done) (hnew : (lattice t).status = .new)
    (hstart : p.startTile ∈ done)
    (hqueue : queue'.Holds (update (fun v =>
      (fringeOf lattice v).map fun a => -(65536 * a)) t none)) :
    let lattice' :=
      update lattice t { lattice t with status := .processed }
    p.Ready lattice' queue' (t :: done)
      ∧ settledOf lattice'
        = update (settledOf lattice) t (some (lattice t).cost)
      ∧ fringeOf lattice' = update (fringeOf lattice) t none := by
  have hnot : t ∉ done := fun hmem => by
    rw [(h.processed t).mpr hmem] at hnew
    cases hnew
  have hne : ∀ u ∈ done, u ≠ t := by
    rintro u hu rfl
    exact hnot hu
  obtain ⟨hlt, hback, -⟩ := h.waiting t hnew
  generalize hprocessed :
    ({ lattice t with status := .processed } : PfNormalNode) = node
  have hkeep : ∀ u ∈ done, update lattice t node u = lattice u :=
    fun u hu => update_of_ne (hne u hu) _ _
  have hsettled : settledOf (update lattice t node)
      = update (settledOf lattice) t (some (lattice t).cost) := by
    funext v
    unfold settledOf
    by_cases hv : v = t
    · rw [hv, update_self, update_self, ← hprocessed]
      rfl
    · rw [update_of_ne hv, update_of_ne hv]
  have hfringe : fringeOf (update lattice t node)
      = update (fringeOf lattice) t none := by
    funext v
    unfold fringeOf
    by_cases hv : v = t
    · rw [hv, update_self, update_self, ← hprocessed]
      rfl
    · rw [update_of_ne hv, update_of_ne hv]
  -- the new node is the old one but for its status
  have hback' : p.BackInto (update lattice t node) t done := by
    obtain ⟨u, d, hu, hdir, hstep, hnext⟩ := hback
    refine ⟨u, d, hu, ?_, hstep, ?_⟩
    · rw [update_self, ← hprocessed]
      exact hdir
    · rw [hkeep u hu, update_self, ← hprocessed]
      exact hnext
  refine ⟨
    { cached := fun v hv => ?_
      fresh := fun v hv => ?_
      processed := fun v => ?_
      nodup := List.nodup_cons.mpr ⟨hnot, h.nodup⟩
      onMap := fun v hv => ?_
      linked := .cons (fun heq => hnot (heq ▸ hstart)) hback'
        (h.linked.congr hkeep)
      waiting := fun v hv => ?_
      extra := fun v => ?_
      holds := ?_ }, hsettled, hfringe⟩
  · by_cases hvt : v = t
    · rw [hvt, update_self, ← hprocessed]
      exact h.cached t (by rw [hnew]; nofun)
    · rw [update_of_ne hvt] at hv ⊢
      exact h.cached v hv
  · by_cases hvt : v = t
    · rw [hvt, update_self, ← hprocessed] at hv
      cases hv
    · rw [update_of_ne hvt] at hv ⊢
      exact h.fresh v hv
  · by_cases hvt : v = t
    · rw [hvt, update_self, ← hprocessed]
      exact ⟨fun _ => List.mem_cons_self, fun _ => rfl⟩
    · rw [update_of_ne hvt, h.processed v, List.mem_cons]
      exact ⟨Or.inr, fun hv => hv.resolve_left hvt⟩
  · rcases List.mem_cons.mp hv with rfl | hv
    · exact hlt
    · exact h.onMap v hv
  · by_cases hvt : v = t
    · rw [hvt, update_self, ← hprocessed] at hv
      cases hv
    · rw [update_of_ne hvt] at hv ⊢
      obtain ⟨hvlt, hvback, hvcost⟩ := h.waiting v hv
      obtain ⟨u, d, hu, hdir, hstep, hnext⟩ := hvback
      exact ⟨hvlt, ⟨u, d, List.mem_cons_of_mem _ hu,
        by rw [update_of_ne hvt, hdir], hstep,
        by rw [hkeep u hu, update_of_ne hvt, hnext]⟩, hvcost⟩
  · by_cases hvt : v = t
    · rw [hvt, update_self, ← hprocessed]
      exact h.extra t
    · rw [update_of_ne hvt]
      exact h.extra v
  · have hsame : (fun v => (fringeOf (update lattice t node) v).map
          fun a => -(65536 * a))
        = update (fun v => (fringeOf lattice v).map
          fun a => -(65536 * a)) t none := by
      rw [hfringe]
      funext v
      by_cases hvt : v = t
      · rw [hvt, update_self, update_self]
        rfl
      · rw [update_of_ne hvt, update_of_ne hvt]
    rw [hsame]
    exact hqueue

theorem Searched.iterate (hp : p.Plain) (hfits : p.PriorityFits)
    (h : p.Searched m done) :
    let r := p.pfMapIterate m
    (r.2 = true ∧ ∃ t, r.1.tile = some t ∧ t ∉ done
        ∧ p.Searched r.1 (t :: done))
      ∨ (r.2 = false ∧ r.1.tile = none ∧ p.Searched r.1 done) := by
  have hstart := h.ready.linked.start_mem
  unfold pfMapIterate
  cases ht : m.tile with
  | none => exact Or.inr ⟨rfl, ht, h⟩
  | some t =>
    obtain ⟨hready, hkeep, hsearching⟩ := h.processTile hp hfits ht
    dsimp only
    cases hremove : (p.processTile m t).2.remove with
    | none =>
      refine Or.inr ⟨rfl, rfl, hready, hsearching, nofun, fun _ v => ?_⟩
      have hnone := hready.holds.remove_none hremove v
      exact Option.map_eq_none_iff.mp hnone
    | some x =>
      obtain ⟨t', queue⟩ := x
      obtain ⟨⟨q, hq, hmax⟩, hholds⟩ := hready.holds.remove hremove
      obtain ⟨a, ha, rfl⟩ := Option.map_eq_some_iff.mp hq
      obtain ⟨hnew, hcost⟩ := fringeOf_eq_some.mp ha
      have hmin : ∀ v b, fringeOf (p.processTile m t).1 v = some b →
          a ≤ b := by
        intro v b hv
        have hle := hmax v (-(65536 * b)) (by rw [hv]; rfl)
        omega
      obtain ⟨hready', hsettled', hfringe'⟩ := hready.settle hnew hstart
        hholds
      have hsearching' := hsearching.settle ha hmin
      rw [← hcost, ← hsettled', ← hfringe'] at hsearching'
      have hnot : t' ∉ done := (List.nodup_cons.mp hready'.nodup).1
      refine Or.inl ⟨rfl, t', rfl, hnot, hready', hsearching', ?_, nofun⟩
      intro u hu
      cases hu
      exact List.mem_cons_self

end PfParameter

end Freeciv3d.Server
