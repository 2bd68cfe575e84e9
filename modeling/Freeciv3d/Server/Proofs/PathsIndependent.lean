/-
What a unit's map answers does not depend on what it was asked before, as
long as it is not asked about cities that are reached through other cities
only.

# Scopes

An initialised node has the scope that the callback gives, or one that
has nothing to do with cities. The callback lets a unit into a city after
another city without a look around, so scopes follow chains of cities.
-/
import Freeciv3d.Server.PathTools
import Freeciv3d.Server.Proofs.PathAnswers

namespace Freeciv3d.Server

namespace PfParameter

variable {p : PfParameter}

-- ==== a node's scope

section

variable (node : PfNormalNode) (t : Nat)

/-- The parts of an initialisation that leave the scope alone. -/
def SameScope (node node' : PfNormalNode) : Prop :=
  node'.moveScope = node.moveScope

theorem sameScope_forbid : Inits (SameScope node) (SameScope node)
    (p.forbid node t) := by
  unfold forbid
  split
  · exact rfl
  · split
    · exact rfl
    · exact rfl

theorem sameScope_behavior : Inits (SameScope node) (SameScope node)
    (p.initBehavior node t) := by
  unfold initBehavior
  cases p.getTB with
  | none => exact rfl
  | some getTB =>
    dsimp only
    split
    · exact rfl
    · exact rfl

theorem sameScope_invade : Inits (SameScope node) (SameScope node)
    (p.initInvade node t) := by
  unfold initInvade
  split
  · exact rfl
  · exact sameScope_forbid node t

theorem sameScope_action : Inits (SameScope node) (SameScope node)
    (p.initAction node t) := by
  unfold initAction
  cases p.getAction with
  | none => exact rfl
  | some getAction =>
    dsimp only
    cases getAction t node.nodeKnownType with
    | none => exact (sameScope_forbid node t).bind fun n hn => hn
    | some action =>
      cases action with
      | _ => exact rfl

theorem sameScope_zoc : SameScope node (p.initZoc node t) := by
  unfold initZoc
  cases p.getZoc with
  | none => rfl
  | some getZoc =>
    dsimp only
    split
    · rfl
    · rfl

theorem sameScope_extra : SameScope node (p.initExtra node t) := by
  unfold initExtra
  cases p.getEC with
  | none => rfl
  | some getEC => rfl

theorem moveScope_initScope (s : MoveScope) :
    Inits (fun n => n.moveScope = (p.getMoveScope t s).1)
      (fun n => n.moveScope = (p.getMoveScope t s).1)
      (p.initScope node t s) := by
  unfold initScope
  cases p.getMoveScope t s with
  | mk scope canDisembark =>
    dsimp only
    split
    · have h := sameScope_forbid (p := p)
        { node with moveScope := scope } t
      cases hforbid : p.forbid { node with moveScope := scope } t with
      | ok n | error n =>
        rw [hforbid] at h
        exact h
    · split
      · exact rfl
      · exact rfl

end

/-- The scope of an initialised node: none, what an unknown tile gets, or
that of the callback. -/
def ScopeOf (p : PfParameter) (t : Nat) (s : MoveScope)
    (node : PfNormalNode) : Prop :=
  node.moveScope = .none ∨ node.moveScope = .onlyNative
    ∨ node.moveScope = (p.getMoveScope t s).1

theorem Inits.mono {good bad good' bad' : PfNormalNode → Prop}
    {x : Except PfNormalNode PfNormalNode} (h : Inits good bad x)
    (hgood : ∀ n, good n → good' n) (hbad : ∀ n, bad n → bad' n) :
    Inits good' bad' x := by
  cases x with
  | ok n => exact hgood n h
  | error n => exact hbad n h

theorem scopeOf_init (t : Nat) (s : MoveScope) :
    ScopeOf p t s (initialised (p.pfNormalNodeInit .zero t s)).1 := by
  have hnone : ∀ {n n' : PfNormalNode}, n.moveScope = .none →
      SameScope n n' → n'.moveScope = .none :=
    fun hn hsame => Eq.trans hsame hn
  have hinits : Inits (ScopeOf p t s) (ScopeOf p t s)
      (p.pfNormalNodeInit .zero t s) := by
    unfold pfNormalNodeInit
    refine Inits.bind (Inits.mono (sameScope_behavior _ t)
      (fun n hn => hnone rfl hn) fun n hn => Or.inl (hnone rfl hn))
      fun n hn => ?_
    have hknown : Inits (ScopeOf p t s) (ScopeOf p t s)
        (p.initKnown n t s) := by
      unfold initKnown
      split
      · exact Or.inr (Or.inl rfl)
      · refine Inits.bind (Inits.mono (sameScope_invade n t)
          (fun _ h => hnone hn h) fun _ h => Or.inl (hnone hn h))
          fun n₁ h₁ => ?_
        refine Inits.bind (Inits.mono (sameScope_action n₁ t)
          (fun _ h => hnone h₁ h) fun _ h => Or.inl (hnone h₁ h))
          fun n₂ h₂ => ?_
        refine Inits.bind (Inits.mono (moveScope_initScope n₂ t s)
          (fun _ h => h) fun _ h => Or.inr (Or.inr h)) fun n₃ h₃ => ?_
        exact Or.inr (Or.inr ((sameScope_zoc n₃ t).trans h₃))
    refine hknown.bind fun n' hn' => ?_
    have hsame := sameScope_extra (p := p) n' t
    exact hn'.imp hsame.trans (Or.imp hsame.trans hsame.trans)
  cases hinit : p.pfNormalNodeInit .zero t s with
  | ok n | error n =>
    rw [hinit] at hinits
    exact hinits

theorem startNode_city : p.startNode.moveScope.city
    = (initialised
      (p.pfNormalNodeInit .zero p.startTile .none)).1.moveScope.city := by
  cases h : p.transported with
  | true => simp only [startNode, h, if_true]
  | false => simp only [startNode, h, Bool.false_eq_true, if_false]

end PfParameter

-- ==== a unit's scopes

namespace PfGame

variable (g : PfGame)

/-- A city that the class can reach, or that a chain of cities leads to
from such a one. -/
inductive CityWay (w : PfMover) : Nat → Prop where
  | here {t : Nat} (admits : g.cityAdmits w t = true)
      (reached : g.cityReached w t = true) : CityWay w t
  | next {u t : Nat} {d : Direction8} (before : CityWay w u)
      (step : g.map.mapstep u d = some t)
      (admits : g.cityAdmits w t = true) : CityWay w t

/-- No city that admits the unit is on the tile, or no chain leads to it,
or it is reached by itself. -/
def SelfReached (w : PfMover) (t : Nat) : Prop :=
  g.cityAdmits w t = true → g.CityWay w t → g.cityReached w t = true

variable {g} {w : PfMover} {t : Nat}

theorem transportScope_city (l : List TransportUnit) :
    ∀ scope : MoveScope, scope.city = false →
      (g.transportScope w t l scope).1.city = false := by
  induction l with
  | nil => exact fun scope h => h
  | cons u us ih =>
    intro scope h
    unfold transportScope
    dsimp only
    split
    · exact ih scope h
    · split
      · rfl
      · split
        · exact ih scope h
        · split
          · rfl
          · exact ih .onlyTransport rfl

theorem pfGetMoveScope_city {s : MoveScope}
    (h : (g.pfGetMoveScope w t s).1.city = true) :
    g.cityAdmits w t = true
      ∧ (s.city = true ∨ g.cityReached w t = true) := by
  unfold pfGetMoveScope at h
  dsimp only at h
  split at h
  · obtain ⟨hadmits, hor⟩ := (Bool.and_eq_true _ _).mp h
    exact ⟨hadmits, (Bool.or_eq_true _ _).mp hor⟩
  · rw [transportScope_city _ _ rfl] at h
    cases h

theorem pfGetMoveScope_eq {s : MoveScope}
    (h : g.cityAdmits w t = true → s.city = true →
      g.cityReached w t = true) :
    g.pfGetMoveScope w t s = g.pfGetMoveScope w t .none := by
  have hcity : (g.cityAdmits w t && (s.city || g.cityReached w t))
      = (g.cityAdmits w t
        && (MoveScope.none.city || g.cityReached w t)) := by
    cases hadmits : g.cityAdmits w t with
    | false => rfl
    | true =>
      cases hs : s.city with
      | false => rfl
      | true =>
        rw [h hadmits hs]
        rfl
  unfold pfGetMoveScope
  rw [hcity]

variable {punit : PfUnit}

theorem cityWay_of_scopes {s : MoveScope}
    (h : (g.pftFillUnitParameter punit).Scopes t s) (hs : s.city = true) :
    g.CityWay punit.mover t := by
  have hinit : ∀ (v : Nat) (s₀ s₁ : MoveScope),
      (s₀.city = true → (∃ u d, g.map.mapstep u d = some v
        ∧ g.CityWay punit.mover u)) →
      s₁ = (PfParameter.initialised
        ((g.pftFillUnitParameter punit).pfNormalNodeInit .zero v s₀)
        ).1.moveScope → s₁.city = true → g.CityWay punit.mover v := by
    intro v s₀ s₁ hbefore heq hcity
    rw [heq] at hcity
    rcases PfParameter.scopeOf_init v s₀ with hnone | hnative | hscope
    · rw [hnone] at hcity
      cases hcity
    · rw [hnative] at hcity
      cases hcity
    · rw [hscope] at hcity
      obtain ⟨hadmits, hprev | hreached⟩ := pfGetMoveScope_city hcity
      · obtain ⟨u, d, hstep, hway⟩ := hbefore hprev
        exact .next hway hstep hadmits
      · exact .here hadmits hreached
  induction h with
  | start =>
    rw [PfParameter.startNode_city] at hs
    exact hinit _ .none _ nofun rfl hs
  | step before next ih =>
    exact hinit _ _ _ (fun hprev => ⟨_, _, next, ih hprev⟩) rfl hs

theorem SelfReached.steady (h : g.SelfReached punit.mover t) :
    (g.pftFillUnitParameter punit).Steady t := by
  intro u d s hscopes hstep
  refine PfParameter.init_congr (pfGetMoveScope_eq fun hadmits hs => ?_) _
  exact h hadmits (.next (cityWay_of_scopes hscopes hs) hstep hadmits)

variable (g)

/-- The question is about a tile of the map that is reached by itself. -/
def AboutSelfReached (w : PfMover) : PfParameter.PfQuery → Prop
  | .path t | .moveCost t | .position t =>
    t < g.map.mapIndexSize ∧ g.SelfReached w t
  | .iterate => True

end PfGame

-- ==== the claim

/-- A unit's map answers as a new one does, whatever it was asked before,
as long as cities reached through others only are not asked about. -/
theorem pf_answers_are_independent (g : PfGame) (punit : PfUnit)
    (hstart : punit.tile < g.map.mapIndexSize)
    (qs : List PfParameter.PfQuery)
    (hqs : ∀ q ∈ qs, g.AboutSelfReached punit.mover q)
    (q : PfParameter.PfQuery)
    (hq : g.AboutSelfReached punit.mover q) (hne : q ≠ .iterate) :
    let p := g.pftFillUnitParameter punit
    ∃ m a, p.askAll p.pfNormalMapNew qs = some m
      ∧ (p.ask m q).map Prod.snd = some a
      ∧ (p.ask p.pfNormalMapNew q).map Prod.snd = some a := by
  have hsteady : ∀ q, g.AboutSelfReached punit.mover q →
      (g.pftFillUnitParameter punit).AboutSteady q := by
    intro q hq
    cases q with
    | path t | moveCost t | position t => exact ⟨hq.1, hq.2.steady⟩
    | iterate => trivial
  exact PfParameter.answers_independent hstart
    (fun q' hq' => hsteady q' (hqs q' hq')) (hsteady q hq) hne

def ship : UnitType where
  index := 0
  uclass := 0
  igter := false
  civilian := true
  coastStrict := false
  unknownMoveCost := 3
  canTakeOver := false
  attackTakesAll := false
  ignoresZoc := true
  transports _ := false
  embarks _ := false
  disembarks _ := false

def shipAtSea : PfUnit where
  mover :=
    { utype := ship
      owner := 0
      cargoDepth := 0
      cargoTypes := [] }
  tile := 0
  movesLeft := 9
  moveRate := 9
  transported := false
  cannotDisembark := false
  getAction := none
  isActionPossible := none

/-- The sea, a port, a city behind it, land, and another sea, in a row;
cities are not to be founded next to each other. -/
def portAndCity : PfGame where
  map :=
    { xsize := 5
      ysize := 1
      iso := false
      hex := false
      wrapX := false
      wrapY := false
      xsize_pos := by decide
      ysize_pos := by decide
      even := nofun }
  getKnown _ _ := .knownSeen
  canInvadeTile _ _ := true
  cityOwner t := if t = 1 ∨ t = 2 then some 0 else none
  allied _ _ := true
  citymindist := 2
  buildAnywhere _ := false
  isNativeTile _ t := t = 0 ∨ t = 4
  isSafeOcean _ := true
  isNativeMove _ _ _ := true
  isCityChannelTile _ _ := false
  tileHasNativeBase _ _ := false
  units _ := []
  noZocTerrain _ := false
  isMyZoc _ _ := true
  mapMoveCost _ _ _ _ _ := 3
  singleMove := 3

theorem port_answers_are_independent :
    let p := portAndCity.pftFillUnitParameter shipAtSea
    ∃ m a, p.askAll p.pfNormalMapNew [.moveCost 4, .iterate] = some m
      ∧ (p.ask m (.path 1)).map Prod.snd = some a
      ∧ (p.ask p.pfNormalMapNew (.path 1)).map Prod.snd = some a := by
  refine pf_answers_are_independent portAndCity shipAtSea (by decide) _
    (fun q hq => ?_) (.path 1) ⟨by decide, fun _ _ => by decide⟩ nofun
  rcases List.mem_cons.mp hq with rfl | hq
  · exact ⟨by decide, nofun⟩
  · rw [List.mem_singleton.mp hq]
    trivial

/-- After a question about the other sea the city can be reached, through the
port; asked about at once, it cannot. -/
theorem city_answer_depends :
    let p := portAndCity.pftFillUnitParameter shipAtSea
    ((p.askAll p.pfNormalMapNew [.moveCost 4]).bind fun m =>
        (p.ask m (.moveCost 2)).map Prod.snd) = some (.moveCost 6)
      ∧ (p.ask p.pfNormalMapNew (.moveCost 2)).map Prod.snd
        = some (.moveCost (-1)) := by
  decide +kernel

end Freeciv3d.Server
