/-
What the text about a tile tells of the game behind a player's back.

# Two states

`Agree` is the relation of two states of the game that a player cannot
tell apart. The text may differ between them: it is read from the real
tile even where the player's map has none, from any unit that the request
names, and from every unit on the tile.

# Where it tells nothing

`Shown` says, of one state and one request, that all the text is read from
is in the player's sight. Then each block of the text is the same in two
states that agree, block by block, and so is the text.
-/
import Freeciv3d.Server.InfoText

namespace Freeciv3d.Server

-- ==== what the player knows

def World.knowsUnit (w : World) (r : InfoRules) (p : Nat) (u : MapUnit) :
    Bool :=
  u.owner == p || w.seesUnit r p u

structure CityView where
  id : Nat
  owner : Nat
  name : String
  buildings : List Nat
  occupied : Bool

def World.cityView (w : World) (r : InfoRules) (t : Nat) :
    Option CityView :=
  (w.tileCity t).map fun c =>
    { id := c.id
      owner := c.owner
      name := c.name
      buildings := r.visibleImprovements.filter (· ∈ c.buildings)
      occupied := decide (0 < (w.unitsAt t).length) }

/-- Two states agree on everything the player knows: the player's map,
treasury, units and cities, the tiles and units in sight, the diplomatic
states, and what everyone is told of the players. -/
structure Agree (r : InfoRules) (p : Nat) (w w' : World) : Prop where
  playerTiles : w.playerTiles p = w'.playerTiles p
  diplState : w.diplState p = w'.diplState p
  players : w.players = w'.players
  gold : w.gold p = w'.gold p
  units : w.units.filter (w.knowsUnit r p)
    = w'.units.filter (w'.knowsUnit r p)
  ownCities : (w.cities.filter fun c => c.owner == p)
    = w'.cities.filter fun c => c.owner == p
  continent : ∀ t, w.knownAndSeen p t .main →
    (w.tiles t).continent = (w'.tiles t).continent
  terrain : ∀ t, w.knownAndSeen p t .main →
    (w.tiles t).terrain = (w'.tiles t).terrain
  resource : ∀ t, w.knownAndSeen p t .main →
    (w.tiles t).resource = (w'.tiles t).resource
  cityViews : ∀ t, w.knownAndSeen p t .main →
    w.cityView r t = w'.cityView r t

/-- The player sees the tile and knows the extras on it: some are hidden
from who has not the advance to see them. -/
structure InSight (w : World) (p t : Nat) : Prop where
  seen : w.knownAndSeen p t .main
  extras : (w.tiles t).extras = (w.playerTiles p t).extras

/-- All that the text is read from is in the player's sight. Without a
city on the player's map, a named unit is the player's own: the price of
another is reckoned from its owner's treasury and capitals. -/
structure Shown (r : InfoRules) (w : World) (p t : Nat)
    (visibleUnitId focusUnitId : Nat) : Prop where
  inSight : InSight w p t
  workers : ∀ u ∈ w.unitsAt t, u.activity.isTile → w.knowsUnit r p u
  insiders : (w.playerTiles p t).site.isSome →
    w.seesUnitsInCity p (w.tileCity t) →
      ∀ u ∈ w.unitsAt t, w.knowsUnit r p u
  named : (w.playerTiles p t).site = none → visibleUnitId ≠ 0 →
    ∃ u, w.unitByNumber visibleUnitId = some u ∧ u.owner = p
  company : (w.playerTiles p t).site = none → visibleUnitId ≠ 0 →
    ∀ u ∈ w.unitsAt t, w.knowsUnit r p u
  focus : (w.playerTiles p t).site = none → visibleUnitId ≠ 0 →
    focusUnitId ≠ 0 →
      ∃ u, w.unitByNumber focusUnitId = some u ∧ w.knowsUnit r p u

/-- What the effects and the combat code answer about tiles in sight and
known units follows from what the player knows. -/
structure InfoRules.Fair (r : InfoRules) (p : Nat) : Prop where
  tileBonus : ∀ w w' t, Agree r p w w' → InSight w p t → InSight w' p t →
    ∀ effect o, r.tileBonus w effect o t = r.tileBonus w' effect o t
  activityTime : ∀ w w' t, Agree r p w w' → InSight w p t →
    InSight w' p t → ∀ act target,
      r.activityTime w act t target = r.activityTime w' act t target
  playerPenalty : ∀ w w', Agree r p w w' → ∀ o,
    r.playerPenalty w p o = r.playerPenalty w' p o
  chances : ∀ w w', Agree r p w w' → ∀ u v, w.knowsUnit r p u →
    w.knowsUnit r p v →
      r.attChance w u v = r.attChance w' u v
        ∧ r.defChance w u v = r.defChance w' u v
  bribePct : ∀ w w', Agree r p w w' → ∀ u, u.owner = p →
    r.bribePct w u p = r.bribePct w' u p

-- ==== the ground

section

variable {r : InfoRules} {p : Nat} {w w' : World}

theorem Agree.knownAndSeen_eq (h : Agree r p w w') (t : Nat)
    (layer : VisionLayer) :
    w.knownAndSeen p t layer = w'.knownAndSeen p t layer := by
  unfold World.knownAndSeen
  rw [h.playerTiles]

theorem Agree.allied_eq (h : Agree r p w w') (q : Nat) :
    w.allied p q = w'.allied p q := by
  unfold World.allied
  rw [h.diplState]

theorem Agree.tile_eq (h : Agree r p w w') {t : Nat} (k : InSight w p t)
    (k' : InSight w' p t) : w.tiles t = w'.tiles t := by
  have hextras : (w.tiles t).extras = (w'.tiles t).extras := by
    rw [k.extras, k'.extras, h.playerTiles]
  have hcontinent := h.continent t k.seen
  have hterrain := h.terrain t k.seen
  have hresource := h.resource t k.seen
  cases htile : w.tiles t with
  | mk continent terrain resource extras =>
    cases htile' : w'.tiles t with
    | mk continent' terrain' resource' extras' =>
      rw [htile, htile'] at hextras hcontinent hterrain hresource
      cases hextras
      cases hcontinent
      cases hterrain
      cases hresource
      rfl

theorem Agree.cityTileOutput_eq (h : Agree r p w w') (hr : r.Fair p)
    {t : Nat} (k : InSight w p t) (k' : InSight w' p t) (o : Output) :
    cityTileOutput r w t o = cityTileOutput r w' t o := by
  have hbonus := fun effect => hr.tileBonus w w' t h k k' effect o
  unfold cityTileOutput
  simp only [h.tile_eq k k', hbonus]

theorem Agree.outputText_eq (h : Agree r p w w') (hr : r.Fair p)
    {t : Nat} (k : InSight w p t) (k' : InSight w' p t) (o : Output) :
    outputText r w p t o = outputText r w' p t o := by
  unfold outputText
  simp only [h.cityTileOutput_eq hr k k', hr.playerPenalty w w' h]

theorem Agree.groundPieces_eq (h : Agree r p w w') (hr : r.Fair p)
    {t : Nat} (k : InSight w p t) (k' : InSight w' p t) :
    groundPieces r w p t = groundPieces r w' p t := by
  unfold groundPieces
  simp only [h.outputText_eq hr k k', h.tile_eq k k']

theorem Agree.territoryPieces_eq (h : Agree r p w w')
    (plrtile : PlayerTile) :
    territoryPieces r w p plrtile = territoryPieces r w' p plrtile := by
  unfold territoryPieces
  rw [h.players, h.diplState]

-- ==== the units

/-- What the player knows of a list of units is all of it if the player
knows each. -/
theorem filter_knows_of_all {α : Type} {units : List α} {q k : α → Bool}
    (hall : ∀ u ∈ units.filter q, k u) :
    units.filter q = (units.filter k).filter q := by
  rw [List.filter_filter]
  refine List.filter_congr fun u hu => ?_
  by_cases hq : q u = true
  · rw [hq, hall u (List.mem_filter.mpr ⟨hu, hq⟩)]
    rfl
  · rw [Bool.not_eq_true] at hq
    rw [hq]
    rfl

theorem Agree.filter_units_eq (h : Agree r p w w') {q : MapUnit → Bool}
    (hall : ∀ u ∈ w.units.filter q, w.knowsUnit r p u)
    (hall' : ∀ u ∈ w'.units.filter q, w'.knowsUnit r p u) :
    w.units.filter q = w'.units.filter q := by
  rw [filter_knows_of_all hall, h.units, ← filter_knows_of_all hall']

theorem Agree.unitByNumber_eq (h : Agree r p w w') {id : Nat}
    {u u' : MapUnit} (hu : w.unitByNumber id = some u)
    (hu' : w'.unitByNumber id = some u') (hk : w.knowsUnit r p u)
    (hk' : w'.knowsUnit r p u') : u = u' := by
  have hfound : ∀ {v : World} {x : MapUnit},
      v.unitByNumber id = some x → v.knowsUnit r p x →
        (v.units.filter (v.knowsUnit r p)).find? (fun y => y.id == id)
          = some x := by
    intro v x hx hkx
    rw [List.find?_filter]
    obtain ⟨hid, before, after, hsplit, hbefore⟩ :=
      List.find?_eq_some_iff_append.mp hx
    refine List.find?_eq_some_iff_append.mpr
      ⟨by simp only [hkx, hid, decide_true, and_self], before, after,
        hsplit, fun y hy => ?_⟩
    have hne := hbefore y hy
    simp only [Bool.not_eq_true'] at hne
    simp only [hne, Bool.false_eq_true, and_false, decide_false,
      Bool.not_false]
  have hfst := hfound hu hk
  have hsnd := hfound hu' hk'
  rw [h.units, hsnd] at hfst
  exact (Option.some.inj hfst).symm

theorem Agree.seesUnitsInCity_eq (h : Agree r p w w') {t : Nat}
    (hview : w.cityView r t = w'.cityView r t) :
    w.seesUnitsInCity p (w.tileCity t)
      = w'.seesUnitsInCity p (w'.tileCity t) := by
  unfold World.cityView at hview
  cases hc : w.tileCity t with
  | none =>
    rw [hc] at hview
    cases hc' : w'.tileCity t with
    | none => rfl
    | some c' =>
      rw [hc'] at hview
      cases hview
  | some c =>
    rw [hc] at hview
    cases hc' : w'.tileCity t with
    | none =>
      rw [hc'] at hview
      cases hview
    | some c' =>
      rw [hc'] at hview
      have howner : c.owner = c'.owner :=
        congrArg CityView.owner (Option.some.inj hview)
      unfold World.seesUnitsInCity
      dsimp only
      rw [howner, h.allied_eq]

-- ==== the activities

theorem activityTurns_workers (v : World) (t : Nat) (units : List MapUnit)
    {act : UnitActivity} (hact : act.isTile) (target : Option Nat) :
    activityTurns r v t units act target
      = activityTurns r v t (units.filter (·.activity.isTile)) act
          target := by
  have hsame : (units.filter fun u => decide (u.activity = act)
        && (target.isNone || decide (u.activityTarget = target)))
      = (units.filter (·.activity.isTile)).filter fun u =>
          decide (u.activity = act)
            && (target.isNone || decide (u.activityTarget = target)) := by
    rw [List.filter_filter]
    refine List.filter_congr fun u _ => ?_
    by_cases hu : u.activity = act
    · rw [hu, hact, Bool.and_true]
    · rw [decide_eq_false hu]
      rfl
  unfold activityTurns
  rw [hsame]

theorem Agree.activityTurns_eq (h : Agree r p w w') (hr : r.Fair p)
    {t : Nat} (k : InSight w p t) (k' : InSight w' p t)
    (hworkers : ∀ u ∈ w.unitsAt t, u.activity.isTile → w.knowsUnit r p u)
    (hworkers' : ∀ u ∈ w'.unitsAt t, u.activity.isTile →
      w'.knowsUnit r p u)
    {act : UnitActivity} (hact : act.isTile) (target : Option Nat) :
    activityTurns r w t (w.unitsAt t) act target
      = activityTurns r w' t (w'.unitsAt t) act target := by
  have hknown : ∀ {v : World}, (∀ u ∈ v.unitsAt t, u.activity.isTile →
      v.knowsUnit r p u) →
      ∀ u ∈ v.units.filter (fun u => u.activity.isTile && u.tile == t),
        v.knowsUnit r p u := by
    intro v hv u hu
    obtain ⟨hmem, hboth⟩ := List.mem_filter.mp hu
    obtain ⟨htile, hat⟩ := Bool.and_eq_true_iff.mp hboth
    exact hv u (List.mem_filter.mpr ⟨hmem, hat⟩) htile
  have hsame : (w.unitsAt t).filter (·.activity.isTile)
      = (w'.unitsAt t).filter (·.activity.isTile) := by
    unfold World.unitsAt
    rw [List.filter_filter, List.filter_filter]
    exact h.filter_units_eq (hknown hworkers) (hknown hworkers')
  rw [activityTurns_workers w t _ hact, activityTurns_workers w' t _ hact,
    hsame]
  unfold activityTurns
  rw [hr.activityTime w w' t h k k']

theorem Agree.activityPieces_eq (h : Agree r p w w') (hr : r.Fair p)
    {t : Nat} (k : InSight w p t) (k' : InSight w' p t)
    (hworkers : ∀ u ∈ w.unitsAt t, u.activity.isTile → w.knowsUnit r p u)
    (hworkers' : ∀ u ∈ w'.unitsAt t, u.activity.isTile →
      w'.knowsUnit r p u) :
    activityPieces r w t = activityPieces r w' t := by
  have hentries : ∀ act, activityEntries r w t (w.unitsAt t) act
      = activityEntries r w' t (w'.unitsAt t) act := by
    intro act
    unfold activityEntries
    by_cases hact : act.isTile = true
    · simp only [h.activityTurns_eq hr k k' hworkers hworkers' hact]
    · have hbuild : ¬ act.isBuild = true := fun hb => hact (by
        unfold UnitActivity.isTile
        rw [hb]
        rfl)
      have hclean : ¬ act.isClean = true := fun hc => hact (by
        unfold UnitActivity.isTile
        rw [hc, Bool.or_true]
        rfl)
      rw [if_neg hbuild, if_neg hclean, if_neg hact, if_neg hbuild,
        if_neg hclean, if_neg hact]
  unfold activityPieces concatTileActivityText
  simp only [funext hentries]

-- ==== the city

theorem Agree.occupiedText_eq (h : Agree r p w w') {t : Nat}
    (hview : w.cityView r t = w'.cityView r t)
    (hinside : w.seesUnitsInCity p (w.tileCity t) →
      w.unitsAt t = w'.unitsAt t) :
    occupiedText w p t = occupiedText w' p t := by
  have hsees := h.seesUnitsInCity_eq hview
  have houtside : ((w.tileCity t).isSome ∧ (w.unitsAt t).length > 0)
      ↔ ((w'.tileCity t).isSome ∧ (w'.unitsAt t).length > 0) := by
    have hiff : ∀ v : World, ((v.tileCity t).isSome
        ∧ (v.unitsAt t).length > 0)
          ↔ (v.cityView r t).any (·.occupied) = true := by
      intro v
      unfold World.cityView
      cases v.tileCity t with
      | none => exact ⟨fun hv => absurd hv.1 nofun, nofun⟩
      | some c => exact ⟨fun hv => decide_eq_true hv.2,
          fun hv => ⟨rfl, of_decide_eq_true hv⟩⟩
    rw [hiff w, hiff w', hview]
  unfold occupiedText
  by_cases hin : w.seesUnitsInCity p (w.tileCity t) = true
  · have hin' : w'.seesUnitsInCity p (w'.tileCity t) = true := hsees ▸ hin
    rw [if_pos hin, if_pos hin', hinside hin]
  · have hin' : ¬ w'.seesUnitsInCity p (w'.tileCity t) = true :=
      hsees ▸ hin
    rw [if_neg hin, if_neg hin']
    by_cases hout : (w.tileCity t).isSome ∧ (w.unitsAt t).length > 0
    · rw [if_pos hout, if_pos (houtside.mp hout)]
    · rw [if_neg hout, if_neg fun hout' => hout (houtside.mpr hout')]

theorem improvementPieces_cityView (v : World) (t : Nat) :
    improvementPieces r (v.tileCity t)
      = match v.cityView r t with
        | none => if r.visibleImprovements = [] then some [] else none
        | some c =>
          some (if c.buildings.map r.improvementName = [] then []
            else [.line
              s!"   with {r.andList (c.buildings.map r.improvementName)}."])
    := by
  unfold World.cityView
  cases v.tileCity t with
  | none => rfl
  | some c => rfl

theorem Agree.cityPieces_eq (h : Agree r p w w') {t : Nat}
    (hview : w.cityView r t = w'.cityView r t) (visible : Bool)
    (site : Option VisionSite)
    (hinside : site.isSome → w.seesUnitsInCity p (w.tileCity t) →
      w.unitsAt t = w'.unitsAt t) :
    cityPieces r w p t visible site = cityPieces r w' p t visible site := by
  cases site with
  | none => rfl
  | some site =>
    have hline : cityLine w p site = cityLine w' p site := by
      unfold cityLine
      rw [h.players, h.diplState]
    have himprovements : improvementPieces r (w.tileCity t)
        = improvementPieces r (w'.tileCity t) := by
      rw [improvementPieces_cityView, improvementPieces_cityView, hview]
    show (if visible then do
          let improvements ← improvementPieces r (w.tileCity t)
          return .line (cityLine w p site) :: .add (occupiedText w p t)
            :: improvements
        else some [.line (cityLine w p site)])
      = if visible then do
          let improvements ← improvementPieces r (w'.tileCity t)
          return .line (cityLine w' p site) :: .add (occupiedText w' p t)
            :: improvements
        else some [.line (cityLine w' p site)]
    rw [himprovements, hline, h.occupiedText_eq hview (hinside rfl)]

-- ==== the named unit

theorem knowsUnit_of_own {u : MapUnit} (hu : u.owner = p) :
    w.knowsUnit r p u := by
  unfold World.knowsUnit
  rw [hu, beq_self_eq_true]
  rfl

theorem Agree.unitLine_eq (h : Agree r p w w') {u : MapUnit}
    (hu : u.owner = p) : unitLine r w p u = unitLine r w' p u := by
  have hhome : (w.cities.find? fun c => c.owner == p && c.id == u.homecity)
      = w'.cities.find? fun c => c.owner == p && c.id == u.homecity := by
    have hown := congrArg (List.find? fun c => c.id == u.homecity)
      h.ownCities
    rw [List.find?_filter, List.find?_filter] at hown
    simpa only [Bool.decide_and, Bool.decide_eq_true] using hown
  unfold unitLine
  rw [h.players, h.diplState, h.playerTiles, hu, hhome]

theorem Agree.unitBribeCost_eq (h : Agree r p w w') (hr : r.Fair p)
    {u : MapUnit} (hu : u.owner = p) :
    unitBribeCost r w u p = unitBribeCost r w' u p := by
  have hdist : bribeDist r w u = bribeDist r w' u := by
    unfold bribeDist
    rw [hu, h.ownCities]
  unfold unitBribeCost
  rw [hdist, hu, h.gold, hr.bribePct w w' h u hu]

theorem Agree.focusOdds_eq (h : Agree r p w w') (hr : r.Fair p) {t : Nat}
    (hunits : w.unitsAt t = w'.unitsAt t)
    (hcompany : ∀ u ∈ w.unitsAt t, w.knowsUnit r p u) {focus : MapUnit}
    (hfocus : w.knowsUnit r p focus) :
    focusOdds r w t focus = focusOdds r w' t focus := by
  unfold focusOdds
  rw [← hunits]
  cases henemies : (w.unitsAt t).filter fun u => u.owner != focus.owner with
  | nil => rfl
  | cons first rest =>
    have hknown : ∀ u ∈ first :: rest, w.knowsUnit r p u := by
      intro u hu
      rw [← henemies] at hu
      exact hcompany u (List.mem_filter.mp hu).1
    have hchances := fun u hu =>
      hr.chances w w' h focus u hfocus (hknown u hu)
    have hatt : (first :: rest).foldl
          (fun least u => min (r.attChance w focus u) least) fcInfinity
        = (first :: rest).foldl
          (fun least u => min (r.attChance w' focus u) least) fcInfinity :=
      List.foldl_ext _ _ _ fun least u hu => by rw [(hchances u hu).1]
    have hdef : (first :: rest).foldl
          (fun least u => min (r.defChance w focus u) least) fcInfinity
        = (first :: rest).foldl
          (fun least u => min (r.defChance w' focus u) least) fcInfinity :=
      List.foldl_ext _ _ _ fun least u hu => by rw [(hchances u hu).2]
    dsimp only
    rw [hatt, hdef]

theorem Agree.unitPieces_eq (h : Agree r p w w') (hr : r.Fair p) {t : Nat}
    (hunits : w.unitsAt t = w'.unitsAt t)
    (hcompany : ∀ u ∈ w.unitsAt t, w.knowsUnit r p u)
    {focus : Option MapUnit}
    (hfocus : ∀ f, focus = some f → w.knowsUnit r p f) {u : MapUnit}
    (hu : u.owner = p) :
    unitPieces r w p t focus u = unitPieces r w' p t focus u := by
  have hodds : combatOdds r w t focus u = combatOdds r w' t focus u := by
    unfold combatOdds
    cases focus with
    | none => rfl
    | some f =>
      have hf := h.focusOdds_eq hr hunits hcompany (hfocus f rfl)
      simp only [Option.toList_some, List.flatMap_cons, List.flatMap_nil, hf]
  unfold unitPieces
  rw [hunits, h.unitLine_eq hu, h.unitBribeCost_eq hr hu, hodds]

-- ==== the text

/-- The units of the request are the same in both states, where the text
is read from them. -/
theorem Agree.requested_eq (h : Agree r p w w') {t visibleUnitId
    focusUnitId : Nat} (k : Shown r w p t visibleUnitId focusUnitId)
    (k' : Shown r w' p t visibleUnitId focusUnitId)
    (hsite : (w.playerTiles p t).site = none) {u : MapUnit}
    (hu : w.requestedUnit visibleUnitId = some u) :
    u.owner = p ∧ w'.requestedUnit visibleUnitId = some u
      ∧ w'.requestedUnit focusUnitId = w.requestedUnit focusUnitId
      ∧ ∀ f, w.requestedUnit focusUnitId = some f →
        w.knowsUnit r p f := by
  have hsite' : (w'.playerTiles p t).site = none := by
    rw [← h.playerTiles]
    exact hsite
  have hnamed : visibleUnitId ≠ 0 := by
    rintro rfl
    cases hu
  have hrequest : ∀ {v : World} {id : Nat}, id ≠ 0 →
      v.requestedUnit id = v.unitByNumber id := fun hid => if_neg hid
  rw [hrequest hnamed] at hu
  obtain ⟨x, hx, hown⟩ := k.named hsite hnamed
  obtain ⟨x', hx', hown'⟩ := k'.named hsite' hnamed
  have hsame : x = x' := h.unitByNumber_eq hx hx' (knowsUnit_of_own hown)
    (knowsUnit_of_own hown')
  subst hsame
  rw [hx] at hu
  cases hu
  refine ⟨hown, by rw [hrequest hnamed, hx'], ?_⟩
  by_cases hfocus : focusUnitId = 0
  · rw [hfocus]
    exact ⟨rfl, nofun⟩
  · obtain ⟨f, hf, hk⟩ := k.focus hsite hnamed hfocus
    obtain ⟨f', hf', hk'⟩ := k'.focus hsite' hnamed hfocus
    have hsamef : f = f' := h.unitByNumber_eq hf hf' hk hk'
    rw [hrequest hfocus, hrequest hfocus, hf, hf', hsamef]
    refine ⟨rfl, fun g hg => ?_⟩
    cases hg
    rw [← hsamef]
    exact hk

theorem Agree.namedPieces_eq (h : Agree r p w w') (hr : r.Fair p)
    {t visibleUnitId focusUnitId : Nat}
    (k : Shown r w p t visibleUnitId focusUnitId)
    (k' : Shown r w' p t visibleUnitId focusUnitId) (visible : Bool) :
    namedPieces r w p t visible (w.requestedUnit visibleUnitId)
        (w.requestedUnit focusUnitId) (w.playerTiles p t).site
      = namedPieces r w' p t visible (w'.requestedUnit visibleUnitId)
        (w'.requestedUnit focusUnitId) (w.playerTiles p t).site := by
  cases hsite : (w.playerTiles p t).site with
  | some site => rfl
  | none =>
    by_cases hid : visibleUnitId = 0
    · rw [hid]
      rfl
    · obtain ⟨u, hu, -⟩ := k.named hsite hid
      have hu : w.requestedUnit visibleUnitId = some u := by
        unfold World.requestedUnit
        rw [if_neg hid, hu]
      obtain ⟨hown, hu', hsame, hfocus⟩ := h.requested_eq k k' hsite hu
      have hcompany := k.company hsite hid
      have hunits : w.unitsAt t = w'.unitsAt t :=
        h.filter_units_eq hcompany
          (k'.company (h.playerTiles ▸ hsite) hid)
      rw [hu, hu', hsame]
      unfold namedPieces
      dsimp only
      rw [h.unitPieces_eq hr hunits hcompany hfocus hown]

/-- In two states that agree, a text read from what is in sight is the
same. -/
theorem Agree.webPopupInfoText_eq (h : Agree r p w w') (hr : r.Fair p)
    {t visibleUnitId focusUnitId : Nat}
    (k : Shown r w p t visibleUnitId focusUnitId)
    (k' : Shown r w' p t visibleUnitId focusUnitId) :
    webPopupInfoText r w p t (w.requestedUnit visibleUnitId)
        (w.requestedUnit focusUnitId)
      = webPopupInfoText r w' p t (w'.requestedUnit visibleUnitId)
        (w'.requestedUnit focusUnitId) := by
  have hview := h.cityViews t k.inSight.seen
  have hinside : (w.playerTiles p t).site.isSome →
      w.seesUnitsInCity p (w.tileCity t) →
        w.unitsAt t = w'.unitsAt t := by
    intro hsite hsees
    have hsees' : w'.seesUnitsInCity p (w'.tileCity t) := by
      rw [← h.seesUnitsInCity_eq hview]
      exact hsees
    exact h.filter_units_eq (k.insiders hsite hsees)
      (k'.insiders (h.playerTiles ▸ hsite) hsees')
  unfold webPopupInfoText
  dsimp only
  rw [← h.playerTiles, ← h.knownAndSeen_eq,
    h.groundPieces_eq hr k.inSight k'.inSight, h.territoryPieces_eq,
    h.cityPieces_eq hview _ _ hinside,
    h.activityPieces_eq hr k.inSight k'.inSight k.workers k'.workers,
    h.namedPieces_eq hr k k']

end

/-- The text is the same in any two states that agree on what the player
knows, if all it is read from is in the player's sight. -/
theorem info_text_hides (r : InfoRules) (p : Nat) (loc : Int)
    (visibleUnitId focusUnitId : Nat) (w w' : World) (h : Agree r p w w')
    (hr : r.Fair p)
    (hshown : ∀ t, r.indexToTile loc = some t →
      Shown r w p t visibleUnitId focusUnitId
        ∧ Shown r w' p t visibleUnitId focusUnitId) :
    handleWebInfoTextReq r w p loc visibleUnitId focusUnitId
      = handleWebInfoTextReq r w' p loc visibleUnitId focusUnitId := by
  unfold handleWebInfoTextReq
  cases ht : r.indexToTile loc with
  | none => rfl
  | some t =>
    obtain ⟨k, k'⟩ := hshown t ht
    exact h.webPopupInfoText_eq hr k k'

-- ==== an island and the sea

/-- Two terrains, grassland and ocean; one unit type, warriors; no effect
of any kind. -/
def islandRules : InfoRules where
  mapIndexSize := 2
  mapPos t := (t, 0)
  nativePos t := (t, 0)
  mapDistance s t := ((s : Int) - t).natAbs
  borders := true
  baseBribeCost := 750
  terrain k :=
    { output := fun
        | .food => if k = 0 then 2 else 1
        | .shield => 0
        | .trade => if k = 0 then 0 else 2
      miningShieldIncr := 0
      irrigationFoodIncr := 0
      roadOutputIncrPct := fun _ => 0 }
  resourceOutput _ _ := 0
  roads := []
  huts := []
  extras := []
  rmExtras _ := []
  causedBy _ _ := false
  extraName _ := ""
  unitType _ :=
    { name := "Warriors"
      attackStrength := 1
      defenseStrength := 1
      firepower := 1
      hp := 10
      moveRate := 3
      vlayer := .main
      hidingExtras := []
      veteran := fun _ =>
        { name := some "green", powerFact := 100, moveBonus := 0 } }
  visibleImprovements := []
  improvementName _ := ""
  tileInfoText tile := if tile.terrain = 0 then "Grassland" else "Ocean"
  infrastructureText _ := ""
  andList _ := ""
  breakLines text := text
  activityName _ := ""
  activityRate _ := 10
  activityTime _ _ _ _ := 0
  tileBonus _ _ _ _ := 0
  playerPenalty _ _ _ := 0
  attChance _ _ _ := 50
  defChance _ _ _ := 50
  bribePct _ _ _ := 0
  shieldCost cost _ := cost
  healthCost cost u := (cost * (10 + u.hp)).tdiv 20

/-- Player 0 and a unit of theirs are on tile 0, which is all they know;
player 1 and a unit of theirs are on tile 1, of a given terrain. -/
def island (terrain : Nat) : World where
  tiles t :=
    { continent := 1
      terrain := if t = 0 then 0 else terrain
      resource := none
      extras := fun _ => false }
  playerTiles p t :=
    { known := p == t
      seenCount := fun _ => if p = t then 1 else 0
      extras := fun _ => false
      owner := none
      site := none }
  units := [7, 9].map fun id =>
    { id := id
      type := 0
      owner := if id = 7 then 0 else 1
      tile := if id = 7 then 0 else 1
      homecity := 0
      veteran := 0
      hp := 10
      activity := .idle
      activityTarget := none
      activityCount := 0
      movesLeft := 3
      transported := false }
  cities := []
  players p :=
    { username := if p = 0 then "ann" else "bob"
      name := "Caesar"
      ai := false
      nationAdjective := "Roman"
      team := none }
  gold _ := 50
  diplState _ _ := { type := .war, turnsLeft := 0 }

theorem island_agree (terrain terrain' : Nat) :
    Agree islandRules 0 (island terrain) (island terrain') where
  playerTiles := rfl
  diplState := rfl
  players := rfl
  gold := rfl
  units := rfl
  ownCities := rfl
  continent _ _ := rfl
  terrain t h := by
    cases t with
    | zero => rfl
    | succ t => cases h
  resource _ _ := rfl
  cityViews _ _ := rfl

theorem islandRules_fair : islandRules.Fair 0 where
  tileBonus _ _ _ _ _ _ _ _ := rfl
  activityTime _ _ _ _ _ _ _ _ := rfl
  playerPenalty _ _ _ _ := rfl
  chances _ _ _ _ _ _ _ := ⟨rfl, rfl⟩
  bribePct _ _ _ _ _ := rfl

theorem island_shown (terrain : Nat) :
    Shown islandRules (island terrain) 0 0 7 7 where
  inSight := ⟨rfl, rfl⟩
  workers u hu htile := by
    obtain ⟨hmem, hat⟩ := List.mem_filter.mp hu
    rcases List.mem_cons.mp hmem with rfl | hmem
    · rfl
    · cases List.mem_singleton.mp hmem
      cases hat
  insiders h := nomatch h
  named _ _ := ⟨_, rfl, rfl⟩
  company _ _ u hu := by
    obtain ⟨hmem, hat⟩ := List.mem_filter.mp hu
    rcases List.mem_cons.mp hmem with rfl | hmem
    · rfl
    · cases List.mem_singleton.mp hmem
      cases hat
  focus _ _ _ := ⟨_, rfl, rfl⟩

/-- Asking about their own tile and unit, player 0 learns nothing of the
other tile. -/
theorem island_text_hides :
    Agree islandRules 0 (island 0) (island 1)
      ∧ handleWebInfoTextReq islandRules (island 0) 0 0 7 7
        = handleWebInfoTextReq islandRules (island 1) 0 0 7 7 :=
  ⟨island_agree 0 1,
    info_text_hides islandRules 0 0 7 7 (island 0) (island 1)
      (island_agree 0 1) islandRules_fair fun t ht => by
        cases ht
        exact ⟨island_shown 0, island_shown 1⟩⟩

/-- Asking about the other tile, which they do not know, player 0 is told
its terrain. -/
theorem info_text_not_hides :
    ¬ ∀ (r : InfoRules) (p : Nat) (loc : Int)
      (visibleUnitId focusUnitId : Nat) (w w' : World), Agree r p w w' →
        handleWebInfoTextReq r w p loc visibleUnitId focusUnitId
          = handleWebInfoTextReq r w' p loc visibleUnitId focusUnitId := by
  intro hall
  have hsame := hall islandRules 0 1 0 0 (island 0) (island 1)
    (island_agree 0 1)
  revert hsame
  decide +kernel

end Freeciv3d.Server
