/-
Normal path-finding maps answer with paths of least cost, as long as no
combined cost leaves its `int`.

# The questions

Each is answered within as many rounds as the map has tiles, and leaves a
map behind that can be asked again. The walk back from a tile follows the
list of processed tiles to its end, which is the start.

# The visits

`Visits` is what is left to visit, from any map on: it holds at the end of
the search, and one more visit keeps it.
-/
import Freeciv3d.Server.Proofs.PathSearch

namespace Freeciv3d.Server

open Lib Function

namespace PfParameter

variable {p : PfParameter} {m : PfNormalMap} {done : List Nat}
  {lattice : Nat → PfNormalNode}

-- ==== a question

theorem Ready.length_le {queue : PQueue Nat}
    (h : p.Ready lattice queue done) :
    done.length ≤ p.map.mapIndexSize := by
  have hsub : done.Subperm (List.range p.map.mapIndexSize) :=
    List.subperm_of_subset h.nodup fun v hv =>
      List.mem_range.mpr (h.onMap v hv)
  have hle := hsub.length_le
  rw [List.length_range] at hle
  exact hle

theorem Ready.mem_of_full {queue : PQueue Nat}
    (h : p.Ready lattice queue done)
    (hfull : p.map.mapIndexSize ≤ done.length) {t : Nat}
    (ht : t < p.map.mapIndexSize) : t ∈ done := by
  have hsub : done.Subperm (List.range p.map.mapIndexSize) :=
    List.subperm_of_subset h.nodup fun v hv =>
      List.mem_range.mpr (h.onMap v hv)
  have hperm := hsub.perm_of_length_le
    (by rw [List.length_range]; exact hfull)
  exact hperm.mem_iff.mpr (List.mem_range.mpr ht)

/-- What a question may leave behind: a map that still holds what is
needed, and says rightly whether the tile was reached. -/
structure Found (m : PfNormalMap) (t : Nat) (found : Bool) : Prop where
  searched : ∃ done, p.Searched m done
  processed : found = true → (m.lattice t).status = .processed
  unreachable : found = false → ∀ a, ¬ p.Leads t a

/-- A tile is found or can not be reached, in no more rounds than the map
has tiles left. -/
theorem Searched.iterateLoop (hp : p.Plain) (hfits : p.PriorityFits)
    {t : Nat} (ht : t < p.map.mapIndexSize) (rounds : Nat) :
    ∀ (m : PfNormalMap) (done : List Nat), p.Searched m done →
      p.map.mapIndexSize ≤ rounds + done.length →
        ∃ m' found, p.iterateLoop t rounds m = some (m', found)
          ∧ p.Found m' t found := by
  induction rounds with
  | zero =>
    intro m done h hrounds
    have hmem := h.ready.mem_of_full (by omega) ht
    have hprocessed := (h.ready.processed t).mpr hmem
    unfold PfParameter.iterateLoop
    rw [if_pos hprocessed]
    exact ⟨m, true, rfl, ⟨done, h⟩, fun _ => hprocessed, nofun⟩
  | succ rounds ih =>
    intro m done h hrounds
    unfold PfParameter.iterateLoop
    by_cases hprocessed : (m.lattice t).status = .processed
    · rw [if_pos hprocessed]
      exact ⟨m, true, rfl, ⟨done, h⟩, fun _ => hprocessed, nofun⟩
    · have hnot : t ∉ done :=
        fun hmem => hprocessed ((h.ready.processed t).mpr hmem)
      have hiterate := h.iterate hp hfits
      rw [if_neg hprocessed]
      cases hresult : p.pfMapIterate m with
      | mk m' more =>
        rw [hresult] at hiterate
        rcases hiterate with ⟨hmore, t', -, -, h'⟩ | ⟨hmore, hended, h'⟩
        · have hmore : more = true := hmore
          subst hmore
          refine ih m' (t' :: done) h' ?_
          rw [List.length_cons]
          omega
        · have hmore : more = false := hmore
          subst hmore
          refine ⟨m', false, rfl, ⟨done, h'⟩, nofun, fun _ a ha => ?_⟩
          have hsearching := h'.searching
          have hended : m'.tile = none := hended
          rw [hended] at hsearching
          obtain ⟨b, hb⟩ := hsearching.settled_of_leads (h'.ended hended)
            ha
          exact hnot ((h'.ready.processed t).mp
            (settledOf_eq_some.mp hb).1)

theorem not_leads {t : Nat} (ht : t ≠ p.startTile)
    (henters : p.enters t = false) (a : Int) : ¬ p.Leads t a := by
  intro h
  cases h with
  | start => exact ht rfl
  | step before next =>
    have next : p.next _ _ t = some a := next
    rw [next_none ht henters] at next
    cases next

theorem Searched.iterateUntil (hp : p.Plain) (hfits : p.PriorityFits)
    (h : p.Searched m done) {t : Nat} (ht : t < p.map.mapIndexSize)
    (hne : t ≠ p.startTile) :
    ∃ m' found, p.pfNormalMapIterateUntil m t = some (m', found)
      ∧ p.Found m' t found := by
  unfold pfNormalMapIterateUntil
  dsimp only
  by_cases hfresh : (m.lattice t).status = .uninit
  · obtain ⟨hready, hkeep, hfringe⟩ := h.ready.inited hne hfresh
    have h' : p.Searched
        { m with lattice := update m.lattice t (p.place t) } done :=
      { ready := hready
        searching := by
          have hsearching := h.searching
          rw [← h.ready.settledOf_congr hready hkeep, ← hfringe]
            at hsearching
          exact hsearching
        current := h.current
        ended := fun hended v => by
          rw [hfringe]
          exact h.ended hended v }
    rw [if_pos hfresh, h.ready.fresh t hfresh, hp.initialised_eq hne]
    cases henters : p.enters t with
    | true =>
      rw [if_pos rfl]
      exact Searched.iterateLoop hp hfits ht _ _ done h'
        (Nat.le_add_right _ _)
    | false =>
      rw [if_neg Bool.false_ne_true]
      exact ⟨_, false, rfl, ⟨done, h'⟩, nofun,
        fun _ => not_leads hne henters⟩
  · rw [if_neg hfresh]
    by_cases hignore : (m.lattice t).behavior = .ignore
    · rw [if_pos hignore]
      have hbehavior := congrArg PfNormalNode.behavior
        (h.ready.cached t hfresh)
      have hcached : (m.lattice t).behavior = (p.place t).behavior :=
        hbehavior
      have henters := (ignore_iff hne).mp (hcached ▸ hignore)
      exact ⟨m, false, rfl, ⟨done, h⟩, nofun,
        fun _ => not_leads hne henters⟩
    · rw [if_neg hignore]
      exact Searched.iterateLoop hp hfits ht _ m done h
        (Nat.le_add_right _ _)

-- ==== the path

/-- A total as a position counts it, from the start on. -/
def Counted (x : PfPosition) : Prop :=
  ∃ a, p.Least x.tile a ∧ (x.totalMC : Int) = a - p.startCost

/-- Two positions after each other: the step between the tiles is legal,
in the direction that both record. -/
def Follows (x y : PfPosition) : Prop :=
  ∃ d, x.dirToNextPos = some d ∧ y.dirToHere = some d
    ∧ p.map.mapstep x.tile d = some y.tile
    ∧ (p.legalMove x.tile y.tile).isSome

theorem Linked.backInto (h : p.Linked lattice done) {v : Nat}
    (hv : v ∈ done) (hne : v ≠ p.startTile) :
    p.BackInto lattice v done := by
  induction h with
  | start => exact absurd (List.mem_singleton.mp hv) hne
  | cons ne back before ih =>
    have hback : p.BackInto lattice v _ :=
      (List.mem_cons.mp hv).elim (fun heq => heq ▸ back) ih
    obtain ⟨u, d, hu, hrest⟩ := hback
    exact ⟨u, d, List.mem_cons_of_mem _ hu, hrest⟩

/-- A processed tile's total is the least, and starts from that of the
start; but for the start it has room in a priority. -/
theorem Searched.cost (hfits : p.PriorityFits) (h : p.Searched m done)
    {t : Nat} (ht : t ∈ done) :
    p.Least t (m.lattice t).cost ∧ ((m.lattice t).cost = p.startCost
      ∨ (m.lattice t).cost < 32768) := by
  have hleast : ∀ u ∈ done, p.Least u (m.lattice u).cost := fun u hu =>
    h.searching.least u _ (h.ready.settledOf_mem hu)
  refine ⟨hleast t ht, ?_⟩
  by_cases hstart : t = p.startTile
  · rw [hstart] at ht ⊢
    exact Or.inl (Steps.Least.unique _ _ _ (hleast _ ht) least_start)
  · obtain ⟨u, d, hu, -, -, hnext⟩ := h.ready.linked.backInto ht hstart
    refine Or.inr (hfits u _ (hleast u hu) t _ hnext hstart
      fun c hc => ?_).2
    exact Int.le_trans (p.legal.grow hnext) ((hleast t ht).2 c hc)

theorem int32_int32_add (x y : Int) : int32 (int32 x + y)
    = int32 (x + y) := by
  unfold int32
  exact Int.bmod_add_bmod

theorem uint32_int32 {n : Int} (h₁ : 0 ≤ n) (h₂ : n < 4294967296) :
    (uint32 (int32 n) : Int) = n := by
  have hmod : int32 n % 4294967296 = n % 4294967296 := Int.bmod_emod
  show ((int32 n % 4294967296).toNat : Int) = n
  rw [hmod, Int.emod_eq_of_lt h₁ h₂, Int.toNat_of_nonneg h₁]

theorem Searched.counted (hp : p.Plain) (hfits : p.PriorityFits)
    (h : p.Searched m done) {t : Nat} (ht : t ∈ done)
    (d : Option Direction8) : p.Counted (p.fillPosition m t d) := by
  obtain ⟨hleast, hcost⟩ := h.cost hfits ht
  have hle := startCost_le hleast.1
  have hrate := hp.rateFits
  have hinit := hp.initialFits
  refine ⟨(m.lattice t).cost, hleast, ?_⟩
  show (uint32 (p.totalMC (m.lattice t)) : Int) = _
  unfold totalMC
  unfold startCost at hcost hle ⊢
  rw [hp.pfMoveRate_eq, hp.pfMovesLeftInitially_eq, int32_int32_add,
    uint32_int32 (by omega) (by omega)]
  omega

/-- The walk back from a processed tile comes to the start, along legal
steps. -/
theorem Linked.constructPath (h : p.Linked m.lattice done) :
    (∀ v ∈ done, v < p.map.mapIndexSize) →
      ∀ t ∈ done, ∀ (steps : Nat) (dirNext : Option Direction8)
        (positions : List PfPosition), done.length ≤ steps →
          (p.fillPosition m t dirNext :: positions).IsChain p.Follows →
            ∃ path, p.constructPath m steps t dirNext positions = some path
              ∧ (∃ front, path
                = front ++ p.fillPosition m t dirNext :: positions)
              ∧ path.IsChain p.Follows
              ∧ path.head?.map PfPosition.tile = some p.startTile
              ∧ ∀ x ∈ path, x ∈ positions
                ∨ ∃ u ∈ done, ∃ d, x = p.fillPosition m u d := by
  induction h with
  | start =>
    intro _ t ht steps dirNext positions hsteps hchain
    obtain ⟨steps, rfl⟩ : ∃ n, steps = n + 1 :=
      ⟨steps - 1, by rw [List.length_singleton] at hsteps; omega⟩
    have ht := List.mem_singleton.mp ht
    unfold PfParameter.constructPath
    rw [if_pos ht]
    refine ⟨_, rfl, ⟨[], rfl⟩, hchain, ?_, fun x hx => ?_⟩
    · rw [ht]
      rfl
    · rcases List.mem_cons.mp hx with rfl | hx
      · exact Or.inr ⟨t, List.mem_singleton.mpr ht, dirNext, rfl⟩
      · exact Or.inl hx
  | @cons v rest ne back before ih =>
    intro hmap t ht steps dirNext positions hsteps hchain
    have hmap' := fun u hu => hmap u (List.mem_cons_of_mem v hu)
    rw [List.length_cons] at hsteps
    rcases List.mem_cons.mp ht with rfl | ht
    · obtain ⟨u, d, hu, hdir, hstep, hnext⟩ := back
      obtain ⟨steps, rfl⟩ : ∃ n, steps = n + 1 := ⟨steps - 1, by omega⟩
      obtain ⟨-, c, hc, -⟩ := p.next_eq_some.mp hnext
      have hfollows : p.Follows (p.fillPosition m u (some d))
          (p.fillPosition m t dirNext) :=
        ⟨d, rfl, hdir, hstep, by
          show (p.legalMove u t).isSome = true
          rw [hc]
          rfl⟩
      obtain ⟨path, hpath, ⟨front, hfront⟩, hchain', hhead, hall⟩ :=
        ih hmap' u hu steps (some d)
          (p.fillPosition m t dirNext :: positions) (by omega)
          (List.isChain_cons_cons.mpr ⟨hfollows, hchain⟩)
      unfold PfParameter.constructPath
      rw [if_neg ne, hdir]
      dsimp only
      rw [p.map.mapstep_reverse (hmap' u hu) hstep]
      refine ⟨path, hpath, ⟨front ++ [p.fillPosition m u (some d)], ?_⟩,
        hchain', hhead, fun x hx => ?_⟩
      · rw [hfront, List.append_assoc]
        rfl
      · rcases hall x hx with hmem | ⟨w, hw, d', rfl⟩
        · rcases List.mem_cons.mp hmem with rfl | hmem
          · exact Or.inr ⟨t, ht, dirNext, rfl⟩
          · exact Or.inl hmem
        · exact Or.inr ⟨w, List.mem_cons_of_mem _ hw, d', rfl⟩
    · obtain ⟨path, hpath, hfront, hchain', hhead, hall⟩ :=
        ih hmap' t ht steps dirNext positions (by omega) hchain
      exact ⟨path, hpath, hfront, hchain', hhead, fun x hx =>
        (hall x hx).imp id fun ⟨w, hw, hrest⟩ =>
          ⟨w, List.mem_cons_of_mem _ hw, hrest⟩⟩

/-- A path of least cost to a tile. -/
structure BestPath (t : Nat) (path : List PfPosition) : Prop where
  first : path.head?.map PfPosition.tile = some p.startTile
  last : path.getLast?.map PfPosition.tile = some t
  counted : ∀ x ∈ path, p.Counted x
  follows : path.IsChain p.Follows

theorem bestPath_start : p.BestPath p.startTile [p.fillStartTile] where
  first := rfl
  last := rfl
  counted x hx := by
    rw [List.mem_singleton.mp hx]
    exact ⟨p.startCost, least_start, (Int.sub_self _).symm⟩
  follows := List.IsChain.singleton _

theorem Searched.constructPath (hp : p.Plain) (hfits : p.PriorityFits)
    (h : p.Searched m done) {t : Nat} (ht : t ∈ done) :
    ∃ path, p.constructPath m p.map.mapIndexSize t none [] = some path
      ∧ p.BestPath t path := by
  obtain ⟨path, hpath, ⟨front, hfront⟩, hchain, hhead, hall⟩ :=
    h.ready.linked.constructPath h.ready.onMap t ht p.map.mapIndexSize none
      [] h.ready.length_le (List.IsChain.singleton _)
  refine ⟨path, hpath, hhead, ?_, fun x hx => ?_, hchain⟩
  · rw [hfront, List.getLast?_append]
    rfl
  · rcases hall x hx with hmem | ⟨u, hu, d, rfl⟩
    · cases hmem
    · exact h.counted hp hfits hu d

theorem Searched.pfMapPath (hp : p.Plain) (hfits : p.PriorityFits)
    (h : p.Searched m done) {t : Nat} (ht : t < p.map.mapIndexSize) :
    ∃ m' answer, p.pfMapPath m t = some (m', answer)
      ∧ (∃ done', p.Searched m' done')
      ∧ (answer.isSome ↔ ∃ a, p.Leads t a)
      ∧ ∀ path, answer = some path → p.BestPath t path := by
  unfold PfParameter.pfMapPath
  by_cases hstart : t = p.startTile
  · rw [if_pos hstart, hstart]
    refine ⟨m, _, rfl, ⟨done, h⟩,
      ⟨fun _ => ⟨p.startCost, .start⟩, fun _ => rfl⟩, fun path heq => ?_⟩
    rw [← Option.some.inj heq]
    exact bestPath_start
  · obtain ⟨m', found, huntil, ⟨done', h'⟩, hprocessed, hnot⟩ :=
      h.iterateUntil hp hfits ht hstart
    rw [if_neg hstart, huntil]
    cases found with
    | false => exact ⟨m', none, rfl, ⟨done', h'⟩,
        ⟨nofun, fun ⟨a, ha⟩ => absurd ha (hnot rfl a)⟩, nofun⟩
    | true =>
      have hmem := (h'.ready.processed t).mp (hprocessed rfl)
      obtain ⟨path, hpath, hbest⟩ := h'.constructPath hp hfits hmem
      dsimp only
      rw [hpath]
      refine ⟨m', some path, rfl, ⟨done', h'⟩,
        ⟨fun _ => ⟨_, (h'.cost hfits hmem).1.1⟩, fun _ => rfl⟩,
        fun path' heq => ?_⟩
      rw [← Option.some.inj heq]
      exact hbest

variable (p)

def AboutMap : PfQuery → Prop
  | .path t | .moveCost t | .position t => t < p.map.mapIndexSize
  | .iterate => True

variable {p}

theorem Searched.ask (hp : p.Plain) (hfits : p.PriorityFits)
    (h : p.Searched m done) (q : PfQuery) (hq : p.AboutMap q) :
    ∃ m' a, p.ask m q = some (m', a) ∧ ∃ done', p.Searched m' done' := by
  cases q with
  | path t =>
    obtain ⟨m', answer, hpath, h', -⟩ := h.pfMapPath hp hfits hq
    refine ⟨m', .path answer, ?_, h'⟩
    show (p.pfMapPath m t).map _ = _
    rw [hpath]
    rfl
  | moveCost t =>
    show ∃ m' a, (p.pfMapMoveCost m t).map _ = _ ∧ _
    unfold pfMapMoveCost
    by_cases hstart : t = p.startTile
    · rw [if_pos hstart]
      exact ⟨m, _, rfl, done, h⟩
    · obtain ⟨m', found, huntil, hfound⟩ :=
        h.iterateUntil hp hfits hq hstart
      rw [if_neg hstart, huntil]
      cases found with
      | false | true => exact ⟨m', _, rfl, hfound.searched⟩
  | position t =>
    show ∃ m' a, (p.pfMapPosition m t).map _ = _ ∧ _
    unfold pfMapPosition
    by_cases hstart : t = p.startTile
    · rw [if_pos hstart]
      exact ⟨m, _, rfl, done, h⟩
    · obtain ⟨m', found, huntil, hfound⟩ :=
        h.iterateUntil hp hfits hq hstart
      rw [if_neg hstart, huntil]
      cases found with
      | false | true => exact ⟨m', _, rfl, hfound.searched⟩
  | iterate =>
    refine ⟨_, _, rfl, ?_⟩
    rcases h.iterate hp hfits with ⟨-, t, -, -, h'⟩ | ⟨-, -, h'⟩
    · exact ⟨t :: done, h'⟩
    · exact ⟨done, h'⟩

theorem Searched.askAll (hp : p.Plain) (hfits : p.PriorityFits)
    (qs : List PfQuery) : ∀ (m : PfNormalMap) (done : List Nat),
      p.Searched m done → (∀ q ∈ qs, p.AboutMap q) →
        ∃ m' done', p.askAll m qs = some m' ∧ p.Searched m' done' := by
  induction qs with
  | nil => exact fun m done h _ => ⟨m, done, rfl, h⟩
  | cons q qs ih =>
    intro m done h hqs
    obtain ⟨m', a, hask, done', h'⟩ :=
      h.ask hp hfits q (hqs q List.mem_cons_self)
    unfold PfParameter.askAll
    rw [hask]
    exact ih m' done' h' fun q' hq' => hqs q' (List.mem_cons_of_mem _ hq')

theorem Plain.searched_new (hp : p.Plain) :
    p.Searched p.pfNormalMapNew [p.startTile] := by
  have hlattice : p.pfNormalMapNew.lattice
      = update (fun _ => .zero) p.startTile p.startNode := rfl
  have hnode : p.pfNormalMapNew.lattice p.startTile = p.startNode := by
    rw [hlattice, update_self]
  have hne : ∀ v, v ≠ p.startTile →
      p.pfNormalMapNew.lattice v = .zero := by
    intro v hv
    rw [hlattice, update_of_ne hv]
  have hstatus : ∀ v, (p.pfNormalMapNew.lattice v).status
      = if v = p.startTile then .processed else .uninit := by
    intro v
    by_cases hv : v = p.startTile
    · rw [hv, hnode, if_pos rfl]
      exact startNode_status
    · rw [hne v hv, if_neg hv]
      rfl
  have hfringe : fringeOf p.pfNormalMapNew.lattice = fun _ => none := by
    funext v
    unfold fringeOf
    rw [hstatus]
    by_cases hv : v = p.startTile
    · rw [if_pos hv]
      rfl
    · rw [if_neg hv]
      rfl
  have hsettled : settledOf p.pfNormalMapNew.lattice
      = update (fun _ => none) p.startTile (some p.startCost) := by
    funext v
    unfold settledOf
    rw [hstatus]
    by_cases hv : v = p.startTile
    · rw [if_pos hv, if_pos rfl, hv, hnode, hp.startNode_cost, update_self]
    · rw [if_neg hv, update_of_ne hv]
      rfl
  refine ⟨
    { cached := fun v hv => ?_
      fresh := fun v hv => ?_
      processed := fun v => ?_
      nodup := List.nodup_singleton _
      onMap := fun v hv => ?_
      linked := .start
      waiting := fun v hv => ?_
      extra := fun v => ?_
      holds := ?_ }, ?_, ?_, nofun⟩
  · rw [hstatus] at hv
    by_cases hvs : v = p.startTile
    · rw [hvs, hnode]
      unfold place
      rw [if_pos rfl]
    · rw [if_neg hvs] at hv
      exact absurd rfl hv
  · rw [hstatus] at hv
    by_cases hvs : v = p.startTile
    · rw [if_pos hvs] at hv
      cases hv
    · exact hne v hvs
  · rw [hstatus, List.mem_singleton]
    by_cases hvs : v = p.startTile
    · rw [if_pos hvs]
      exact ⟨fun _ => hvs, fun _ => rfl⟩
    · rw [if_neg hvs]
      exact ⟨nofun, fun h => absurd h hvs⟩
  · rw [List.mem_singleton.mp hv]
    exact hp.start
  · rw [hstatus] at hv
    split at hv
    · cases hv
    · cases hv
  · by_cases hvs : v = p.startTile
    · rw [hvs, hnode]
      rfl
    · rw [hne v hvs]
      rfl
  · rw [hfringe]
    exact PQueue.holds_empty _
  · rw [hsettled, hfringe]
    exact Steps.Searching.init
  · intro t ht
    rw [← Option.some.inj ht]
    exact List.mem_cons_self

-- ==== visits

theorem Plain.leads_lt (hp : p.Plain) {t : Nat} {a : Int}
    (h : p.Leads t a) : t < p.map.mapIndexSize := by
  cases h with
  | start => exact hp.start
  | step before next =>
    obtain ⟨⟨v, d⟩, hmem, rfl⟩ := List.mem_map.mp (next_adjacent next)
    exact p.map.mapstep_lt (p.map.mem_adjcDir.mp hmem)

/-- What a call after the other visits: what is left of what can be
reached, once, and farther and farther away. -/
structure Visits (done : List Nat) (visits : List PfPosition) : Prop where
  nodup : (visits.map PfPosition.tile).Nodup
  fresh : ∀ x ∈ visits, x.tile ∉ done
  counted : ∀ x ∈ visits, p.Counted x
  farther : ∀ x ∈ visits, ∀ u ∈ done, ∀ a, p.Least u a →
    a - p.startCost ≤ x.totalMC
  sorted : visits.Pairwise fun x y => x.totalMC ≤ y.totalMC
  all : ∀ t a, p.Leads t a → t ∈ done ∨ t ∈ visits.map PfPosition.tile

theorem Visits.empty {done : List Nat}
    (hall : ∀ t a, p.Leads t a → t ∈ done) : p.Visits done [] where
  nodup := List.nodup_nil
  fresh _ hx := absurd hx List.not_mem_nil
  counted _ hx := absurd hx List.not_mem_nil
  farther _ hx := absurd hx List.not_mem_nil
  sorted := .nil
  all t a ht := Or.inl (hall t a ht)

theorem Searched.visits (hp : p.Plain) (hfits : p.PriorityFits)
    (calls : Nat) : ∀ (m : PfNormalMap) (done : List Nat),
      p.Searched m done → p.map.mapIndexSize ≤ calls + done.length →
        p.Visits done (p.pfMapVisits calls m) := by
  induction calls with
  | zero =>
    intro m done h hcalls
    exact .empty fun t a ht =>
      h.ready.mem_of_full (by omega) (hp.leads_lt ht)
  | succ calls ih =>
    intro m done h hcalls
    have hiterate := h.iterate hp hfits
    unfold pfMapVisits
    cases hresult : p.pfMapIterate m with
    | mk m' more =>
      rw [hresult] at hiterate
      rcases hiterate with ⟨hmore, t, htile, hnot, h'⟩ | ⟨hmore, hend, h'⟩
      · have hmore : more = true := hmore
        subst hmore
        have htile : m'.tile = some t := htile
        have h' : p.Searched m' (t :: done) := h'
        dsimp only
        rw [htile]
        have hrest := ih m' (t :: done) h' (by
          rw [List.length_cons]
          omega)
        have hmem : t ∈ t :: done := List.mem_cons_self
        have hcounted := h'.counted hp hfits hmem none
        have hgreatest := h'.searching.greatest t _ htile
          (h'.ready.settledOf_mem hmem)
        have hleast := (h'.cost hfits hmem).1
        -- the position counts what the node says
        have htotal : ((p.fillPosition m' t none).totalMC : Int)
            = (m'.lattice t).cost - p.startCost := by
          obtain ⟨a, ha, heq⟩ := hcounted
          rw [heq, Steps.Least.unique _ _ _ ha hleast]
        refine
          { nodup := ?_
            fresh := fun x hx hdone => ?_
            counted := fun x hx => ?_
            farther := fun x hx u hu a ha => ?_
            sorted := List.pairwise_cons.mpr
              ⟨fun y hy => ?_, hrest.sorted⟩
            all := fun v a hv => ?_ }
        · rw [List.map_cons]
          refine List.nodup_cons.mpr ⟨fun hin => ?_, hrest.nodup⟩
          obtain ⟨y, hy, heq⟩ := List.mem_map.mp hin
          exact hrest.fresh y hy (heq ▸ hmem)
        · rcases List.mem_cons.mp hx with rfl | hx
          · exact hnot hdone
          · exact hrest.fresh x hx (List.mem_cons_of_mem _ hdone)
        · rcases List.mem_cons.mp hx with rfl | hx
          · exact hcounted
          · exact hrest.counted x hx
        · rcases List.mem_cons.mp hx with rfl | hx
          · have hu' := List.mem_cons_of_mem t hu
            have hle := hgreatest u _ (h'.ready.settledOf_mem hu')
            rw [Steps.Least.unique _ _ _ ha (h'.cost hfits hu').1, htotal]
            omega
          · exact hrest.farther x hx u (List.mem_cons_of_mem _ hu) a ha
        · have hle := hrest.farther y hy t hmem _ hleast
          omega
        · rw [List.map_cons, List.mem_cons]
          rcases hrest.all v a hv with hin | hin
          · rcases List.mem_cons.mp hin with rfl | hin
            · exact Or.inr (Or.inl rfl)
            · exact Or.inl hin
          · exact Or.inr (Or.inr hin)
      · have hmore : more = false := hmore
        have hend : m'.tile = none := hend
        subst hmore
        have hsearching := h'.searching
        rw [hend] at hsearching
        refine .empty fun t a ht => ?_
        obtain ⟨b, hb⟩ := hsearching.settled_of_leads (h'.ended hend) ht
        exact (h'.ready.processed t).mp (settledOf_eq_some.mp hb).1

-- ==== the claim

/-- Whatever a map was asked before, a path is found where there is one,
of the least cost, and the tiles not visited yet are visited in the order
of their costs; as long as the priorities fit. -/
theorem pf_paths_are_optimal (p : PfParameter) (hp : p.Plain)
    (hfits : p.PriorityFits) (qs : List PfQuery)
    (hqs : ∀ q ∈ qs, p.AboutMap q) :
    ∃ m, p.askAll p.pfNormalMapNew qs = some m
      ∧ (∀ t < p.map.mapIndexSize, ∃ m' answer,
        p.pfMapPath m t = some (m', answer)
          ∧ (answer.isSome ↔ ∃ a, p.Leads t a)
          ∧ ∀ path, answer = some path → p.BestPath t path)
      ∧ ∀ calls, p.map.mapIndexSize ≤ calls →
        let visits := p.pfMapVisits calls m
        (visits.map PfPosition.tile).Nodup
          ∧ (visits.Pairwise fun x y => x.totalMC ≤ y.totalMC)
          ∧ (∀ x ∈ visits, p.Counted x)
          ∧ ∀ t, (∃ a, p.Leads t a)
            ↔ ((m.lattice t).status = .processed
              ∨ t ∈ visits.map PfPosition.tile)
            ∧ ¬ ((m.lattice t).status = .processed
              ∧ t ∈ visits.map PfPosition.tile) := by
  obtain ⟨m, done, hask, h⟩ := Searched.askAll hp hfits qs _ _
    hp.searched_new hqs
  refine ⟨m, hask, fun t ht => ?_, fun calls hcalls => ?_⟩
  · obtain ⟨m', answer, hpath, -, hanswer⟩ := h.pfMapPath hp hfits ht
    exact ⟨m', answer, hpath, hanswer⟩
  · have hvisits := Searched.visits hp hfits calls m done h (by omega)
    refine ⟨hvisits.nodup, hvisits.sorted, hvisits.counted, fun t => ?_⟩
    rw [h.ready.processed t]
    constructor
    · rintro ⟨a, ha⟩
      refine ⟨hvisits.all t a ha, fun ⟨hdone, hin⟩ => ?_⟩
      obtain ⟨x, hx, rfl⟩ := List.mem_map.mp hin
      exact hvisits.fresh x hx hdone
    · rintro ⟨hdone | hin, -⟩
      · exact ⟨_, (h.cost hfits hdone).1.1⟩
      · obtain ⟨x, hx, rfl⟩ := List.mem_map.mp hin
        obtain ⟨a, ha, -⟩ := hvisits.counted x hx
        exact ⟨a, ha.1⟩

end PfParameter

def flatMap (xsize ysize : Nat) (hx : 0 < xsize) (hy : 0 < ysize) :
    CivMap where
  xsize := xsize
  ysize := ysize
  iso := false
  hex := false
  wrapX := false
  wrapY := false
  xsize_pos := hx
  ysize_pos := hy
  even := nofun

/-- A unit with all its moves left on open land that is known, where the
moves cost what is given. -/
def openLand (map : CivMap) (moveRate : Nat) (getMC : Nat → Nat → Int) :
    PfParameter where
  map := map
  startTile := 0
  movesLeftInitially := moveRate
  fuelLeftInitially := 1
  moveRate := moveRate
  fuel := 1
  transported := false
  cannotDisembark := false
  omniscience := true
  getKnown _ := .knownSeen
  getTB := none
  canInvade _ := true
  getAction := none
  isActionPossible := none
  getMoveScope _ _ := (.onlyNative, true)
  ignoreNoneScopes := true
  getZoc := none
  hasCity _ := false
  noZocTerrain _ := false
  hasUnits _ := false
  attackTakesAll := false
  singleMove := 3
  unknownMoveCost := 1
  getMC t _ t' _ := getMC t t'
  getEC := none

def twoTiles : PfParameter :=
  openLand (flatMap 2 1 Nat.two_pos Nat.one_pos) 3 fun _ _ => 1

theorem twoTiles_plain : twoTiles.Plain :=
  ⟨rfl, rfl, by decide, by decide, by decide, rfl, fun _ _ _ => rfl⟩

theorem twoTiles_fits : twoTiles.PriorityFits := by
  intro u a ha v b hnext _ _
  have hu : u < 2 := twoTiles_plain.leads_lt ha.1
  have hone : twoTiles.Leads 1 1 :=
    .step (.start : twoTiles.legal.Leads 0 0 0 0)
      (rfl : twoTiles.next 0 0 1 = some 1)
  have hle : a ≤ 1 := by
    by_cases hzero : u = 0
    · subst hzero
      have hstart : twoTiles.Leads 0 0 := .start
      exact Int.le_trans (ha.2 0 hstart) (by decide)
    · have hu1 : u = 1 := by omega
      exact ha.2 1 (hu1 ▸ hone)
  have hgrow : a ≤ b := twoTiles.legal.grow hnext
  have hnonneg : 0 ≤ a := PfParameter.startCost_le ha.1
  obtain ⟨-, c, -, rfl⟩ := twoTiles.next_eq_some.mp hnext
  have hleft : twoTiles.movesLeft a ≤ 3 := by
    have hcases : a = 0 ∨ a = 1 := by omega
    rcases hcases with rfl | rfl
    · decide
    · decide
  omega

theorem twoTiles_paths_are_optimal :
    ∃ m, twoTiles.askAll twoTiles.pfNormalMapNew [.iterate, .path 1]
        = some m
      ∧ (∀ t < twoTiles.map.mapIndexSize, ∃ m' answer,
        twoTiles.pfMapPath m t = some (m', answer)
          ∧ (answer.isSome ↔ ∃ a, twoTiles.Leads t a)
          ∧ ∀ path, answer = some path → twoTiles.BestPath t path)
      ∧ ∀ calls, twoTiles.map.mapIndexSize ≤ calls →
        let visits := twoTiles.pfMapVisits calls m
        (visits.map PfPosition.tile).Nodup
          ∧ (visits.Pairwise fun x y => x.totalMC ≤ y.totalMC)
          ∧ (∀ x ∈ visits, twoTiles.Counted x)
          ∧ ∀ t, (∃ a, twoTiles.Leads t a)
            ↔ ((m.lattice t).status = .processed
              ∨ t ∈ visits.map PfPosition.tile)
            ∧ ¬ ((m.lattice t).status = .processed
              ∧ t ∈ visits.map PfPosition.tile) := by
  refine PfParameter.pf_paths_are_optimal twoTiles twoTiles_plain
    twoTiles_fits _ fun q hq => ?_
  rcases List.mem_cons.mp hq with rfl | hq
  · trivial
  · rw [List.mem_singleton.mp hq]
    show 1 < 2
    decide

/-- A dear move to the east, and cheap ones around it. -/
def wayAround : PfParameter :=
  openLand (flatMap 16 16 (by decide) (by decide)) 40000 fun t t' =>
    if t = 0 ∧ t' = 1 then 33000
    else if t = 0 ∧ t' = 16 then 100
    else if t = 16 ∧ t' = 1 then 10
    else -1

/-- The path found costs 33000, where another would cost 110. -/
theorem wayAround_missed :
    wayAround.Plain
      ∧ (wayAround.pfMapPath wayAround.pfNormalMapNew 1).map
        (fun x => x.2.map fun path => path.map fun y => (y.tile, y.totalMC))
        = some (some [(0, 0), (1, 33000)])
      ∧ wayAround.startCost = 0 ∧ wayAround.Leads 1 110 := by
  refine ⟨⟨rfl, rfl, by decide, by decide, by decide, rfl,
    fun _ _ _ => rfl⟩, by decide +kernel, by decide, ?_⟩
  have hsouth : wayAround.legal.next 0 0 16 = some 100 := by
    decide +kernel
  have hback : wayAround.legal.next 16 100 1 = some 110 := by
    decide +kernel
  have hstart : wayAround.Leads 0 0 := .start
  exact .step (.step hstart hsouth) hback

end Freeciv3d.Server
