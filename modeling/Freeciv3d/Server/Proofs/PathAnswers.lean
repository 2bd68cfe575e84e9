/-
Answers of a normal path-finding map are those of one finished search, as
long as the tiles asked about can be initialised as well from nowhere as
from a neighbor.

# One search

A question does two things to a map: it initialises its tile, and it goes
on with the search. `Early` says that a map is one of the search alone but
for tiles initialised early, and is kept by every step of the search. A
processed tile's node is never changed again, so each answer is that of
the finished search.

# Scopes

A scope arises at a tile from that of a neighbor, from the start on. A
tile is `Steady` if all scopes that arise next to it initialise it as none
does.
-/
import Freeciv3d.Server.Proofs.PathSearch

namespace Freeciv3d.Server

open Lib Function

namespace PfParameter

variable (p : PfParameter)

def reachNode (t : Nat) (node : PfNormalNode) (v : Nat) (d : Direction8)
    (node₁ : PfNormalNode) (queue : PQueue Nat) :
    PfNormalNode × PQueue Nat :=
  let search := p.reach t node (fun _ => node₁, queue) v d
  (search.1 v, search.2)

def visitNode (t : Nat) (node : PfNormalNode) (v : Nat) (d : Direction8)
    (node₁ : PfNormalNode) (queue : PQueue Nat) :
    PfNormalNode × PQueue Nat :=
  if node₁.status = .processed then (node₁, queue)
  else if node₁.status = .uninit then
    let (inited, entered) := initialised
      (p.pfNormalNodeInit node₁ v node.moveScope)
    if entered then p.reachNode t node v d inited queue
    else (inited, queue)
  else if node₁.behavior = .ignore then (node₁, queue)
  else p.reachNode t node v d node₁ queue

variable {p}

section

variable (t : Nat) (node : PfNormalNode) (v : Nat) (d : Direction8)
  (lattice : Nat → PfNormalNode) (queue : PQueue Nat)

theorem reach_eq :
    p.reach t node (lattice, queue) v d
      = (update lattice v (p.reachNode t node v d (lattice v) queue).1,
        (p.reachNode t node v d (lattice v) queue).2) := by
  unfold reachNode PfParameter.reach
  dsimp only
  cases p.moveCost t node v (lattice v) with
  | none =>
    rw [update_eq_self]
  | some cost =>
    dsimp only
    generalize int32 (adjustCost cost _ + node.cost) = c
    generalize (if p.getEC.isSome = true then _ else 0 : Nat) = e
    by_cases hfirst : (lattice v).status = .init
    · rw [if_pos hfirst, if_pos hfirst]
      dsimp only
      rw [update_self]
    · rw [if_neg hfirst, if_neg hfirst]
      by_cases hbetter : p.pfTotalCC c e
          < p.pfTotalCC (lattice v).cost (lattice v).extraCost
      · rw [if_pos hbetter, if_pos hbetter]
        dsimp only
        rw [update_self]
      · rw [if_neg hbetter, if_neg hbetter, update_eq_self]

theorem visitNeighbor_eq :
    p.visitNeighbor t node (lattice, queue) (v, d)
      = (update lattice v (p.visitNode t node v d (lattice v) queue).1,
        (p.visitNode t node v d (lattice v) queue).2) := by
  unfold visitNode visitNeighbor
  dsimp only
  by_cases hprocessed : (lattice v).status = .processed
  · rw [if_pos hprocessed, if_pos hprocessed, update_eq_self]
  · rw [if_neg hprocessed, if_neg hprocessed]
    by_cases hfresh : (lattice v).status = .uninit
    · rw [if_pos hfresh, if_pos hfresh]
      cases initialised (p.pfNormalNodeInit (lattice v) v
        node.moveScope) with
      | mk inited entered =>
        cases entered with
        | false => rfl
        | true =>
          rw [if_pos rfl, if_pos rfl, reach_eq, update_self, update_idem]
    · rw [if_neg hfresh, if_neg hfresh]
      by_cases hignore : (lattice v).behavior = .ignore
      · rw [if_pos hignore, if_pos hignore, update_eq_self]
      · rw [if_neg hignore, if_neg hignore, reach_eq]

end

/-- A node recorded as reached in a direction, from what it was before. -/
structure RecordedFrom (base : PfNormalNode) (d : Direction8)
    (node : PfNormalNode) : Prop where
  status : node.status = .new
  dirToHere : node.dirToHere = some d
  cached : node.cached = base.cached

theorem reachNode_cases {t : Nat} {node : PfNormalNode} {v : Nat}
    {d : Direction8} {node₁ : PfNormalNode} {queue : PQueue Nat}
    {r : PfNormalNode × PQueue Nat}
    (h : p.reachNode t node v d node₁ queue = r) :
    r = (node₁, queue) ∨ (RecordedFrom node₁ d r.1
      ∧ ∃ q, r.2 = if node₁.status = .init then queue.insert v q
        else queue.replace v q) := by
  subst h
  unfold reachNode PfParameter.reach
  dsimp only
  cases p.moveCost t node v node₁ with
  | none => exact Or.inl rfl
  | some cost =>
    dsimp only
    generalize int32 (adjustCost cost _ + node.cost) = c
    generalize (if p.getEC.isSome = true then _ else 0 : Nat) = e
    by_cases hfirst : node₁.status = .init
    · rw [if_pos hfirst]
      dsimp only
      rw [update_self]
      exact Or.inr ⟨⟨rfl, rfl, rfl⟩, _, (if_pos hfirst).symm⟩
    · rw [if_neg hfirst]
      by_cases hbetter : p.pfTotalCC c e
          < p.pfTotalCC node₁.cost node₁.extraCost
      · rw [if_pos hbetter]
        dsimp only
        rw [update_self]
        exact Or.inr ⟨⟨rfl, rfl, rfl⟩, _, (if_neg hfirst).symm⟩
      · rw [if_neg hbetter]
        exact Or.inl rfl

-- ==== scopes

variable (p)

/-- The scopes that nodes get in a search: from that of a neighbor, the
start from nowhere. -/
inductive Scopes : Nat → MoveScope → Prop where
  | start : Scopes p.startTile p.startNode.moveScope
  | step {u v : Nat} {d : Direction8} {s : MoveScope}
      (before : Scopes u s) (next : p.map.mapstep u d = some v) :
      Scopes v (initialised (p.pfNormalNodeInit .zero v s)).1.moveScope

/-- A tile that is initialised from nowhere as from any neighbor. -/
def Steady (v : Nat) : Prop :=
  ∀ u d s, Scopes p u s → p.map.mapstep u d = some v →
    p.pfNormalNodeInit .zero v s = p.pfNormalNodeInit .zero v .none

-- ==== what a search keeps

/-- The recorded direction leads back into a list of tiles. -/
def CameFrom (lattice : Nat → PfNormalNode) (v : Nat) (done : List Nat) :
    Prop :=
  ∃ u d, u ∈ done ∧ (lattice v).dirToHere = some d
    ∧ p.map.mapstep u d = some v

/-- Each tile was come to from one before it, back to the start. -/
inductive Chained (lattice : Nat → PfNormalNode) : List Nat → Prop where
  | start : Chained lattice [p.startTile]
  | cons {v : Nat} {rest : List Nat} (ne : v ≠ p.startTile)
      (back : p.CameFrom lattice v rest) (before : Chained lattice rest) :
      Chained lattice (v :: rest)

/-- What holds in any search, whatever its costs. -/
structure Kept (lattice : Nat → PfNormalNode) (queue : PQueue Nat)
    (done : List Nat) : Prop where
  fresh : ∀ v, (lattice v).status = .uninit → lattice v = .zero
  processed : ∀ v, (lattice v).status = .processed ↔ v ∈ done
  nodup : done.Nodup
  onMap : ∀ v ∈ done, v < p.map.mapIndexSize
  chained : p.Chained lattice done
  waiting : ∀ v, (lattice v).status = .new →
    v < p.map.mapIndexSize ∧ p.CameFrom lattice v done
  entered : ∀ v, (lattice v).status ≠ .uninit →
    (lattice v).status ≠ .init → v ≠ p.startTile →
      (lattice v).behavior ≠ .ignore
  scopes : ∀ v, (lattice v).status ≠ .uninit →
    p.Scopes v (lattice v).moveScope
  steady : ∀ v, p.Steady v → (lattice v).status ≠ .uninit →
    (lattice v).cached = (p.place v).cached
  keys : queue.Keys fun v => (lattice v).status = .new

variable {p} {lattice lattice' : Nat → PfNormalNode} {queue : PQueue Nat}
  {done : List Nat}

theorem CameFrom.congr {v : Nat} (h : p.CameFrom lattice v done)
    (hv : lattice' v = lattice v) : p.CameFrom lattice' v done := by
  obtain ⟨u, d, hu, hdir, hstep⟩ := h
  exact ⟨u, d, hu, by rw [hv, hdir], hstep⟩

theorem Chained.congr (h : p.Chained lattice done)
    (hdone : ∀ u ∈ done, lattice' u = lattice u) :
    p.Chained lattice' done := by
  induction h with
  | start => exact .start
  | cons ne back before ih =>
    exact .cons ne (back.congr (hdone _ List.mem_cons_self))
      (ih fun u hu => hdone u (List.mem_cons_of_mem _ hu))

theorem Chained.start_mem (h : p.Chained lattice done) :
    p.startTile ∈ done := by
  induction h with
  | start => exact List.mem_cons_self
  | cons ne back before ih => exact List.mem_cons_of_mem _ ih

/-- What a node that is not processed may become. -/
structure Becomes (p : PfParameter) (done : List Nat) (v : Nat)
    (node : PfNormalNode) : Prop where
  status : node.status = .init ∨ node.status = .new
  waiting : node.status = .new → v < p.map.mapIndexSize
    ∧ (∃ u d, u ∈ done ∧ node.dirToHere = some d
      ∧ p.map.mapstep u d = some v)
    ∧ node.behavior ≠ .ignore
  scopes : p.Scopes v node.moveScope
  steady : p.Steady v → node.cached = (p.place v).cached

theorem Kept.become (h : p.Kept lattice queue done) {v : Nat}
    {node : PfNormalNode} {queue' : PQueue Nat} (hv : v ∉ done)
    (hnode : Becomes p done v node)
    (hkeys : queue'.Keys fun x =>
      (update lattice v node x).status = .new) :
    p.Kept (update lattice v node) queue' done := by
  have hkeep : ∀ u ∈ done, update lattice v node u = lattice u := by
    intro u hu
    refine update_of_ne ?_ _ _
    rintro rfl
    exact hv hu
  have hstatus : node.status ≠ .uninit ∧ node.status ≠ .processed := by
    rcases hnode.status with heq | heq
    · rw [heq]
      exact ⟨nofun, nofun⟩
    · rw [heq]
      exact ⟨nofun, nofun⟩
  refine
    { fresh := fun x hx => ?_
      processed := fun x => ?_
      nodup := h.nodup
      onMap := h.onMap
      chained := h.chained.congr hkeep
      waiting := fun x hx => ?_
      entered := fun x hx hinit hne => ?_
      scopes := fun x hx => ?_
      steady := fun x hsteady hx => ?_
      keys := hkeys }
  · by_cases hxv : x = v
    · rw [hxv, update_self] at hx
      exact absurd hx hstatus.1
    · rw [update_of_ne hxv] at hx ⊢
      exact h.fresh x hx
  · by_cases hxv : x = v
    · rw [hxv, update_self]
      exact ⟨fun heq => absurd heq hstatus.2, fun hmem => absurd hmem hv⟩
    · rw [update_of_ne hxv]
      exact h.processed x
  · by_cases hxv : x = v
    · rw [hxv, update_self] at hx
      obtain ⟨hlt, ⟨u, d, hu, hdir, hstep⟩, -⟩ := hnode.waiting hx
      rw [hxv]
      exact ⟨hlt, u, d, hu, by rw [update_self, hdir], hstep⟩
    · rw [update_of_ne hxv] at hx
      obtain ⟨hlt, hfrom⟩ := h.waiting x hx
      exact ⟨hlt, hfrom.congr (update_of_ne hxv _ _)⟩
  · by_cases hxv : x = v
    · rw [hxv, update_self] at hinit ⊢
      exact (hnode.waiting (hnode.status.resolve_left hinit)).2.2
    · rw [update_of_ne hxv] at hx hinit ⊢
      exact h.entered x hx hinit hne
  · by_cases hxv : x = v
    · rw [hxv, update_self]
      exact hnode.scopes
    · rw [update_of_ne hxv] at hx ⊢
      exact h.scopes x hx
  · by_cases hxv : x = v
    · rw [hxv] at hsteady ⊢
      rw [update_self]
      exact hnode.steady hsteady
    · rw [update_of_ne hxv] at hx ⊢
      exact h.steady x hsteady hx

section

variable {t v : Nat} {d : Direction8}

theorem Kept.record (h : p.Kept lattice queue done) (ht : t ∈ done)
    (hv : v ∉ done) (hstep : p.map.mapstep t d = some v)
    {base node : PfNormalNode} {q : Int}
    (hbase : base.status = .init ∧ (lattice v).status ≠ .new
      ∨ base.status = .new ∧ (lattice v).status = .new)
    (hignore : base.behavior ≠ .ignore)
    (hscopes : p.Scopes v base.moveScope)
    (hsteady : p.Steady v → base.cached = (p.place v).cached)
    (hnode : RecordedFrom base d node) :
    p.Kept (update lattice v node)
      (if base.status = .init then queue.insert v q
        else queue.replace v q) done := by
  have hbehavior : node.behavior = base.behavior := by
    have heq := congrArg PfNormalNode.behavior hnode.cached
    exact heq
  have hscope : node.moveScope = base.moveScope := by
    have heq := congrArg PfNormalNode.moveScope hnode.cached
    exact heq
  refine h.become hv ⟨Or.inr hnode.status, fun _ =>
    ⟨p.map.mapstep_lt hstep, ⟨t, d, ht, hnode.dirToHere, hstep⟩,
      hbehavior ▸ hignore⟩, hscope ▸ hscopes, fun hs =>
        hnode.cached.trans (hsteady hs)⟩ ?_
  rcases hbase with ⟨hinit, hnot⟩ | ⟨hnew, hwas⟩
  · rw [if_pos hinit]
    refine (h.keys.insert hnot q).congr fun x => ?_
    by_cases hxv : x = v
    · rw [hxv, update_self]
      exact ⟨fun _ => hnode.status, fun _ => Or.inl rfl⟩
    · rw [update_of_ne hxv]
      exact ⟨fun h => h.resolve_left hxv, Or.inr⟩
  · have hne : base.status ≠ .init := by
      rw [hnew]
      nofun
    rw [if_neg hne]
    refine (h.keys.replace hwas q).congr fun x => ?_
    by_cases hxv : x = v
    · rw [hxv, update_self]
      exact ⟨fun _ => hnode.status, fun _ => hwas⟩
    · rw [update_of_ne hxv]

theorem Kept.inited (h : p.Kept lattice queue done) (hu : t ∈ done)
    (hfresh : (lattice v).status = .uninit)
    (hstep : p.map.mapstep t d = some v) :
    let inited := (initialised
      (p.pfNormalNodeInit .zero v (lattice t).moveScope)).1
    Becomes p done v inited
      ∧ p.Kept (update lattice v inited) queue done := by
  have hv : v ∉ done := fun hmem => by
    rw [(h.processed v).mpr hmem] at hfresh
    cases hfresh
  have hscopes : p.Scopes t (lattice t).moveScope :=
    h.scopes t (by rw [(h.processed t).mpr hu]; nofun)
  have hne : v ≠ p.startTile := fun heq => hv (heq ▸ h.chained.start_mem)
  have hinits := inits_node (p := p) v (lattice t).moveScope
  generalize hinit : p.pfNormalNodeInit .zero v (lattice t).moveScope
    = result at hinits
  have hstatus : (initialised result).1.status = .init := by
    cases result with
    | ok n | error n => exact hinits.status
  have hbecomes : Becomes p done v (initialised result).1 := by
    refine ⟨Or.inl hstatus, fun hnew => ?_, ?_, fun hsteady => ?_⟩
    · rw [hstatus] at hnew
      cases hnew
    · rw [← hinit]
      exact .step hscopes hstep
    · rw [← hinit, hsteady t d _ hscopes hstep, place_of_ne hne]
  refine ⟨hbecomes, h.become hv hbecomes (h.keys.congr fun x => ?_)⟩
  by_cases hxv : x = v
  · rw [hxv, update_self, hstatus, hfresh]
    exact ⟨nofun, nofun⟩
  · rw [update_of_ne hxv]

theorem Kept.visitNeighbor (h : p.Kept lattice queue done) (ht : t ∈ done)
    (hstep : p.map.mapstep t d = some v) :
    let search := p.visitNeighbor t (lattice t) (lattice, queue) (v, d)
    p.Kept search.1 search.2 done
      ∧ ∀ u ∈ done, search.1 u = lattice u := by
  have hkept : ∀ node : PfNormalNode, v ∉ done → ∀ u ∈ done,
      update lattice v node u = lattice u := by
    intro node hv u hu
    refine update_of_ne ?_ _ _
    rintro rfl
    exact hv hu
  rw [visitNeighbor_eq]
  unfold visitNode
  by_cases hprocessed : (lattice v).status = .processed
  · rw [if_pos hprocessed, update_eq_self]
    exact ⟨h, fun _ _ => rfl⟩
  · have hv : v ∉ done := fun hmem =>
      hprocessed ((h.processed v).mpr hmem)
    have hne : v ≠ p.startTile :=
      fun heq => hv (heq ▸ h.chained.start_mem)
    rw [if_neg hprocessed]
    by_cases hfresh : (lattice v).status = .uninit
    · rw [if_pos hfresh, h.fresh v hfresh]
      obtain ⟨hbecomes, hinited⟩ := h.inited ht hfresh hstep
      have hinits := inits_node (p := p) v (lattice t).moveScope
      cases hinit : p.pfNormalNodeInit .zero v (lattice t).moveScope with
      | error n =>
        rw [hinit] at hinited
        exact ⟨hinited, hkept _ hv⟩
      | ok n =>
        rw [hinit] at hinited hinits hbecomes
        show p.Kept (update lattice v (p.reachNode t (lattice t) v d n
          queue).1) (p.reachNode t (lattice t) v d n queue).2 done ∧ _
        refine ⟨?_, hkept _ hv⟩
        rcases reachNode_cases rfl with heq | ⟨hrecorded, q, hq⟩
        · rw [heq]
          exact hinited
        · rw [hq]
          refine h.record ht hv hstep (Or.inl ⟨hinits.status, ?_⟩)
            (hinits.behavior hne.symm) hbecomes.scopes hbecomes.steady
            hrecorded
          rw [hfresh]
          nofun
    · rw [if_neg hfresh]
      by_cases hignore : (lattice v).behavior = .ignore
      · rw [if_pos hignore, update_eq_self]
        exact ⟨h, fun _ _ => rfl⟩
      · rw [if_neg hignore]
        refine ⟨?_, hkept _ hv⟩
        rcases reachNode_cases rfl with heq | ⟨hrecorded, q, hq⟩
        · rw [heq, update_eq_self]
          exact h
        · rw [hq]
          refine h.record ht hv hstep ?_ hignore (h.scopes v hfresh)
            (fun hsteady => h.steady v hsteady hfresh) hrecorded
          cases hstatus : (lattice v).status with
          | uninit => exact absurd hstatus hfresh
          | init => exact Or.inl ⟨rfl, nofun⟩
          | new => exact Or.inr ⟨rfl, rfl⟩
          | processed => exact absurd hstatus hprocessed

end

-- ==== early nodes

variable (p)

/-- A lattice where some steady tiles were initialised early. -/
def Early (lattice lattice' : Nat → PfNormalNode) : Prop :=
  ∀ v, lattice' v = lattice v
    ∨ (lattice v = .zero ∧ v ≠ p.startTile ∧ p.Steady v
      ∧ lattice' v = p.place v)

variable {p}

theorem Early.processed (he : p.Early lattice lattice') {v : Nat}
    (hv : (lattice v).status = .processed) : lattice' v = lattice v := by
  rcases he v with heq | ⟨hzero, -⟩
  · exact heq
  · rw [hzero] at hv
    cases hv

theorem Early.processed_iff (he : p.Early lattice lattice') (v : Nat) :
    (lattice' v).status = .processed
      ↔ (lattice v).status = .processed := by
  rcases he v with heq | ⟨hzero, hne, -, hplace⟩
  · rw [heq]
  · rw [hzero, hplace, (place_fresh hne).1]
    exact ⟨nofun, nofun⟩

theorem Early.update (he : p.Early lattice lattice') (v : Nat)
    (node : PfNormalNode) :
    p.Early (update lattice v node) (update lattice' v node) := by
  intro x
  by_cases hxv : x = v
  · rw [hxv, update_self, update_self]
    exact Or.inl rfl
  · rw [update_of_ne hxv, update_of_ne hxv]
    exact he x

theorem visitNode_early {t v : Nat} {node : PfNormalNode}
    (d : Direction8) (hv : v ≠ p.startTile)
    (hinit : p.pfNormalNodeInit .zero v node.moveScope
      = p.pfNormalNodeInit .zero v .none) :
    p.visitNode t node v d (p.place v) queue
      = p.visitNode t node v d .zero queue := by
  have hfresh := (place_fresh hv).1
  have hinits : initialised (p.pfNormalNodeInit .zero v node.moveScope)
      = (p.place v, p.enters v) := by
    rw [hinit, place_of_ne hv]
    rfl
  have hright : p.visitNode t node v d .zero queue
      = if p.enters v then p.reachNode t node v d (p.place v) queue
        else (p.place v, queue) := by
    unfold visitNode
    rw [hinits]
    rfl
  rw [hright]
  unfold visitNode
  rw [hfresh, if_neg nofun, if_neg nofun]
  by_cases hignore : (p.place v).behavior = .ignore
  · rw [if_pos hignore, (ignore_iff hv).mp hignore]
    rfl
  · have henters : p.enters v = true := by
      cases hfalse : p.enters v with
      | true => rfl
      | false => exact absurd ((ignore_iff hv).mpr hfalse) hignore
    rw [if_neg hignore, henters]
    rfl

theorem Kept.visitNeighbors {t : Nat} {node : PfNormalNode}
    (ht : t ∈ done) (l : List (Nat × Direction8)) :
    ∀ (lattice lattice' : Nat → PfNormalNode) (queue : PQueue Nat),
      p.Kept lattice queue done → p.Early lattice lattice' →
        lattice t = node →
          (∀ v d, (v, d) ∈ l → p.map.mapstep t d = some v) →
            let search := l.foldl (p.visitNeighbor t node) (lattice, queue)
            let search' :=
              l.foldl (p.visitNeighbor t node) (lattice', queue)
            p.Kept search.1 search.2 done
              ∧ (∀ u ∈ done, search.1 u = lattice u)
              ∧ p.Early search.1 search'.1 ∧ search'.2 = search.2 := by
  induction l with
  | nil =>
    exact fun lattice lattice' queue h he _ _ =>
      ⟨h, fun _ _ => rfl, he, rfl⟩
  | cons x l ih =>
    obtain ⟨v, d⟩ := x
    rintro lattice lattice' queue h he rfl hsteps
    have hstep := hsteps v d List.mem_cons_self
    obtain ⟨hkept, hkeep⟩ := h.visitNeighbor ht hstep
    have hsame : p.visitNode t (lattice t) v d (lattice' v) queue
        = p.visitNode t (lattice t) v d (lattice v) queue := by
      rcases he v with heq | ⟨hzero, hne, hsteady, hplace⟩
      · rw [heq]
      · have hscopes := h.scopes t (by
          rw [(h.processed t).mpr ht]
          nofun)
        rw [hzero, hplace]
        exact visitNode_early d hne (hsteady t d _ hscopes hstep)
    rw [List.foldl_cons, List.foldl_cons]
    rw [visitNeighbor_eq] at hkept hkeep
    rw [visitNeighbor_eq, visitNeighbor_eq, hsame]
    obtain ⟨hkept', hkeep', he', hqueue⟩ := ih _ _ _ hkept
      (he.update v _) (hkeep t ht)
      fun v' d' hmem => hsteps v' d' (List.mem_cons_of_mem _ hmem)
    exact ⟨hkept', fun u hu => (hkeep' u hu).trans (hkeep u hu), he',
      hqueue⟩

theorem Kept.settle {queue' : PQueue Nat} {t : Nat}
    (h : p.Kept lattice queue done)
    (hremove : queue.remove = some (t, queue')) :
    let lattice' :=
      Function.update lattice t { lattice t with status := .processed }
    t ∉ done ∧ p.Kept lattice' queue' (t :: done)
      ∧ ∀ u ∈ done, lattice' u = lattice u := by
  obtain ⟨hnew, hkeys⟩ := h.keys.remove hremove
  have hnot : t ∉ done := fun hmem => by
    rw [(h.processed t).mpr hmem] at hnew
    cases hnew
  obtain ⟨hlt, hfrom⟩ := h.waiting t hnew
  generalize hprocessed :
    ({ lattice t with status := .processed } : PfNormalNode) = node
  have hstatus : node.status = .processed := by rw [← hprocessed]
  have hkeep : ∀ u ∈ done, Function.update lattice t node u
      = lattice u := by
    intro u hu
    refine update_of_ne ?_ _ _
    rintro rfl
    exact hnot hu
  have hself : Function.update lattice t node t = node :=
    update_self _ _ _
  refine ⟨hnot,
    { fresh := fun v hv => ?_
      processed := fun v => ?_
      nodup := List.nodup_cons.mpr ⟨hnot, h.nodup⟩
      onMap := fun v hv => ?_
      chained := .cons (fun heq => hnot (heq ▸ h.chained.start_mem)) ?_
        (h.chained.congr hkeep)
      waiting := fun v hv => ?_
      entered := fun v hv hinit hne => ?_
      scopes := fun v hv => ?_
      steady := fun v hsteady hv => ?_
      keys := hkeys.congr fun v => ?_ }, hkeep⟩
  · by_cases hvt : v = t
    · rw [hvt, hself, hstatus] at hv
      cases hv
    · rw [update_of_ne hvt] at hv ⊢
      exact h.fresh v hv
  · by_cases hvt : v = t
    · rw [hvt, hself]
      exact ⟨fun _ => List.mem_cons_self, fun _ => hstatus⟩
    · rw [update_of_ne hvt, h.processed v, List.mem_cons]
      exact ⟨Or.inr, fun hv => hv.resolve_left hvt⟩
  · rcases List.mem_cons.mp hv with rfl | hv
    · exact hlt
    · exact h.onMap v hv
  · obtain ⟨u, d, hu, hdir, hstep⟩ := hfrom
    refine ⟨u, d, hu, ?_, hstep⟩
    rw [hself, ← hprocessed]
    exact hdir
  · by_cases hvt : v = t
    · rw [hvt, hself, hstatus] at hv
      cases hv
    · rw [update_of_ne hvt] at hv
      obtain ⟨hvlt, u, d, hu, hdir, hstep⟩ := h.waiting v hv
      exact ⟨hvlt, u, d, List.mem_cons_of_mem _ hu,
        by rw [update_of_ne hvt, hdir], hstep⟩
  · by_cases hvt : v = t
    · rw [hvt] at hne ⊢
      rw [hself, ← hprocessed]
      exact h.entered t (by rw [hnew]; nofun) (by rw [hnew]; nofun) hne
    · rw [update_of_ne hvt] at hv hinit ⊢
      exact h.entered v hv hinit hne
  · by_cases hvt : v = t
    · rw [hvt, hself, ← hprocessed]
      exact h.scopes t (by rw [hnew]; nofun)
    · rw [update_of_ne hvt] at hv ⊢
      exact h.scopes v hv
  · by_cases hvt : v = t
    · rw [hvt] at hsteady ⊢
      rw [hself, ← hprocessed]
      exact h.steady t hsteady (by rw [hnew]; nofun)
    · rw [update_of_ne hvt] at hv ⊢
      exact h.steady v hsteady hv
  · by_cases hvt : v = t
    · rw [hvt, hself, hstatus]
      exact ⟨fun h => absurd rfl h.2, nofun⟩
    · rw [update_of_ne hvt]
      exact ⟨And.left, fun h => ⟨h, hvt⟩⟩

-- ==== two maps

/-- A map of the search alone, and one that was asked about tiles. -/
structure Twin (p : PfParameter) (m m' : PfNormalMap) (done : List Nat) :
    Prop where
  kept : p.Kept m.lattice m.queue done
  early : p.Early m.lattice m'.lattice
  queue : m'.queue = m.queue
  tile : m'.tile = m.tile
  current : ∀ t, m.tile = some t → t ∈ done

variable {m m' : PfNormalMap}

theorem Twin.iterate (h : Twin p m m' done) :
    let r := p.pfMapIterate m
    let r' := p.pfMapIterate m'
    r'.2 = r.2 ∧ (∀ u ∈ done, r.1.lattice u = m.lattice u)
      ∧ ((r.2 = true ∧ ∃ t, Twin p r.1 r'.1 (t :: done))
        ∨ (r.2 = false ∧ r.1.tile = none ∧ Twin p r.1 r'.1 done)) := by
  unfold pfMapIterate
  rw [h.tile]
  cases ht : m.tile with
  | none => exact ⟨rfl, fun _ _ => rfl, Or.inr ⟨rfl, ht, h⟩⟩
  | some t =>
    have hmem := h.current t ht
    have hprocessed := (h.kept.processed t).mpr hmem
    have hsame := h.early.processed hprocessed
    have hrun : p.Kept (p.processTile m t).1 (p.processTile m t).2 done
        ∧ (∀ u ∈ done, (p.processTile m t).1 u = m.lattice u)
        ∧ p.Early (p.processTile m t).1 (p.processTile m' t).1
        ∧ (p.processTile m' t).2 = (p.processTile m t).2 := by
      unfold processTile
      rw [hsame, h.queue]
      by_cases hleave : p.mayLeave (m.lattice t) = true
      · rw [if_pos hleave, if_pos hleave]
        exact Kept.visitNeighbors hmem (p.map.adjcDir t) m.lattice
          m'.lattice m.queue h.kept h.early rfl
          fun v d hvd => p.map.mem_adjcDir.mp hvd
      · rw [if_neg hleave, if_neg hleave]
        exact ⟨h.kept, fun _ _ => rfl, h.early, rfl⟩
    obtain ⟨hkept, hkeep, hearly, hqueue⟩ := hrun
    dsimp only
    rw [hqueue]
    cases hremove : (p.processTile m t).2.remove with
    | none =>
      exact ⟨rfl, hkeep, Or.inr ⟨rfl, rfl, hkept, hearly, rfl, rfl, nofun⟩⟩
    | some x =>
      obtain ⟨t', queue⟩ := x
      obtain ⟨hnot, hkept', hkeep'⟩ := hkept.settle hremove
      have hnew := (hkept.keys.remove hremove).1
      -- a tile that is in the queue was not initialised early
      have hnode : (p.processTile m' t).1 t' = (p.processTile m t).1 t' := by
        rcases hearly t' with heq | ⟨hzero, -⟩
        · exact heq
        · rw [hzero] at hnew
          cases hnew
      refine ⟨rfl, fun u hu => (hkeep' u hu).trans (hkeep u hu),
        Or.inl ⟨rfl, t', hkept', ?_, rfl, rfl, ?_⟩⟩
      · dsimp only
        rw [hnode]
        exact hearly.update t' _
      · intro u hu
        rw [← Option.some.inj hu]
        exact List.mem_cons_self

theorem twin_new (hstart : p.startTile < p.map.mapIndexSize) :
    Twin p p.pfNormalMapNew p.pfNormalMapNew [p.startTile] := by
  have hlattice : p.pfNormalMapNew.lattice
      = update (fun _ => .zero) p.startTile p.startNode := rfl
  have hnode : p.pfNormalMapNew.lattice p.startTile = p.startNode := by
    rw [hlattice, update_self]
  have hne : ∀ v, v ≠ p.startTile →
      p.pfNormalMapNew.lattice v = .zero := by
    intro v hv
    rw [hlattice, update_of_ne hv]
  have honly : ∀ v, (p.pfNormalMapNew.lattice v).status ≠ .uninit →
      v = p.startTile := by
    intro v hv
    by_contra hvs
    rw [hne v hvs] at hv
    exact hv rfl
  have hnot : ∀ v, (p.pfNormalMapNew.lattice v).status ≠ .new := by
    intro v hv
    have hvs := honly v (by rw [hv]; nofun)
    rw [hvs, hnode] at hv
    cases hv
  refine ⟨
    { fresh := fun v hv => ?_
      processed := fun v => ?_
      nodup := List.nodup_singleton _
      onMap := fun v hv => ?_
      chained := .start
      waiting := fun v hv => absurd hv (hnot v)
      entered := fun v hv _ hvs => absurd (honly v hv) hvs
      scopes := fun v hv => ?_
      steady := fun v _ hv => ?_
      keys := ?_ }, fun _ => Or.inl rfl, rfl, rfl, fun t ht => ?_⟩
  · by_cases hvs : v = p.startTile
    · rw [hvs, hnode] at hv
      cases hv
    · exact hne v hvs
  · rw [List.mem_singleton]
    by_cases hvs : v = p.startTile
    · rw [hvs, hnode]
      exact ⟨fun _ => rfl, fun _ => rfl⟩
    · rw [hne v hvs]
      exact ⟨nofun, fun h => absurd h hvs⟩
  · rw [List.mem_singleton.mp hv]
    exact hstart
  · rw [honly v hv, hnode]
    exact .start
  · rw [honly v hv, hnode]
    unfold place
    rw [if_pos rfl]
  · exact ⟨fun _ => none, PQueue.holds_empty _,
      fun v => ⟨nofun, fun h => absurd h (hnot v)⟩⟩
  · rw [← Option.some.inj ht]
    exact List.mem_cons_self

-- ==== the finished search

variable (p)

def after (n : Nat) (m : PfNormalMap) : PfNormalMap :=
  (fun m => (p.pfMapIterate m).1)^[n] m

def finished : PfNormalMap := p.after p.map.mapIndexSize p.pfNormalMapNew

/-- A map that the finished search was once. -/
def Before (m : PfNormalMap) : Prop := ∃ n, p.finished = p.after n m

variable {p}

theorem after_succ (n : Nat) (m : PfNormalMap) :
    p.after (n + 1) m = p.after n (p.pfMapIterate m).1 := rfl

theorem length_le_of_kept (h : p.Kept lattice queue done) :
    done.length ≤ p.map.mapIndexSize := by
  have hsub : done.Subperm (List.range p.map.mapIndexSize) :=
    List.subperm_of_subset h.nodup fun v hv =>
      List.mem_range.mpr (h.onMap v hv)
  have hle := hsub.length_le
  rw [List.length_range] at hle
  exact hle

theorem Twin.self (h : Twin p m m' done) : Twin p m m done :=
  ⟨h.kept, fun _ => Or.inl rfl, rfl, rfl, h.current⟩

theorem after_ended (hend : m.tile = none) (n : Nat) : p.after n m = m := by
  have hiterate : (p.pfMapIterate m).1 = m := by
    unfold pfMapIterate
    rw [hend]
  induction n with
  | zero => rfl
  | succ n ih => rw [after_succ, hiterate, ih]

theorem Twin.after (n : Nat) : ∀ (m : PfNormalMap) (done : List Nat),
    Twin p m m done → ∃ done', Twin p (p.after n m) (p.after n m) done'
      ∧ (∀ u ∈ done, (p.after n m).lattice u = m.lattice u)
      ∧ (p.map.mapIndexSize < n + done.length →
        (p.after n m).tile = none) := by
  induction n with
  | zero =>
    intro m done h
    refine ⟨done, h, fun _ _ => rfl, fun hlt => ?_⟩
    have hle := length_le_of_kept h.kept
    omega
  | succ n ih =>
    intro m done h
    obtain ⟨-, hkeep, ⟨-, t, h'⟩ | ⟨-, hend, h'⟩⟩ := h.iterate
    · obtain ⟨done', hafter, hkeep', hended⟩ := ih _ _ h'
      refine ⟨done', hafter, fun u hu => ?_, fun hlt => hended ?_⟩
      · exact (hkeep' u (List.mem_cons_of_mem _ hu)).trans (hkeep u hu)
      · rw [List.length_cons]
        omega
    · rw [after_succ, after_ended hend]
      exact ⟨done, h', hkeep, fun _ => hend⟩

theorem finished_ended (hstart : p.startTile < p.map.mapIndexSize) :
    p.finished.tile = none
      ∧ ∃ done, Twin p p.finished p.finished done := by
  obtain ⟨done, h, -, hended⟩ :=
    Twin.after p.map.mapIndexSize _ _ (twin_new hstart)
  exact ⟨hended (by rw [List.length_singleton]; omega), done, h⟩

/-- What is processed is so in the finished search, with the same node. -/
theorem Before.lattice_eq (hb : p.Before m) (h : Twin p m m' done)
    {u : Nat} (hu : u ∈ done) : p.finished.lattice u = m.lattice u := by
  obtain ⟨n, hn⟩ := hb
  obtain ⟨-, -, hkeep, -⟩ := Twin.after n m done h.self
  rw [hn]
  exact hkeep u hu

theorem Before.iterate (hstart : p.startTile < p.map.mapIndexSize)
    (hb : p.Before m) : p.Before (p.pfMapIterate m).1 := by
  obtain ⟨n, hn⟩ := hb
  cases n with
  | succ n => exact ⟨n, hn⟩
  | zero =>
    have hm : p.finished = m := hn
    have hend := (finished_ended hstart).1
    refine ⟨0, ?_⟩
    rw [hm] at hend
    exact hn.trans (after_ended hend 1).symm

-- ==== answers

variable (p)

/-- A map that was asked some questions. -/
def Asked (m' : PfNormalMap) : Prop :=
  ∃ m done, Twin p m m' done ∧ p.Before m

def answer : PfQuery → PfAnswer
  | .path t => .path
      (if t = p.startTile then some [p.fillStartTile]
      else if (p.finished.lattice t).status = .processed then
        p.constructPath p.finished p.map.mapIndexSize t none []
      else none)
  | .moveCost t => .moveCost
      (if t = p.startTile then 0
      else if (p.finished.lattice t).status = .processed then
        p.totalMC (p.finished.lattice t)
      else pfImpossibleMC)
  | .position t => .position
      (if t = p.startTile then some p.fillStartTile
      else if (p.finished.lattice t).status = .processed then
        some (p.fillPosition p.finished t none)
      else none)
  | .iterate => .iterate false

/-- How a search for a tile ends. -/
structure Sought (t : Nat) (m' : PfNormalMap) (found : Bool) : Prop where
  asked : ∃ m done, Twin p m m' done ∧ p.Before m
    ∧ (found = true → t ∈ done)
  unreached : found = false → (p.finished.lattice t).status ≠ .processed

variable {p}

theorem Twin.iterateLoop (hstart : p.startTile < p.map.mapIndexSize)
    {t : Nat} (ht : t < p.map.mapIndexSize) (rounds : Nat) :
    ∀ (m m' : PfNormalMap) (done : List Nat), Twin p m m' done →
      p.Before m → p.map.mapIndexSize ≤ rounds + done.length →
        ∃ m'' found, p.iterateLoop t rounds m' = some (m'', found)
          ∧ p.Sought t m'' found := by
  induction rounds with
  | zero =>
    intro m m' done h hb hrounds
    have hsub : done.Subperm (List.range p.map.mapIndexSize) :=
      List.subperm_of_subset h.kept.nodup fun v hv =>
        List.mem_range.mpr (h.kept.onMap v hv)
    have hperm := hsub.perm_of_length_le
      (by rw [List.length_range]; omega)
    have hmem : t ∈ done := hperm.mem_iff.mpr (List.mem_range.mpr ht)
    have hprocessed := (h.early.processed_iff t).mpr
      ((h.kept.processed t).mpr hmem)
    unfold PfParameter.iterateLoop
    rw [if_pos hprocessed]
    exact ⟨m', true, rfl, ⟨m, done, h, hb, fun _ => hmem⟩, nofun⟩
  | succ rounds ih =>
    intro m m' done h hb hrounds
    unfold PfParameter.iterateLoop
    by_cases hprocessed : (m'.lattice t).status = .processed
    · have hmem := (h.kept.processed t).mp
        ((h.early.processed_iff t).mp hprocessed)
      rw [if_pos hprocessed]
      exact ⟨m', true, rfl, ⟨m, done, h, hb, fun _ => hmem⟩, nofun⟩
    · have hnot : t ∉ done := fun hmem => hprocessed
        ((h.early.processed_iff t).mpr ((h.kept.processed t).mpr hmem))
      have hiterate := h.iterate
      rw [if_neg hprocessed]
      cases hresult : p.pfMapIterate m' with
      | mk m'' more =>
        rw [hresult] at hiterate
        obtain ⟨hmore, -, ⟨htrue, t', h'⟩ | ⟨hfalse, hend, h'⟩⟩ := hiterate
        · have hmore : more = true := hmore.trans htrue
          subst hmore
          refine ih _ m'' (t' :: done) h' (hb.iterate hstart) ?_
          rw [List.length_cons]
          omega
        · have hmore : more = false := hmore.trans hfalse
          subst hmore
          refine ⟨m'', false, rfl,
            ⟨_, done, h', hb.iterate hstart, nofun⟩, fun _ heq => ?_⟩
          obtain ⟨n, hn⟩ := hb.iterate hstart
          rw [hn, after_ended hend] at heq
          exact hnot ((h'.kept.processed t).mp heq)

theorem not_processed (hstart : p.startTile < p.map.mapIndexSize)
    {t : Nat} (hne : t ≠ p.startTile) (hsteady : p.Steady t)
    (henters : p.enters t = false) :
    (p.finished.lattice t).status ≠ .processed := by
  intro hprocessed
  obtain ⟨-, done, h⟩ := finished_ended hstart
  have huninit : (p.finished.lattice t).status ≠ .uninit := by
    rw [hprocessed]
    nofun
  have hbehavior := congrArg PfNormalNode.behavior
    (h.kept.steady t hsteady huninit)
  have hignore : (p.finished.lattice t).behavior = .ignore :=
    hbehavior.trans ((ignore_iff hne).mpr henters)
  exact h.kept.entered t huninit (by rw [hprocessed]; nofun) hne hignore

theorem Asked.iterateUntil (hstart : p.startTile < p.map.mapIndexSize)
    (h : p.Asked m') {t : Nat} (ht : t < p.map.mapIndexSize)
    (hne : t ≠ p.startTile) (hsteady : p.Steady t) :
    ∃ m'' found, p.pfNormalMapIterateUntil m' t = some (m'', found)
      ∧ p.Sought t m'' found := by
  obtain ⟨m, done, h, hb⟩ := h
  unfold pfNormalMapIterateUntil
  dsimp only
  by_cases hfresh : (m'.lattice t).status = .uninit
  · have hzero : m.lattice t = .zero ∧ m'.lattice t = .zero := by
      rcases h.early t with heq | ⟨-, -, -, hplace⟩
      · rw [heq] at hfresh ⊢
        exact ⟨h.kept.fresh t hfresh, h.kept.fresh t hfresh⟩
      · rw [hplace, (place_fresh hne).1] at hfresh
        cases hfresh
    have hinit : initialised (p.pfNormalNodeInit (m'.lattice t) t .none)
        = (p.place t, p.enters t) := by
      rw [hzero.2, place_of_ne hne]
      rfl
    have h' : Twin p m
        { m' with lattice := update m'.lattice t (p.place t) } done := by
      refine ⟨h.kept, fun v => ?_, h.queue, h.tile, h.current⟩
      dsimp only
      by_cases hvt : v = t
      · rw [hvt, update_self]
        exact Or.inr ⟨hzero.1, hne, hsteady, rfl⟩
      · rw [update_of_ne hvt]
        exact h.early v
    rw [if_pos hfresh, hinit]
    cases henters : p.enters t with
    | true =>
      rw [if_pos rfl]
      exact Twin.iterateLoop hstart ht _ m _ done h' hb
        (Nat.le_add_right _ _)
    | false =>
      rw [if_neg Bool.false_ne_true]
      exact ⟨_, false, rfl, ⟨m, done, h', hb, nofun⟩,
        fun _ => not_processed hstart hne hsteady henters⟩
  · rw [if_neg hfresh]
    by_cases hignore : (m'.lattice t).behavior = .ignore
    · have hplace : (p.place t).behavior = .ignore := by
        rcases h.early t with heq | ⟨-, -, -, hplace⟩
        · rw [heq] at hfresh hignore
          have hbehavior := congrArg PfNormalNode.behavior
            (h.kept.steady t hsteady hfresh)
          exact hbehavior.symm.trans hignore
        · rw [← hplace]
          exact hignore
      rw [if_pos hignore]
      exact ⟨m', false, rfl, ⟨m, done, h, hb, nofun⟩, fun _ =>
        not_processed hstart hne hsteady ((ignore_iff hne).mp hplace)⟩
    · rw [if_neg hignore]
      exact Twin.iterateLoop hstart ht _ m m' done h hb
        (Nat.le_add_right _ _)

theorem fillPosition_congr {t : Nat} (h : m'.lattice t = m.lattice t)
    (d : Option Direction8) :
    p.fillPosition m' t d = p.fillPosition m t d := by
  unfold fillPosition
  rw [h]

/-- The walk back ends, and is the same in two maps that agree on what is
processed. -/
theorem Chained.constructPath (h : p.Chained m.lattice done)
    (hsame : ∀ u ∈ done, m'.lattice u = m.lattice u) :
    (∀ v ∈ done, v < p.map.mapIndexSize) →
      ∀ t ∈ done, ∀ (steps : Nat) (dirNext : Option Direction8)
        (positions : List PfPosition), done.length ≤ steps →
          ∃ path, p.constructPath m steps t dirNext positions = some path
            ∧ p.constructPath m' steps t dirNext positions = some path := by
  induction h with
  | start =>
    intro _ t ht steps dirNext positions hsteps
    obtain ⟨steps, rfl⟩ : ∃ n, steps = n + 1 :=
      ⟨steps - 1, by rw [List.length_singleton] at hsteps; omega⟩
    have hfill := fillPosition_congr (p := p) (hsame t ht) dirNext
    unfold PfParameter.constructPath
    rw [if_pos (List.mem_singleton.mp ht), hfill]
    exact ⟨_, rfl, if_pos (List.mem_singleton.mp ht)⟩
  | @cons v rest ne back before ih =>
    intro hmap t ht steps dirNext positions hsteps
    have hsame' := fun u hu => hsame u (List.mem_cons_of_mem v hu)
    have hmap' := fun u hu => hmap u (List.mem_cons_of_mem v hu)
    rw [List.length_cons] at hsteps
    rcases List.mem_cons.mp ht with rfl | hin
    · obtain ⟨u, d, hu, hdir, hstep⟩ := back
      obtain ⟨steps, rfl⟩ : ∃ n, steps = n + 1 := ⟨steps - 1, by omega⟩
      have hfill := fillPosition_congr (p := p) (hsame t ht) dirNext
      obtain ⟨path, hpath, hpath'⟩ := ih hsame' hmap' u hu steps (some d)
        (p.fillPosition m t dirNext :: positions) (by omega)
      unfold PfParameter.constructPath
      rw [if_neg ne, if_neg ne, hsame t ht, hdir, hfill]
      dsimp only
      rw [p.map.mapstep_reverse (hmap' u hu) hstep]
      exact ⟨path, hpath, hpath'⟩
    · exact ih hsame' hmap' t hin steps dirNext positions (by omega)

variable (p)

/-- The question is about a tile of the map, a steady one. -/
def AboutSteady : PfQuery → Prop
  | .path t | .moveCost t | .position t =>
    t < p.map.mapIndexSize ∧ p.Steady t
  | .iterate => True

variable {p}

theorem Sought.node {t : Nat} (h : p.Sought t m' true) :
    m'.lattice t = p.finished.lattice t
      ∧ (p.finished.lattice t).status = .processed
      ∧ ∃ path, p.constructPath m' p.map.mapIndexSize t none [] = some path
        ∧ p.constructPath p.finished p.map.mapIndexSize t none []
          = some path := by
  obtain ⟨m, done, htwin, hb, hmem⟩ := h.asked
  have hin := hmem rfl
  have hfinished : ∀ u ∈ done, p.finished.lattice u = m.lattice u :=
    fun u hu => hb.lattice_eq htwin hu
  have hasked : ∀ u ∈ done, m'.lattice u = m.lattice u := fun u hu =>
    htwin.early.processed ((htwin.kept.processed u).mpr hu)
  have hle := length_le_of_kept htwin.kept
  obtain ⟨path, hpath, hpath'⟩ := htwin.kept.chained.constructPath
    hfinished htwin.kept.onMap t hin p.map.mapIndexSize none [] hle
  obtain ⟨path', hpath₁, hpath₁'⟩ := htwin.kept.chained.constructPath
    hasked htwin.kept.onMap t hin p.map.mapIndexSize none [] hle
  rw [hpath] at hpath₁
  cases hpath₁
  refine ⟨(hasked t hin).trans (hfinished t hin).symm, ?_, path, hpath₁',
    hpath'⟩
  rw [hfinished t hin]
  exact (htwin.kept.processed t).mpr hin

theorem Sought.asked' {t : Nat} {found : Bool} (h : p.Sought t m' found) :
    p.Asked m' := by
  obtain ⟨m, done, htwin, hb, -⟩ := h.asked
  exact ⟨m, done, htwin, hb⟩

theorem Asked.ask (hstart : p.startTile < p.map.mapIndexSize)
    (h : p.Asked m') (q : PfQuery) (hq : p.AboutSteady q) :
    ∃ m'' a, p.ask m' q = some (m'', a) ∧ p.Asked m''
      ∧ (q ≠ .iterate → a = p.answer q) := by
  cases q with
  | path t =>
    show ∃ m'' a, (p.pfMapPath m' t).map _ = _ ∧ _
    unfold pfMapPath
    by_cases hs : t = p.startTile
    · rw [if_pos hs]
      refine ⟨m', _, rfl, h, fun _ => ?_⟩
      unfold answer
      dsimp only
      rw [if_pos hs]
    · obtain ⟨m'', found, huntil, hsought⟩ :=
        h.iterateUntil hstart hq.1 hs hq.2
      rw [if_neg hs, huntil]
      unfold answer
      dsimp only
      rw [if_neg hs]
      cases found with
      | false =>
        rw [if_neg (hsought.unreached rfl)]
        exact ⟨m'', _, rfl, hsought.asked', fun _ => rfl⟩
      | true =>
        obtain ⟨-, hprocessed, path, hpath, hpath'⟩ := hsought.node
        rw [if_pos hprocessed, hpath']
        dsimp only
        rw [hpath]
        exact ⟨m'', _, rfl, hsought.asked', fun _ => rfl⟩
  | moveCost t =>
    show ∃ m'' a, (p.pfMapMoveCost m' t).map _ = _ ∧ _
    unfold pfMapMoveCost
    by_cases hs : t = p.startTile
    · rw [if_pos hs]
      refine ⟨m', _, rfl, h, fun _ => ?_⟩
      unfold answer
      dsimp only
      rw [if_pos hs]
    · obtain ⟨m'', found, huntil, hsought⟩ :=
        h.iterateUntil hstart hq.1 hs hq.2
      rw [if_neg hs, huntil]
      unfold answer
      dsimp only
      rw [if_neg hs]
      cases found with
      | false =>
        rw [if_neg (hsought.unreached rfl)]
        exact ⟨m'', _, rfl, hsought.asked', fun _ => rfl⟩
      | true =>
        obtain ⟨hnode, hprocessed, -⟩ := hsought.node
        rw [if_pos hprocessed, ← hnode]
        exact ⟨m'', _, rfl, hsought.asked', fun _ => rfl⟩
  | position t =>
    show ∃ m'' a, (p.pfMapPosition m' t).map _ = _ ∧ _
    unfold pfMapPosition
    by_cases hs : t = p.startTile
    · rw [if_pos hs]
      refine ⟨m', _, rfl, h, fun _ => ?_⟩
      unfold answer
      dsimp only
      rw [if_pos hs]
    · obtain ⟨m'', found, huntil, hsought⟩ :=
        h.iterateUntil hstart hq.1 hs hq.2
      rw [if_neg hs, huntil]
      unfold answer
      dsimp only
      rw [if_neg hs]
      cases found with
      | false =>
        rw [if_neg (hsought.unreached rfl)]
        exact ⟨m'', _, rfl, hsought.asked', fun _ => rfl⟩
      | true =>
        obtain ⟨hnode, hprocessed, -⟩ := hsought.node
        rw [if_pos hprocessed, ← fillPosition_congr hnode]
        exact ⟨m'', _, rfl, hsought.asked', fun _ => rfl⟩
  | iterate =>
    obtain ⟨m, done, htwin, hb⟩ := h
    obtain ⟨-, -, ⟨-, t, h'⟩ | ⟨-, -, h'⟩⟩ := htwin.iterate
    · exact ⟨_, _, rfl, ⟨_, _, h', hb.iterate hstart⟩,
        fun hne => absurd rfl hne⟩
    · exact ⟨_, _, rfl, ⟨_, _, h', hb.iterate hstart⟩,
        fun hne => absurd rfl hne⟩

theorem Asked.askAll (hstart : p.startTile < p.map.mapIndexSize)
    (qs : List PfQuery) : ∀ m', p.Asked m' →
      (∀ q ∈ qs, p.AboutSteady q) →
        ∃ m'', p.askAll m' qs = some m'' ∧ p.Asked m'' := by
  induction qs with
  | nil => exact fun m' h _ => ⟨m', rfl, h⟩
  | cons q qs ih =>
    intro m' h hqs
    obtain ⟨m'', a, hask, h', -⟩ :=
      h.ask hstart q (hqs q List.mem_cons_self)
    unfold PfParameter.askAll
    rw [hask]
    exact ih m'' h' fun q' hq' => hqs q' (List.mem_cons_of_mem _ hq')

theorem asked_new (hstart : p.startTile < p.map.mapIndexSize) :
    p.Asked p.pfNormalMapNew :=
  ⟨_, _, twin_new hstart, p.map.mapIndexSize, rfl⟩

theorem answers_independent (hstart : p.startTile < p.map.mapIndexSize)
    {qs : List PfQuery} (hqs : ∀ q ∈ qs, p.AboutSteady q) {q : PfQuery}
    (hq : p.AboutSteady q) (hne : q ≠ .iterate) :
    ∃ m a, p.askAll p.pfNormalMapNew qs = some m
      ∧ (p.ask m q).map Prod.snd = some a
      ∧ (p.ask p.pfNormalMapNew q).map Prod.snd = some a := by
  obtain ⟨m, hall, hasked⟩ := Asked.askAll hstart qs _ (asked_new hstart)
    hqs
  obtain ⟨m₁, a₁, hask₁, -, ha₁⟩ := hasked.ask hstart q hq
  obtain ⟨m₂, a₂, hask₂, -, ha₂⟩ := (asked_new hstart).ask hstart q hq
  refine ⟨m, p.answer q, hall, ?_, ?_⟩
  · rw [hask₁, ha₁ hne]
    rfl
  · rw [hask₂, ha₂ hne]
    rfl

end PfParameter

end Freeciv3d.Server
