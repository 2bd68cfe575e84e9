/-
Search for least costs, where a step does not add to the cost but makes a
new total of the old one.

# Steps

A step may cost more or less after another way to its start, but not turn
the order round: to come cheaper to its start is to come no dearer to its
end (`mono`), and no total gets smaller (`grow`). That is all that the
search needs.

# The search

Nodes are settled one by one, with their least totals, and the nodes next
to them wait in the fringe with the best totals found so far. `Searching`
is what holds at any time; one settled node may still have to pass its
steps on.
-/
import Mathlib.Logic.Function.Basic
import Mathlib.Order.Lattice

namespace Lib

open Function

/-- From a node, reached at a total, to another: the total there. -/
structure Steps (V : Type) where
  next : V → Int → V → Option Int
  grow : ∀ {u a v b}, next u a v = some b → a ≤ b
  mono : ∀ {u a a' v b'}, a ≤ a' → next u a' v = some b' →
    ∃ b, next u a v = some b ∧ b ≤ b'

namespace Steps

variable {V : Type} (G : Steps V) (s : V) (c₀ : Int)

/-- Some sequence of steps from the start leads to a node at a total. -/
inductive Leads : V → Int → Prop where
  | start : Leads s c₀
  | step {u v : V} {a b : Int} (before : Leads u a)
      (next : G.next u a v = some b) : Leads v b

/-- The least total at which a node can be reached. -/
def Least (v : V) (a : Int) : Prop :=
  G.Leads s c₀ v a ∧ ∀ b, G.Leads s c₀ v b → a ≤ b

theorem Least.unique {v : V} {a b : Int} (ha : G.Least s c₀ v a)
    (hb : G.Least s c₀ v b) : a = b :=
  Int.le_antisymm (ha.2 b hb.1) (hb.2 a ha.1)

/-- What holds of the settled nodes and the fringe, when all settled nodes
but the last have passed on their steps, or all have. -/
structure Searching (settled fringe : V → Option Int) (last : Option V) :
    Prop where
  start : settled s = some c₀
  apart : ∀ v a, settled v = some a → fringe v = none
  least : ∀ v a, settled v = some a → G.Least s c₀ v a
  leads : ∀ v a, fringe v = some a → G.Leads s c₀ v a
  order : ∀ u a v b, settled u = some a → fringe v = some b → a ≤ b
  passed : ∀ u a v b, settled u = some a → last ≠ some u →
    G.next u a v = some b →
      (∃ b', settled v = some b' ∧ b' ≤ b)
        ∨ ∃ b', fringe v = some b' ∧ b' ≤ b
  greatest : ∀ u a, last = some u → settled u = some a →
    ∀ v b, settled v = some b → b ≤ a

namespace Searching

variable {G s c₀} {settled fringe : V → Option Int}

/-- At the start, only the start is settled. -/
theorem init [DecidableEq V] :
    G.Searching s c₀ (update (fun _ => none) s (some c₀)) (fun _ => none)
      (some s) := by
  have honly : ∀ v a, update (fun _ : V => (none : Option Int)) s (some c₀)
      v = some a → v = s ∧ a = c₀ := by
    intro v a h
    by_cases hv : v = s
    · rw [hv, update_self] at h
      exact ⟨hv, (Option.some.inj h).symm⟩
    · rw [update_of_ne hv] at h
      cases h
  have hleast : ∀ v b, G.Leads s c₀ v b → c₀ ≤ b := by
    intro v b h
    induction h with
    | start => exact Int.le_refl c₀
    | step before next ih => exact Int.le_trans ih (G.grow next)
  refine
    { start := update_self _ _ _
      apart := fun _ _ _ => rfl
      least := fun v a h => ?_
      leads := nofun
      order := nofun
      passed := fun u a v b h hlast => ?_
      greatest := fun u a _ h v b h' => ?_ }
  · obtain ⟨rfl, rfl⟩ := honly v a h
    exact ⟨.start, fun b hb => hleast v b hb⟩
  · exact absurd (congrArg some (honly u a h).1.symm) hlast
  · rw [(honly u a h).2, (honly v b h').2]

/-- Any node that can be reached is settled at no more, or something in
the fringe costs no more. -/
theorem reach (h : G.Searching s c₀ settled fringe none) {v : V} {b : Int}
    (hv : G.Leads s c₀ v b) :
    (∃ a, settled v = some a ∧ a ≤ b)
      ∨ ∃ w a, fringe w = some a ∧ a ≤ b := by
  induction hv with
  | start => exact Or.inl ⟨c₀, h.start, Int.le_refl c₀⟩
  | step before next ih =>
    rcases ih with ⟨a', hu, hle⟩ | ⟨w, a', hw, hle⟩
    · obtain ⟨b', hnext, hb'⟩ := G.mono hle next
      rcases h.passed _ a' _ b' hu nofun hnext with
        ⟨c, hc, hle'⟩ | ⟨c, hc, hle'⟩
      · exact Or.inl ⟨c, hc, Int.le_trans hle' hb'⟩
      · exact Or.inr ⟨_, c, hc, Int.le_trans hle' hb'⟩
    · exact Or.inr ⟨w, a', hw, Int.le_trans hle (G.grow next)⟩

/-- With nothing in the fringe, all that can be reached is settled. -/
theorem settled_of_leads (h : G.Searching s c₀ settled fringe none)
    (hempty : ∀ v, fringe v = none) {v : V} {b : Int}
    (hv : G.Leads s c₀ v b) : ∃ a, settled v = some a := by
  rcases h.reach hv with ⟨a, ha, -⟩ | ⟨w, a, hw, -⟩
  · exact ⟨a, ha⟩
  · rw [hempty w] at hw
    cases hw

/-- What is not settled yet costs no less than what was settled last. -/
theorem beyond {u : V} {a : Int}
    (h : G.Searching s c₀ settled fringe (some u)) (hu : settled u = some a)
    {v : V} {c : Int} (hv : G.Leads s c₀ v c) :
    (∃ a', settled v = some a' ∧ a' ≤ c) ∨ a ≤ c := by
  induction hv with
  | start => exact Or.inl ⟨c₀, h.start, Int.le_refl c₀⟩
  | @step x v b c before next ih =>
    rcases ih with ⟨a', hx, hle⟩ | hle
    · obtain ⟨c', hnext, hc'⟩ := G.mono hle next
      by_cases hxu : x = u
      · rw [hxu, hu] at hx
        cases hx
        exact Or.inr (Int.le_trans (G.grow hnext) hc')
      · rcases h.passed x a' v c' hx
          (fun heq => hxu (Option.some.inj heq).symm) hnext with
          ⟨b', hb', hle'⟩ | ⟨b', hb', hle'⟩
        · exact Or.inl ⟨b', hb', Int.le_trans hle' hc'⟩
        · exact Or.inr (Int.le_trans (h.order u a v b' hu hb')
            (Int.le_trans hle' hc'))
    · exact Or.inr (Int.le_trans hle (G.grow next))

/-- A node that costs least in the fringe is settled. -/
theorem settle [DecidableEq V]
    (h : G.Searching s c₀ settled fringe none) {w : V} {c : Int}
    (hw : fringe w = some c) (hmin : ∀ v a, fringe v = some a → c ≤ a) :
    G.Searching s c₀ (update settled w (some c)) (update fringe w none)
      (some w) := by
  have hnew : settled w = none := by
    cases hset : settled w with
    | none => rfl
    | some a =>
      rw [h.apart w a hset] at hw
      cases hw
  have hne : ∀ v a, settled v = some a → v ≠ w := by
    rintro v a hv rfl
    rw [hnew] at hv
    cases hv
  have hleast : G.Least s c₀ w c := by
    refine ⟨h.leads w c hw, fun b hb => ?_⟩
    rcases h.reach hb with ⟨a, ha, -⟩ | ⟨v, a, hv, hle⟩
    · exact absurd rfl (hne w a ha)
    · exact Int.le_trans (hmin v a hv) hle
  have hsettled : ∀ v a, update settled w (some c) v = some a →
      (v = w ∧ a = c) ∨ settled v = some a := by
    intro v a hv
    by_cases hvw : v = w
    · rw [hvw, update_self] at hv
      exact Or.inl ⟨hvw, (Option.some.inj hv).symm⟩
    · rw [update_of_ne hvw] at hv
      exact Or.inr hv
  have hfringe : ∀ v a, update fringe w none v = some a →
      fringe v = some a := by
    intro v a hv
    by_cases hvw : v = w
    · rw [hvw, update_self] at hv
      cases hv
    · rw [update_of_ne hvw] at hv
      exact hv
  refine
    { start := ?_
      apart := fun v a hv => ?_
      least := fun v a hv => ?_
      leads := fun v a hv => h.leads v a (hfringe v a hv)
      order := fun u a v b hu hv => ?_
      passed := fun u a v b hu hlast hnext => ?_
      greatest := fun u a hlast hu v b hv => ?_ }
  · rw [update_of_ne (hne s c₀ h.start)]
    exact h.start
  · by_cases hvw : v = w
    · rw [hvw, update_self]
    · rw [update_of_ne hvw]
      rw [update_of_ne hvw] at hv
      exact h.apart v a hv
  · rcases hsettled v a hv with ⟨rfl, rfl⟩ | hold
    · exact hleast
    · exact h.least v a hold
  · rcases hsettled u a hu with ⟨rfl, rfl⟩ | hold
    · exact hmin v b (hfringe v b hv)
    · exact h.order u a v b hold (hfringe v b hv)
  · rcases hsettled u a hu with ⟨rfl, rfl⟩ | hold
    · exact absurd rfl hlast
    · rcases h.passed u a v b hold nofun hnext with
        ⟨b', hb', hle⟩ | ⟨b', hb', hle⟩
      · refine Or.inl ⟨b', ?_, hle⟩
        rw [update_of_ne (hne v b' hb')]
        exact hb'
      · by_cases hvw : v = w
        · rw [hvw, hw] at hb'
          cases hb'
          exact Or.inl ⟨c, hvw ▸ update_self _ _ _, hle⟩
        · refine Or.inr ⟨b', ?_, hle⟩
          rw [update_of_ne hvw]
          exact hb'
  · cases hlast
    have hc : a = c := by
      rw [update_self] at hu
      exact (Option.some.inj hu).symm
    rcases hsettled v b hv with ⟨-, rfl⟩ | hold
    · exact Int.le_of_eq hc.symm
    · exact hc ▸ h.order v b w c hold hw

/-- The last settled node passes its steps on to the fringe. -/
theorem pass {u : V} {a : Int} {fringe' : V → Option Int}
    (h : G.Searching s c₀ settled fringe (some u)) (hu : settled u = some a)
    (hapart : ∀ v b, settled v = some b → fringe' v = none)
    (hfrom : ∀ v b, fringe' v = some b →
      fringe v = some b ∨ G.next u a v = some b)
    (hkeep : ∀ v b, fringe v = some b →
      ∃ b', fringe' v = some b' ∧ b' ≤ b)
    (hnew : ∀ v b, settled v = none → G.next u a v = some b →
      ∃ b', fringe' v = some b' ∧ b' ≤ b) :
    G.Searching s c₀ settled fringe' none := by
  have hleads := (h.least u a hu).1
  refine
    { start := h.start
      apart := hapart
      least := h.least
      leads := fun v b hv => ?_
      order := fun x c v b hx hv => ?_
      passed := fun x c v b hx _ hnext => ?_
      greatest := nofun }
  · rcases hfrom v b hv with hold | hnext
    · exact h.leads v b hold
    · exact .step hleads hnext
  · rcases hfrom v b hv with hold | hnext
    · exact h.order x c v b hx hold
    · exact Int.le_trans (h.greatest u a rfl hu x c hx) (G.grow hnext)
  · by_cases hxu : x = u
    · rw [hxu, hu] at hx
      cases hx
      rw [hxu] at hnext
      cases hv : settled v with
      | none => exact Or.inr (hnew v b hv hnext)
      | some b' => exact Or.inl ⟨b', rfl, (h.least v b' hv).2 b
          (.step hleads hnext)⟩
    · rcases h.passed x c v b hx (fun heq => hxu (Option.some.inj heq).symm)
        hnext with hset | ⟨b', hb', hle⟩
      · exact Or.inl hset
      · obtain ⟨b'', hb'', hle'⟩ := hkeep v b' hb'
        exact Or.inr ⟨b'', hb'', Int.le_trans hle' hle⟩

end Searching

-- ==== one node after the other

/-- The better of the total recorded for a node and that of a step. -/
def relaxed (recorded new : Option Int) : Option Int :=
  match recorded, new with
  | old, none => old
  | none, some b => some b
  | some c, some b => if b < c then some b else some c

/-- Relaxing one node, unless it is settled. -/
def relax [DecidableEq V] (settled : V → Bool) (new fringe : V → Option Int)
    (v : V) : V → Option Int :=
  if settled v then fringe
  else update fringe v (relaxed (fringe v) (new v))

/-- The fringe after the steps to some nodes, to which `new` gives their
totals. -/
structure Passes (settled : V → Bool) (new fringe fringe' : V → Option Int)
    (nodes : List V) : Prop where
  source : ∀ v b, fringe' v = some b →
    fringe v = some b ∨ (settled v = false ∧ new v = some b)
  keep : ∀ v b, fringe v = some b → ∃ b', fringe' v = some b' ∧ b' ≤ b
  reached : ∀ v ∈ nodes, ∀ b, settled v = false → new v = some b →
    ∃ b', fringe' v = some b' ∧ b' ≤ b

theorem relaxed_source {recorded new : Option Int} {b : Int}
    (h : relaxed recorded new = some b) :
    recorded = some b ∨ new = some b := by
  unfold relaxed at h
  cases new with
  | none => exact Or.inl h
  | some c =>
    cases recorded with
    | none => exact Or.inr h
    | some a =>
      dsimp only at h
      split at h
      · exact Or.inr h
      · exact Or.inl h

theorem relaxed_keep {recorded : Option Int} (new : Option Int) {a : Int}
    (h : recorded = some a) : ∃ b, relaxed recorded new = some b ∧ b ≤ a := by
  subst h
  unfold relaxed
  cases new with
  | none => exact ⟨a, rfl, Int.le_refl a⟩
  | some c =>
    by_cases hbetter : c < a
    · exact ⟨c, if_pos hbetter, Int.le_of_lt hbetter⟩
    · exact ⟨a, if_neg hbetter, Int.le_refl a⟩

theorem relaxed_reached (recorded : Option Int) {new : Option Int}
    {c : Int} (h : new = some c) :
    ∃ b, relaxed recorded new = some b ∧ b ≤ c := by
  subst h
  unfold relaxed
  cases recorded with
  | none => exact ⟨c, rfl, Int.le_refl c⟩
  | some a =>
    by_cases hbetter : c < a
    · exact ⟨c, if_pos hbetter, Int.le_refl c⟩
    · exact ⟨a, if_neg hbetter, Int.not_lt.mp hbetter⟩

namespace Passes

variable {settled : V → Bool} {new fringe fringe' : V → Option Int}

theorem nil : Passes settled new fringe fringe [] where
  source _ _ h := Or.inl h
  keep _ b h := ⟨b, h, Int.le_refl b⟩
  reached := nofun

theorem cons [DecidableEq V] {v : V} {nodes : List V}
    (h : Passes settled new (relax settled new fringe v) fringe' nodes) :
    Passes settled new fringe fringe' (v :: nodes) := by
  unfold relax at h
  cases hv : settled v with
  | true =>
    rw [if_pos hv] at h
    refine ⟨h.source, h.keep, fun x hx b hset hnew => ?_⟩
    rcases List.mem_cons.mp hx with rfl | hx
    · rw [hv] at hset
      cases hset
    · exact h.reached x hx b hset hnew
  | false =>
    rw [if_neg (by rw [hv]; exact Bool.false_ne_true)] at h
    refine ⟨fun x b hx => ?_, fun x b hx => ?_,
      fun x hx b hset hnew => ?_⟩
    · rcases h.source x b hx with hold | hnew
      · by_cases hxv : x = v
        · rw [hxv, update_self] at hold
          rw [hxv]
          exact (relaxed_source hold).imp id (⟨hv, ·⟩)
        · rw [update_of_ne hxv] at hold
          exact Or.inl hold
      · exact Or.inr hnew
    · by_cases hxv : x = v
      · rw [hxv] at hx ⊢
        obtain ⟨c, hc, hle⟩ := relaxed_keep (new v) hx
        obtain ⟨b', hb', hle'⟩ := h.keep v c (by rw [update_self, hc])
        exact ⟨b', hb', Int.le_trans hle' hle⟩
      · exact h.keep x b (by rw [update_of_ne hxv, hx])
    · rcases List.mem_cons.mp hx with rfl | hx
      · obtain ⟨c, hc, hle⟩ := relaxed_reached (fringe x) hnew
        obtain ⟨b', hb', hle'⟩ := h.keep x c (by rw [update_self, hc])
        exact ⟨b', hb', Int.le_trans hle' hle⟩
      · exact h.reached x hx b hset hnew

end Passes

variable {G s c₀}

/-- The last settled node passes on its steps to all nodes that they lead
to. -/
theorem Searching.pass_all {settled fringe fringe' : V → Option Int}
    {u : V} {a : Int} {nodes : List V}
    (h : G.Searching s c₀ settled fringe (some u)) (hu : settled u = some a)
    (hnodes : ∀ v b, G.next u a v = some b → v ∈ nodes)
    (hpasses : Passes (fun v => (settled v).isSome) (G.next u a) fringe
      fringe' nodes) :
    G.Searching s c₀ settled fringe' none := by
  refine h.pass hu (fun v b hv => ?_)
    (fun v b hv => (hpasses.source v b hv).imp id And.right) hpasses.keep
    fun v b hv hnext => hpasses.reached v (hnodes v b hnext) b
      (by rw [hv]; rfl) hnext
  cases hfringe : fringe' v with
  | none => rfl
  | some c =>
    rcases hpasses.source v c hfringe with hold | ⟨hnot, -⟩
    · rw [h.apart v b hv] at hold
      cases hold
    · rw [hv] at hnot
      cases hnot

end Steps

end Lib
