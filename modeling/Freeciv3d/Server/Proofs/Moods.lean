/-
What the loops of the moods do, in closed form.

# Moves

A loop moves as many citizens as there are, or as the budget pays for. No
counter wraps as long as all citizens together fit into one, which they do:
their number never changes.

# Levels

Each level's loops together are then a few minima of counters and budgets,
on which the results about moods rest.
-/
import Freeciv3d.Server.CityMoods

namespace Freeciv3d.Server

open Function

namespace Feel

def moved (f : Feel) (src dst : CitizenCategory) (k : Nat) : Feel :=
  update (update f src (f src - k)) dst (f dst + k)

def total (f : Feel) : Nat :=
  f .happy + f .content + f .unhappy + f .angry

variable {f : Feel} {src dst : CitizenCategory}

theorem citizens_of_le {n : Nat} (h : n ≤ 255) : citizens n = n := by
  unfold citizens
  omega

theorem pair_le_total (f : Feel) (hne : src ≠ dst) :
    f src + f dst ≤ f.total := by
  unfold total
  cases src <;> cases dst <;> first | omega | exact absurd rfl hne

theorem total_moved (hne : src ≠ dst) {k : Nat} (hk : k ≤ f src) :
    (f.moved src dst k).total = f.total := by
  unfold total moved
  cases src <;> cases dst <;> simp at hne ⊢ <;> omega

theorem moved_zero (f : Feel) : f.moved src dst 0 = f := by
  unfold moved
  rw [Nat.sub_zero, update_eq_self, Nat.add_zero, update_eq_self]

theorem move_eq (hne : src ≠ dst) (hpos : 0 < f src)
    (hfits : f.total ≤ 255) : f.move src dst = f.moved src dst 1 := by
  have hpair := f.pair_le_total hne
  have hsrc : citizens ((f src : Int) - 1) = f src - 1 := by
    unfold citizens
    omega
  have hdst : citizens ((f dst : Int) + 1) = f dst + 1 := by
    unfold citizens
    omega
  unfold move moved
  simp only [update_of_ne hne.symm, hsrc, hdst]

theorem moved_moved (hne : src ≠ dst) (k : Nat) :
    (f.moved src dst 1).moved src dst k = f.moved src dst (k + 1) := by
  funext x
  unfold moved
  by_cases hdst : x = dst
  · subst hdst
    simp only [update_self]
    omega
  · by_cases hsrc : x = src
    · subst hsrc
      simp only [update_of_ne hne, update_self]
      omega
    · simp only [update_of_ne hdst, update_of_ne hsrc]

/-- A loop moves as many citizens as there are, or as the budget pays
for. -/
theorem moveLoop_eq (hne : src ≠ dst) {cost : Nat} (hcost : 0 < cost)
    (left : Nat) : ∀ (f : Feel) (budget : Int), left ≤ f src →
      f.total ≤ 255 →
        let k := min left (budget.toNat / cost)
        moveLoop src dst cost left f budget
          = (f.moved src dst k, budget - cost * k) := by
  induction left with
  | zero =>
    intro f budget _ _
    dsimp only
    rw [Nat.zero_min, moved_zero]
    simp [moveLoop]
  | succ left ih =>
    intro f budget hleft hfits
    unfold moveLoop
    by_cases hpays : budget ≥ cost
    · have hstep : budget.toNat / cost
          = (budget - cost).toNat / cost + 1 := by
        rw [← Nat.add_div_right _ hcost]
        congr 1
        omega
      have hsrc : (f.moved src dst 1) src = f src - 1 := by
        unfold moved
        rw [update_of_ne hne, update_self]
      have hloop := ih (f.moved src dst 1) (budget - cost)
        (by rw [hsrc]; omega)
        (by rw [total_moved hne (by omega)]; exact hfits)
      rw [if_pos hpays, move_eq hne (by omega) hfits, hloop, hstep]
      dsimp only
      rw [moved_moved hne, Nat.add_min_add_right]
      congr 1
      rw [Int.natCast_add, Int.mul_add]
      omega
    · have hnone : budget.toNat / cost = 0 :=
        Nat.div_eq_of_lt (by omega)
      rw [if_neg hpays, hnone, Nat.min_zero]
      dsimp only
      rw [moved_zero]
      simp

theorem moveWhile_eq (hne : src ≠ dst) {cost : Nat} (hcost : 0 < cost)
    (hfits : f.total ≤ 255) {budget : Int} {k : Nat}
    (hk : min (f src) (budget.toNat / cost) = k) :
    f.moveWhile src dst cost budget
      = (f.moved src dst k, budget - cost * k) := by
  subst hk
  exact moveLoop_eq hne hcost _ f budget (Nat.le_refl _) hfits

theorem moveWhile_one (hne : src ≠ dst) (hfits : f.total ≤ 255)
    {budget : Int} {k : Nat} (hk : min (f src) budget.toNat = k) :
    f.moveWhile src dst 1 budget = (f.moved src dst k, budget - k) := by
  have h : f.moveWhile src dst (1 : Nat) budget
      = (f.moved src dst k, budget - (1 : Nat) * k) :=
    moveWhile_eq hne Nat.one_pos hfits (by rw [Nat.div_one]; exact hk)
  simpa using h

theorem moveWhile_two (hne : src ≠ dst) (hfits : f.total ≤ 255)
    {budget : Int} {k : Nat} (hk : min (f src) (budget.toNat / 2) = k) :
    f.moveWhile src dst 2 budget = (f.moved src dst k, budget - 2 * k) :=
  moveWhile_eq hne Nat.two_pos hfits hk

/-- What moves for nothing does so as long as nothing is owed. -/
theorem moveLoop_free (hne : src ≠ dst) {budget : Int} (hpays : budget ≥ 0)
    (left : Nat) : ∀ f : Feel, left ≤ f src → f.total ≤ 255 →
      moveLoop src dst 0 left f budget = (f.moved src dst left, budget) := by
  induction left with
  | zero =>
    intro f _ _
    rw [moved_zero]
    rfl
  | succ left ih =>
    intro f hleft hfits
    have hsrc : (f.moved src dst 1) src = f src - 1 := by
      unfold moved
      rw [update_of_ne hne, update_self]
    unfold moveLoop
    rw [if_pos hpays, move_eq hne (by omega) hfits, Int.sub_zero,
      ih _ (by rw [hsrc]; omega)
        (by rw [total_moved hne (by omega)]; exact hfits), moved_moved hne]

end Feel

namespace CityMoods

open Feel

variable {c : CityMoods} {f : Feel}

-- ==== closed forms

theorem pacify_eq (hfits : f.total ≤ 255) {faces : Int} {k₁ k₂ : Nat}
    (hk₁ : min (f .angry) faces.toNat = k₁)
    (hk₂ : min (f .unhappy + k₁) (faces.toNat - k₁) = k₂) :
    pacify f faces
      = (f.moved .angry .unhappy k₁).moved .unhappy .content k₂ := by
  have hfits₁ : (f.moved .angry .unhappy k₁).total ≤ 255 := by
    rw [total_moved (by decide) (by omega)]
    exact hfits
  have hsecond : min ((f.moved .angry .unhappy k₁) .unhappy)
      (faces - k₁).toNat = k₂ := by
    simp [moved]
    omega
  unfold pacify
  rw [moveWhile_one (by decide) hfits hk₁]
  dsimp only
  rw [moveWhile_one (by decide) hfits₁ hsecond]

theorem upset_eq (hfits : f.total ≤ 255) {amt : Int} {k₁ k₂ k₃ : Nat}
    (hk₁ : min (f .content) amt.toNat = k₁)
    (hk₂ : min (f .happy) ((amt.toNat - k₁) / 2) = k₂)
    (hk₃ : min (f .happy - k₂) (amt.toNat - k₁ - 2 * k₂) = k₃) :
    upset f amt
      = ((f.moved .content .unhappy k₁).moved .happy .unhappy k₂).moved
        .happy .content k₃ := by
  have hle₁ : k₁ ≤ f .content := hk₁ ▸ Nat.min_le_left _ _
  have hle₂ : k₂ ≤ f .happy := hk₂ ▸ Nat.min_le_left _ _
  have hrest : (amt - k₁ - 2 * k₂).toNat = amt.toNat - k₁ - 2 * k₂ := by
    clear hk₁ hk₂ hk₃
    omega
  have hfits₁ : (f.moved .content .unhappy k₁).total ≤ 255 := by
    rw [total_moved (by decide) hle₁]
    exact hfits
  have hsecond : min ((f.moved .content .unhappy k₁) .happy)
      ((amt - k₁).toNat / 2) = k₂ := by
    simpa [moved] using hk₂
  have hfits₂ : ((f.moved .content .unhappy k₁).moved .happy .unhappy
      k₂).total ≤ 255 := by
    rw [total_moved (by decide) (by simpa [moved] using hle₂)]
    exact hfits₁
  have hthird : min (((f.moved .content .unhappy k₁).moved .happy .unhappy
      k₂) .happy) (amt - k₁ - 2 * k₂).toNat = k₃ := by
    simpa [moved, hrest] using hk₃
  unfold upset
  rw [moveWhile_one (by decide) hfits hk₁]
  dsimp only
  rw [moveWhile_two (by decide) hfits₁ hsecond]
  dsimp only
  rw [moveWhile_one (by decide) hfits₂ hthird]

/-- The luxury suffices for so many points of its cost. -/
def Worth (happyCost : Nat) (luxury : Int) (points : Nat) : Prop :=
  happyCost = 0 ∧ luxury ≥ 0 ∧ 510 ≤ points
    ∨ happyCost = 0 ∧ luxury < 0 ∧ points = 0
    ∨ 0 < happyCost ∧ luxury.toNat / happyCost = points

theorem moveWhile_points (src dst : CitizenCategory) (hne : src ≠ dst)
    (hfits : f.total ≤ 255) {each : Nat} (heach : each = 1 ∨ each = 2)
    {happyCost points k : Nat} {luxury : Int}
    (hworth : Worth happyCost luxury points)
    (hk : min (f src) (points / each) = k) :
    f.moveWhile src dst (each * happyCost : Nat) luxury
      = (f.moved src dst k, luxury - (each * happyCost : Nat) * k) := by
  have hpair := f.pair_le_total hne
  rcases hworth with ⟨rfl, hpays, hmany⟩ | ⟨rfl, howes, rfl⟩ |
    ⟨hcost, rfl⟩
  · have hk : f src = k := by
      rcases heach with rfl | rfl <;> omega
    subst hk
    unfold moveWhile
    simpa using moveLoop_free hne hpays (f src) f (Nat.le_refl _) hfits
  · have hk : k = 0 := by
      rw [Nat.zero_div] at hk
      omega
    subst hk
    unfold moveWhile
    cases hsrc : f src with
    | zero => simp [moveLoop, moved_zero]
    | succ left =>
      unfold moveLoop
      rw [if_neg (by simp; omega), moved_zero]
      simp
  · have hpos : 0 < each := by omega
    exact moveWhile_eq hne (Nat.mul_pos hpos hcost) hfits (by
      rw [Nat.mul_comm, ← Nat.div_div_eq_div_mul]
      exact hk)

theorem Worth.spend {happyCost points k : Nat} {luxury : Int}
    (h : Worth happyCost luxury points) (hk : k ≤ points)
    (hmany : 510 ≤ points → 510 ≤ points - k ∨ 0 < happyCost) :
    Worth happyCost (luxury - happyCost * k) (points - k) := by
  rcases h with ⟨rfl, hpays, hpoints⟩ | ⟨rfl, howes, rfl⟩ | ⟨hcost, rfl⟩
  · exact Or.inl ⟨rfl, by simpa using hpays,
      (hmany hpoints).resolve_right (Nat.lt_irrefl 0)⟩
  · exact Or.inr (Or.inl ⟨rfl, by simpa using howes, Nat.zero_sub _⟩)
  · have hle : happyCost * k ≤ luxury.toNat := by
      rw [Nat.mul_comm]
      exact (Nat.le_div_iff_mul_le hcost).mp hk
    have hsub : (luxury - happyCost * k).toNat
        = luxury.toNat - happyCost * k := by
      have hcast : ((happyCost * k : Nat) : Int) = happyCost * k :=
        Int.natCast_mul _ _
      omega
    refine Or.inr (Or.inr ⟨hcost, ?_⟩)
    rw [hsub, Nat.sub_mul_div]

theorem Worth.last {happyCost points n k : Nat} {luxury : Int}
    (h : Worth happyCost luxury points) (hn : n ≤ 255)
    (hk : min n (points / 2) = k) :
    luxury - 2 * happyCost * k ≥ happyCost ∧ n - k > 0
      ↔ min (n - k) (min 1 (points - 2 * k)) = 1 := by
  rcases h with ⟨rfl, hpays, hpoints⟩ | ⟨rfl, howes, rfl⟩ | ⟨hcost, rfl⟩
  · omega
  · simp
    omega
  · have hmore := Nat.le_div_iff_mul_le hcost (x := 2 * k + 1)
      (y := luxury.toNat)
    have hcast : (((2 * k + 1) * happyCost : Nat) : Int)
        = 2 * happyCost * k + happyCost := by
      push_cast
      rw [Int.add_mul, Int.one_mul, Int.mul_right_comm]
    have hpos : 0 < (2 * k + 1) * happyCost :=
      Nat.mul_pos (Nat.succ_pos _) hcost
    generalize (2 * k + 1) * happyCost = paid at hmore hcast hpos
    generalize luxury.toNat / happyCost = points at hk hmore ⊢
    have hpays : 2 * k + 1 ≤ points
        ↔ luxury - 2 * happyCost * k ≥ happyCost :=
      hmore.trans (by omega)
    constructor
    · intro h
      have := hpays.mpr h.1
      omega
    · intro h
      exact ⟨hpays.mp (by omega), by omega⟩

/-- The points that luxury buys; 1020 are more than any city can use. -/
def luxuryPoints (happyCost : Nat) (luxury : Int) : Nat :=
  if happyCost = 0 then if luxury ≥ 0 then 1020 else 0
  else luxury.toNat / happyCost

theorem worth_luxuryPoints (happyCost : Nat) (luxury : Int) :
    Worth happyCost luxury (luxuryPoints happyCost luxury)
      ∧ (0 < happyCost ∨ luxuryPoints happyCost luxury = 1020
        ∨ luxuryPoints happyCost luxury = 0) := by
  unfold Worth luxuryPoints
  by_cases hcost : happyCost = 0
  · by_cases hpays : luxury ≥ 0
    · simp [hcost, hpays]
    · simp [hcost, hpays]
      omega
  · have hpos : 0 < happyCost := by omega
    simp [hcost, hpos]

theorem citizenLuxuryHappy_eq (hfits : f.total ≤ 255) {luxury : Int}
    {points k₁ k₂ k₃ k₄ : Nat}
    (hpoints : luxuryPoints c.happyCost luxury = points)
    (hk₁ : min (f .angry) points = k₁)
    (hk₂ : min (f .content) (points - k₁) = k₂)
    (hk₃ : min (f .unhappy + k₁) ((points - k₁ - k₂) / 2) = k₃)
    (hk₄ : min (f .unhappy + k₁ - k₃)
      (min 1 (points - k₁ - k₂ - 2 * k₃)) = k₄) :
    c.citizenLuxuryHappy f luxury
      = (((f.moved .angry .unhappy k₁).moved .content .happy k₂).moved
        .unhappy .happy k₃).moved .unhappy .content k₄ := by
  obtain ⟨hworth, hall⟩ := worth_luxuryPoints c.happyCost luxury
  rw [hpoints] at hworth hall
  have hle₁ : k₁ ≤ f .angry ∧ k₁ ≤ points :=
    hk₁ ▸ ⟨Nat.min_le_left _ _, Nat.min_le_right _ _⟩
  have hle₂ : k₂ ≤ f .content ∧ k₂ ≤ points - k₁ :=
    hk₂ ▸ ⟨Nat.min_le_left _ _, Nat.min_le_right _ _⟩
  have hle₃ : k₃ ≤ f .unhappy + k₁ := hk₃ ▸ Nat.min_le_left _ _
  have hle₄ : k₄ ≤ 1 :=
    hk₄ ▸ Nat.le_trans (Nat.min_le_right _ _) (Nat.min_le_left _ _)
  have hmany₁ : 510 ≤ points → 510 ≤ points - k₁ ∨ 0 < c.happyCost := by
    clear hk₁ hk₂ hk₃ hk₄
    unfold total at hfits
    omega
  have hmany₂ : 510 ≤ points - k₁
      → 510 ≤ points - k₁ - k₂ ∨ 0 < c.happyCost := by
    clear hk₁ hk₂ hk₃ hk₄
    unfold total at hfits
    omega
  have hfits₁ : (f.moved .angry .unhappy k₁).total ≤ 255 := by
    rw [total_moved (by decide) hle₁.1]
    exact hfits
  have hcontent : (f.moved .angry .unhappy k₁) .content = f .content := by
    simp [moved]
  have hfits₂ : ((f.moved .angry .unhappy k₁).moved .content .happy
      k₂).total ≤ 255 := by
    rw [total_moved (by decide) (by rw [hcontent]; exact hle₂.1)]
    exact hfits₁
  have hunhappy : ((f.moved .angry .unhappy k₁).moved .content .happy
      k₂) .unhappy = f .unhappy + k₁ := by
    simp [moved]
  have hfits₃ : (((f.moved .angry .unhappy k₁).moved .content .happy
      k₂).moved .unhappy .happy k₃).total ≤ 255 := by
    rw [total_moved (by decide) (by rw [hunhappy]; exact hle₃)]
    exact hfits₂
  have h₁ : f.moveWhile .angry .unhappy c.happyCost luxury
      = (f.moved .angry .unhappy k₁, luxury - c.happyCost * k₁) := by
    simpa using moveWhile_points .angry .unhappy (by decide) hfits
      (Or.inl rfl) hworth (by simpa using hk₁)
  have hworth₁ := hworth.spend (k := k₁) hle₁.2 hmany₁
  have h₂ := moveWhile_points .content .happy (by decide) hfits₁
    (Or.inl rfl) hworth₁ (k := k₂) (by simpa [hcontent] using hk₂)
  have hworth₂ := hworth₁.spend (k := k₂) hle₂.2 hmany₂
  have h₃ := moveWhile_points .unhappy .happy (by decide) hfits₂
    (Or.inr rfl) hworth₂ (k := k₃) (by simpa [hunhappy] using hk₃)
  have hfew : f .unhappy + k₁ ≤ 255 := by
    rw [← hunhappy]
    have hpair := pair_le_total ((f.moved .angry .unhappy k₁).moved .content
      .happy k₂) (show CitizenCategory.unhappy ≠ .happy by decide)
    exact Nat.le_trans (Nat.le_add_right _ _) (Nat.le_trans hpair hfits₂)
  have hlast := hworth₂.last (n := f .unhappy + k₁) (k := k₃) hfew hk₃
  have hleft : (((f.moved .angry .unhappy k₁).moved .content .happy
      k₂).moved .unhappy .happy k₃) .unhappy = f .unhappy + k₁ - k₃ := by
    simp [moved]
  unfold citizenLuxuryHappy
  rw [h₁]
  dsimp only
  simp only [Nat.one_mul] at h₂
  rw [h₂]
  dsimp only
  push_cast at h₃
  rw [h₃]
  dsimp only
  -- whether a last unhappy citizen is paid for
  by_cases hone : k₄ = 1
  · have hpaid := hlast.mpr (hk₄.trans hone)
    rw [← hleft] at hpaid
    rw [if_pos hpaid, hone, move_eq (by decide) hpaid.2 hfits₃]
  · have hzero : k₄ = 0 :=
      Nat.lt_one_iff.mp (Nat.lt_of_le_of_ne hle₄ hone)
    rw [if_neg fun h => hone (hk₄.symm.trans (hlast.mp (hleft ▸ h))), hzero,
      moved_zero]

theorem citizenHappyWonders_start (hfits : f.total ≤ 255) {k₁ k₂ : Nat}
    (hk₁ : min (f .content) c.makeHappy.toNat = k₁)
    (hk₂ : min (f .unhappy) ((c.makeHappy.toNat - k₁) / 2) = k₂) :
    let moved := (f.moved .content .happy k₁).moved .unhappy .happy k₂
    c.citizenHappyWonders f
      = if c.noUnhappy > 0 then
          fun
            | .happy => moved .happy
            | .content =>
              citizens (moved .content + (moved .unhappy + moved .angry))
            | .unhappy => 0
            | .angry => 0
        else pacify moved
          (int32 (c.makeHappy - k₁ - 2 * k₂ + c.forceContent)) := by
  have hfits₁ : (f.moved .content .happy k₁).total ≤ 255 := by
    rw [total_moved (by decide) (by omega)]
    exact hfits
  have hsecond : min ((f.moved .content .happy k₁) .unhappy)
      ((c.makeHappy - k₁).toNat / 2) = k₂ := by
    simp [moved]
    omega
  unfold citizenHappyWonders
  rw [moveWhile_one (by decide) hfits hk₁]
  dsimp only
  rw [moveWhile_two (by decide) hfits₁ hsecond] <;> rfl

theorem citizenHappyWonders_none (hfits : f.total ≤ 255)
    (hnone : c.noUnhappy > 0) {k₁ k₂ : Nat}
    (hk₁ : min (f .content) c.makeHappy.toNat = k₁)
    (hk₂ : min (f .unhappy) ((c.makeHappy.toNat - k₁) / 2) = k₂) :
    c.citizenHappyWonders f .happy = f .happy + k₁ + k₂
      ∧ c.citizenHappyWonders f .content
        = f .content - k₁ + (f .unhappy - k₂ + f .angry)
      ∧ c.citizenHappyWonders f .unhappy = 0
      ∧ c.citizenHappyWonders f .angry = 0 := by
  have hall := hfits
  unfold total at hall
  have hcontent : citizens ((f .content - k₁ : Nat)
      + ((f .unhappy - k₂ : Nat) + (f .angry : Int)))
        = f .content - k₁ + (f .unhappy - k₂ + f .angry) :=
    citizens_of_le (n := f .content - k₁ + (f .unhappy - k₂ + f .angry))
      (by omega)
  rw [citizenHappyWonders_start hfits hk₁ hk₂, if_pos hnone]
  simp [moved]
  exact hcontent

-- ==== conservation

theorem total_pacify (hfits : f.total ≤ 255) (faces : Int) :
    (pacify f faces).total = f.total := by
  rw [pacify_eq hfits rfl rfl,
    total_moved (by decide) (by simp [moved] <;> omega),
    total_moved (by decide) (by omega)]

theorem total_upset (hfits : f.total ≤ 255) (amt : Int) :
    (upset f amt).total = f.total := by
  rw [upset_eq hfits rfl rfl rfl,
    total_moved (by decide) (by simp [moved] <;> omega),
    total_moved (by decide) (by simp [moved] <;> omega),
    total_moved (by decide) (by omega)]

theorem total_citizenLuxuryHappy (hfits : f.total ≤ 255) (luxury : Int) :
    (c.citizenLuxuryHappy f luxury).total = f.total := by
  rw [citizenLuxuryHappy_eq hfits rfl rfl rfl rfl rfl,
    total_moved (by decide) (by simp [moved] <;> omega),
    total_moved (by decide) (by simp [moved] <;> omega),
    total_moved (by decide) (by simp [moved] <;> omega),
    total_moved (by decide) (by omega)]

theorem total_citizenHappinessNationality (hfits : f.total ≤ 255) :
    (c.citizenHappinessNationality f).total = f.total := by
  unfold citizenHappinessNationality
  by_cases hunrest : c.citizenNationality ∧ c.enemyCitizenUnhappyPct > 0
  · rw [if_pos hunrest]
    exact total_upset hfits _
  · rw [if_neg hunrest]

theorem total_citizenHappyUnits (hfits : f.total ≤ 255) :
    (c.citizenHappyUnits f).total = f.total := by
  have hpacified := total_pacify hfits c.martialLaw
  unfold citizenHappyUnits
  rw [total_upset (by omega), hpacified]

theorem total_citizenContentBuildings (hfits : f.total ≤ 255) :
    (c.citizenContentBuildings f).total = f.total :=
  total_pacify hfits _

theorem total_citizenHappyWonders (hfits : f.total ≤ 255) :
    (c.citizenHappyWonders f).total = f.total := by
  generalize hk₁ : min (f .content) c.makeHappy.toNat = k₁
  generalize hk₂ : min (f .unhappy) ((c.makeHappy.toNat - k₁) / 2) = k₂
  have hmoved : ((f.moved .content .happy k₁).moved .unhappy .happy
      k₂).total = f.total := by
    rw [total_moved (by decide) (by simp [moved] <;> omega),
      total_moved (by decide) (by omega)]
  by_cases hnone : c.noUnhappy > 0
  · obtain ⟨hhappy, hall⟩ := citizenHappyWonders_none hfits hnone hk₁ hk₂
    unfold total at hmoved hfits ⊢
    omega
  · rw [citizenHappyWonders_start hfits hk₁ hk₂, if_neg hnone,
      total_pacify (by omega), hmoved]

theorem total_feel (hfits : c.citizenBaseMood.total ≤ 255) (luxury : Int)
    (i : CitizenFeeling) :
    (c.feel luxury i).total = c.citizenBaseMood.total := by
  have fits {n : Nat} (h : n = c.citizenBaseMood.total) : n ≤ 255 :=
    h ▸ hfits
  have hluxury : (c.feel luxury .luxury).total = c.citizenBaseMood.total :=
    total_citizenLuxuryHappy hfits luxury
  have heffect : (c.feel luxury .effect).total = c.citizenBaseMood.total :=
    (total_citizenContentBuildings (fits hluxury)).trans hluxury
  have hnationality :
      (c.feel luxury .nationality).total = c.citizenBaseMood.total :=
    (total_citizenHappinessNationality (fits heffect)).trans heffect
  have hmartial : (c.feel luxury .martial).total = c.citizenBaseMood.total :=
    (total_citizenHappyUnits (fits hnationality)).trans hnationality
  cases i with
  | base => rfl
  | luxury => exact hluxury
  | effect => exact heffect
  | nationality => exact hnationality
  | martial => exact hmartial
  | final =>
    exact (total_citizenHappyWonders (fits hmartial)).trans hmartial

/-- Specialists are counted, unless there are as many as citizens can be. -/
theorem citySpecialists_eq (specialists : List Nat) :
    ∀ count, count < 255 →
      citySpecialists count specialists
        = if count + specialists.sum < 255 then count + specialists.sum
          else 0 := by
  induction specialists with
  | nil =>
    intro count hcount
    simp [citySpecialists, hcount]
  | cons sp specialists ih =>
    intro count hcount
    unfold citySpecialists maxCitySize
    rw [List.sum_cons, ← Nat.add_assoc]
    by_cases hmore : ((255 : Nat) : Int) - count > sp
    · have hcounted : citizens (count + sp) = count + sp :=
        citizens_of_le (n := count + sp) (by omega)
      rw [if_pos hmore, hcounted, ih _ (by omega)]
    · rw [if_neg hmore, if_neg (by omega)]

theorem total_citizenBaseMood (hsize : c.size ≤ 255)
    (hspes : citySpecialists 0 c.specialists ≤ c.size) :
    c.citizenBaseMood.total
      = c.size - citySpecialists 0 c.specialists := by
  have hangry : c.playerAngryCitizens ≤ 255 := by
    unfold playerAngryCitizens citizens
    by_cases hnever : (!c.angrycitizen) = true
    · rw [if_pos hnever]
      omega
    · rw [if_neg hnever]
      omega
  have hunhappy : ∀ content angry : Nat,
      content + angry ≤ c.size - citySpecialists 0 c.specialists →
        0 + content + citizens ((c.size : Int)
          - citySpecialists 0 c.specialists - content - angry) + angry
          = c.size - citySpecialists 0 c.specialists := by
    intro content angry hle
    unfold citizens
    omega
  have hcontent : ∀ n : Nat, citizens (max 0 (min (c.size : Int) n
      - citySpecialists 0 c.specialists))
        ≤ c.size - citySpecialists 0 c.specialists := by
    intro n
    unfold citizens
    omega
  have hmany : citizens (min (c.playerAngryCitizens : Int)
      (c.size - citySpecialists 0 c.specialists))
        = min c.playerAngryCitizens
          (c.size - citySpecialists 0 c.specialists) := by
    unfold citizens
    omega
  unfold citizenBaseMood total
  dsimp only
  refine hunhappy _ _ ?_
  rw [hmany]
  by_cases heither : c.playerContentCitizens = 0 ∨ c.playerAngryCitizens = 0
  · rw [if_pos heither]
    rcases heither with hnone | hnone
    · have hnobody : citizens (max 0 (min (c.size : Int) (0 : Nat)
          - citySpecialists 0 c.specialists)) = 0 := by
        unfold citizens
        omega
      rw [hnone, hnobody, Nat.zero_add]
      exact Nat.min_le_right _ _
    · rw [hnone, Nat.zero_min]
      exact hcontent _
  · rw [if_neg heither, Nat.zero_add]
    exact Nat.min_le_right _ _

end CityMoods

end Freeciv3d.Server
