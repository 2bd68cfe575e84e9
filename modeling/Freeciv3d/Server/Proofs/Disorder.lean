/-
A city that is not in disorder does not fall into it by getting more
luxury, more content or happy effects, or fewer aggressive units.

# Order

One city's citizens are better off than another's if at least as many are
happy, at least as many are content or happy, and at most as many angry.
Luxury, pacifying and upsetting keep this order. Wonders need not, but they
keep it for what disorder is about.

# Aggressive units

The unhappiness that units cause is their sum less what is forgiven, as
long as it fits into its counter.
-/
import Freeciv3d.Server.Proofs.Moods

namespace Freeciv3d.Server

namespace CityMoods

open Feel

variable {c c' : CityMoods} {f g : Feel}

-- ==== the order

/-- As many citizens, at least as well off. -/
structure Better (f g : Feel) : Prop where
  total : g.total = f.total
  happy : f .happy ≤ g .happy
  content : f .happy + f .content ≤ g .happy + g .content
  angry : g .angry ≤ f .angry

theorem pacify_values (hfits : f.total ≤ 255) (faces : Int) :
    let g := pacify f faces
    g .happy = f .happy
      ∧ g .happy + g .content = f .happy + f .content
        + min (f .unhappy + f .angry) (faces.toNat - f .angry)
      ∧ g .angry = f .angry - faces.toNat := by
  generalize hk₁ : min (f .angry) faces.toNat = k₁
  generalize hk₂ : min (f .unhappy + k₁) (faces.toNat - k₁) = k₂
  rw [pacify_eq hfits hk₁ hk₂]
  simp [moved]
  omega

/-- What `upset` takes from the happy, and what is left of those and the
content. -/
theorem upset_minima (happy content amt : Nat) {k₁ k₂ k₃ : Nat}
    (hk₁ : min content amt = k₁) (hk₂ : min happy ((amt - k₁) / 2) = k₂)
    (hk₃ : min (happy - k₂) (amt - k₁ - 2 * k₂) = k₃) :
    happy - k₂ - k₃ = happy - (amt - content + 1) / 2
      ∧ happy - k₂ - k₃ + (content - k₁ + k₃)
        = max (happy + content - amt) (happy - (amt - content) / 2) := by
  have hrest : amt - k₁ = amt - content := by
    clear hk₂ hk₃
    omega
  have hleft : content - k₁ = content - amt := by
    clear hk₂ hk₃
    omega
  rw [hrest] at hk₂ hk₃
  rw [hleft]
  clear hk₁ hrest hleft
  generalize hrest : amt - content = rest at hk₂ hk₃ ⊢
  have hboth : k₂ + k₃ = min happy ((rest + 1) / 2) := by
    clear hrest
    omega
  clear hk₃
  constructor
  · clear hrest hk₂
    omega
  · by_cases hnone : rest = 0
    · omega
    · omega

theorem upset_values (hfits : f.total ≤ 255) (amt : Int) :
    let g := upset f amt
    g .happy = f .happy - (amt.toNat - f .content + 1) / 2
      ∧ g .happy + g .content
        = max (f .happy + f .content - amt.toNat)
          (f .happy - (amt.toNat - f .content) / 2)
      ∧ g .angry = f .angry := by
  have hminima := upset_minima (f .happy) (f .content) amt.toNat rfl rfl
    rfl
  rw [upset_eq hfits rfl rfl rfl]
  refine ⟨?_, ?_, by simp [moved]⟩
  · rw [← hminima.1]
    simp [moved]
  · rw [← hminima.2]
    simp [moved]

/-- Whom the loops of the luxury make happy, and whom content. -/
theorem luxury_minima (content unhappy angry points : Nat)
    {k₁ k₂ k₃ k₄ : Nat}
    (hk₁ : min angry points = k₁) (hk₂ : min content (points - k₁) = k₂)
    (hk₃ : min (unhappy + k₁) ((points - k₁ - k₂) / 2) = k₃)
    (hk₄ : min (unhappy + k₁ - k₃)
      (min 1 (points - k₁ - k₂ - 2 * k₃)) = k₄) :
    k₂ = min content (points - angry)
      ∧ k₃ = min (unhappy + angry) ((points - angry - content) / 2)
      ∧ k₃ + k₄
        = min (unhappy + angry) ((points - angry - content + 1) / 2) := by
  have hrest₁ : points - k₁ = points - angry := by
    clear hk₂ hk₃ hk₄
    omega
  have hall : k₁ = angry ∨ points - angry = 0 := by
    clear hk₂ hk₃ hk₄
    omega
  rw [hrest₁] at hk₂ hk₃ hk₄
  have hrest₂ : points - angry - k₂ = points - angry - content := by
    clear hk₃ hk₄
    omega
  rw [hrest₂] at hk₃ hk₄
  refine ⟨hk₂.symm, ?_⟩
  clear hk₁ hk₂ hrest₁ hrest₂
  rcases hall with rfl | hnone
  · generalize points - k₁ - content = left at hk₃ hk₄ ⊢
    exact ⟨hk₃.symm, by omega⟩
  · rw [hnone] at hk₃ hk₄ ⊢
    omega

theorem luxury_values (hfits : f.total ≤ 255) (luxury : Int) :
    let points := luxuryPoints c.happyCost luxury - f .angry
    let g := c.citizenLuxuryHappy f luxury
    g .happy = f .happy + min (f .content) points
        + min (f .unhappy + f .angry) ((points - f .content) / 2)
      ∧ g .happy + g .content = f .happy + f .content
        + min (f .unhappy + f .angry) ((points - f .content + 1) / 2)
      ∧ g .angry = f .angry - luxuryPoints c.happyCost luxury := by
  have hminima := luxury_minima (f .content) (f .unhappy) (f .angry)
    (luxuryPoints c.happyCost luxury) rfl rfl rfl rfl
  rw [citizenLuxuryHappy_eq hfits rfl rfl rfl rfl rfl]
  generalize luxuryPoints c.happyCost luxury = points at hminima ⊢
  obtain ⟨hhappy, hcontent, hboth⟩ := hminima
  refine ⟨?_, ?_, ?_⟩
  · rw [← hhappy, ← hcontent]
    simp [moved]
  · rw [← hboth]
    have hle := Nat.min_le_left (f .content) (points - min (f .angry) points)
    simp [moved]
    omega
  · simp [moved]
    omega

theorem Better.pacify (h : Better f g) (hfits : f.total ≤ 255)
    {faces faces' : Int} (hfaces : faces ≤ faces') :
    Better (pacify f faces) (pacify g faces') := by
  obtain ⟨htotal, hhappy, hcontent, hangry⟩ := h
  have hfits' : g.total ≤ 255 := by omega
  obtain ⟨hhappy₁, hcontent₁, hangry₁⟩ := pacify_values hfits faces
  obtain ⟨hhappy₂, hcontent₂, hangry₂⟩ := pacify_values hfits' faces'
  have htotal₁ := total_pacify hfits faces
  have htotal₂ := total_pacify hfits' faces'
  have hfaces : faces.toNat ≤ faces'.toNat := Int.toNat_le_toNat hfaces
  refine ⟨htotal₂.trans (htotal.trans htotal₁.symm), ?_, ?_, ?_⟩
  · rw [hhappy₁, hhappy₂]
    exact hhappy
  · rw [hcontent₁, hcontent₂]
    unfold Feel.total at htotal
    clear hcontent₁ hcontent₂ hangry₁ hangry₂ htotal₁ htotal₂
    omega
  · rw [hangry₁, hangry₂]
    exact Nat.le_trans (Nat.sub_le_sub_right hangry _)
      (Nat.sub_le_sub_left hfaces _)

theorem Better.upset (h : Better f g) (hfits : f.total ≤ 255)
    {amt amt' : Int} (hamt : amt' ≤ amt) :
    Better (upset f amt) (upset g amt') := by
  obtain ⟨htotal, hhappy, hcontent, hangry⟩ := h
  have hfits' : g.total ≤ 255 := by omega
  obtain ⟨hhappy₁, hcontent₁, hangry₁⟩ := upset_values hfits amt
  obtain ⟨hhappy₂, hcontent₂, hangry₂⟩ := upset_values hfits' amt'
  have htotal₁ := total_upset hfits amt
  have htotal₂ := total_upset hfits' amt'
  have hamt : amt'.toNat ≤ amt.toNat := Int.toNat_le_toNat hamt
  refine ⟨htotal₂.trans (htotal.trans htotal₁.symm), ?_, ?_, ?_⟩
  · rw [hhappy₁, hhappy₂]
    clear hhappy₁ hhappy₂ hcontent₁ hcontent₂ htotal₁ htotal₂
    omega
  · rw [hcontent₁, hcontent₂]
    clear hhappy₁ hhappy₂ hcontent₁ hcontent₂ htotal₁ htotal₂
    omega
  · rw [hangry₁, hangry₂]
    exact hangry

theorem luxuryPoints_mono (happyCost : Nat) {luxury luxury' : Int}
    (h : luxury ≤ luxury') :
    luxuryPoints happyCost luxury ≤ luxuryPoints happyCost luxury' := by
  unfold luxuryPoints
  by_cases hcost : happyCost = 0
  · rw [if_pos hcost, if_pos hcost]
    by_cases hpays : luxury ≥ 0
    · exact Nat.le_of_eq (by rw [if_pos hpays, if_pos (by omega)])
    · rw [if_neg hpays]
      exact Nat.zero_le _
  · rw [if_neg hcost, if_neg hcost]
    exact Nat.div_le_div_right (by omega)

theorem better_citizenLuxuryHappy (hfits : f.total ≤ 255)
    (hcost : c'.happyCost = c.happyCost) {luxury luxury' : Int}
    (hluxury : luxury ≤ luxury') :
    Better (c.citizenLuxuryHappy f luxury)
      (c'.citizenLuxuryHappy f luxury') := by
  obtain ⟨hhappy₁, hcontent₁, hangry₁⟩ :=
    luxury_values (c := c) hfits luxury
  obtain ⟨hhappy₂, hcontent₂, hangry₂⟩ :=
    luxury_values (c := c') hfits luxury'
  have htotal₁ := total_citizenLuxuryHappy (c := c) hfits luxury
  have htotal₂ := total_citizenLuxuryHappy (c := c') hfits luxury'
  have hpoints := luxuryPoints_mono c.happyCost hluxury
  rw [hcost] at hhappy₂ hcontent₂ hangry₂
  refine ⟨htotal₂.trans htotal₁.symm, ?_, ?_, ?_⟩
  · rw [hhappy₁, hhappy₂]
    clear hhappy₁ hhappy₂ hcontent₁ hcontent₂ hangry₁ hangry₂ htotal₁ htotal₂
    omega
  · rw [hcontent₁, hcontent₂]
    clear hhappy₁ hhappy₂ hcontent₁ hcontent₂ hangry₁ hangry₂ htotal₁ htotal₂
    omega
  · rw [hangry₁, hangry₂]
    exact Nat.sub_le_sub_left hpoints _

-- ==== wonders

/-- The number is one that an `int` can hold. -/
def IsInt (n : Int) : Prop := -2147483648 ≤ n ∧ n ≤ 2147483647

/-- There are so many discontented that happy ones do not outweigh them. -/
def Disordered (f : Feel) : Prop := f .happy < f .unhappy + 2 * f .angry

theorem pacify_disordered (hfits : f.total ≤ 255) (faces : Int) :
    Disordered (pacify f faces)
      ↔ f .happy + faces.toNat < f .unhappy + 2 * f .angry := by
  obtain ⟨hhappy, hcontent, hangry⟩ := pacify_values hfits faces
  have htotal := total_pacify hfits faces
  unfold Disordered
  unfold total at htotal
  generalize pacify f faces = g at hhappy hcontent hangry htotal ⊢
  generalize faces.toNat = n at hcontent hangry ⊢
  rw [hangry, hhappy]
  rw [hcontent, hangry] at htotal
  clear hcontent hangry hfits
  omega

theorem wonders_disordered (hfits : f.total ≤ 255)
    (hsome : ¬ c.noUnhappy > 0) (hforce : IsInt c.forceContent)
    (hsum : IsInt (c.makeHappy + c.forceContent)) {k₁ k₂ : Nat}
    (hk₁ : min (f .content) c.makeHappy.toNat = k₁)
    (hk₂ : min (f .unhappy) ((c.makeHappy.toNat - k₁) / 2) = k₂) :
    Disordered (c.citizenHappyWonders f)
      ↔ f .happy + max (k₁ + 2 * k₂ : Int) (c.makeHappy + c.forceContent)
        < f .unhappy + 2 * f .angry := by
  have hle₁ : k₁ ≤ f .content ∧ k₁ ≤ c.makeHappy.toNat :=
    hk₁ ▸ ⟨Nat.min_le_left _ _, Nat.min_le_right _ _⟩
  have hle₂ : k₂ ≤ f .unhappy ∧ k₂ ≤ (c.makeHappy.toNat - k₁) / 2 :=
    hk₂ ▸ ⟨Nat.min_le_left _ _, Nat.min_le_right _ _⟩
  have hmoved : ((f.moved .content .happy k₁).moved .unhappy .happy
      k₂).total = f.total := by
    rw [total_moved (by decide) (by simpa [moved] using hle₂.1),
      total_moved (by decide) hle₁.1]
  rw [citizenHappyWonders_start hfits hk₁ hk₂, if_neg hsome]
  clear hk₁ hk₂
  unfold IsInt at hforce hsum
  have hrest : int32 (c.makeHappy - k₁ - 2 * k₂ + c.forceContent)
      = c.makeHappy - k₁ - 2 * k₂ + c.forceContent :=
    int32_of_range (by omega) (by omega)
  rw [hrest, pacify_disordered (hmoved ▸ hfits)]
  simp [moved]
  omega

/-- What wonders add to the happy counts for as much as what they take from
the discontented. -/
theorem minima_mono {happy content unhappy angry happy' content' unhappy'
      angry' faces faces' k₁ k₂ k₁' k₂' : Nat}
    (htotal : happy' + content' + unhappy' + angry'
      = happy + content + unhappy + angry)
    (hhappy : happy ≤ happy')
    (hcontent : happy + content ≤ happy' + content')
    (hangry : angry' ≤ angry) (hfaces : faces ≤ faces')
    (hk₁ : min content faces = k₁)
    (hk₂ : min unhappy ((faces - k₁) / 2) = k₂)
    (hk₁' : min content' faces' = k₁')
    (hk₂' : min unhappy' ((faces' - k₁') / 2) = k₂') :
    happy + (k₁ + 2 * k₂) + unhappy' + 2 * angry'
      ≤ happy' + (k₁' + 2 * k₂') + unhappy + 2 * angry := by
  by_cases hmany : faces ≤ content
  · have hnone : k₂ = 0 := by omega
    clear hk₂
    by_cases hmany' : faces' ≤ content' <;> omega
  · by_cases hmany' : faces' ≤ content' <;> omega

/-- Who is better off is not in disorder for the sake of wonders, unless
the others are. -/
theorem Better.wonders (h : Better f g) (hfits : f.total ≤ 255)
    (hforce : IsInt c.forceContent) (hforce' : IsInt c'.forceContent)
    (hsum : IsInt (c.makeHappy + c.forceContent))
    (hsum' : IsInt (c'.makeHappy + c'.forceContent))
    (hnone : c.noUnhappy ≤ c'.noUnhappy)
    (hhappier : c.makeHappy ≤ c'.makeHappy)
    (hforcer : c.forceContent ≤ c'.forceContent)
    (hdisorder : Disordered (c'.citizenHappyWonders g)) :
    Disordered (c.citizenHappyWonders f) := by
  obtain ⟨htotal, hhappy, hcontent, hangry⟩ := h
  have hfits' : g.total ≤ 255 := by omega
  by_cases hnone' : c'.noUnhappy > 0
  · obtain ⟨-, -, hunhappy, hangry⟩ :=
      citizenHappyWonders_none hfits' hnone' rfl rfl
    unfold Disordered at hdisorder
    omega
  · generalize hk₁ : min (f .content) c.makeHappy.toNat = k₁
    generalize hk₂ : min (f .unhappy) ((c.makeHappy.toNat - k₁) / 2) = k₂
    generalize hk₁' : min (g .content) c'.makeHappy.toNat = k₁'
    generalize hk₂' : min (g .unhappy) ((c'.makeHappy.toNat - k₁') / 2) = k₂'
    rw [wonders_disordered hfits (by omega) hforce hsum hk₁ hk₂]
    rw [wonders_disordered hfits' hnone' hforce' hsum' hk₁' hk₂']
      at hdisorder
    unfold Feel.total at htotal
    have hminima := minima_mono htotal hhappy hcontent hangry
      (Int.toNat_le_toNat hhappier) hk₁ hk₂ hk₁' hk₂'
    clear hk₁ hk₂ hk₁' hk₂'
    omega

-- ==== aggressive units

/-- The unhappiness of a unit, if none were forgiven to the city. -/
def demand (c : CityMoods) (punit : SupportedUnit) : Int :=
  let happyCost := int32 (punit.happyCost * c.unhappyFactor)
  if happyCost ≤ 0 ∨ (!punit.beingAggressive && !punit.fieldUnit) then 0
  else max 0 (int32 (happyCost - c.makeContentMilPer))

def demands (c : CityMoods) (units : List SupportedUnit) : Int :=
  (units.map c.demand).sum

theorem demand_nonneg (c : CityMoods) (punit : SupportedUnit) :
    0 ≤ c.demand punit := by
  unfold demand
  dsimp only
  split
  · exact Int.le_refl 0
  · exact Int.le_max_left _ _

theorem demands_nonneg (c : CityMoods) (units : List SupportedUnit) :
    0 ≤ c.demands units := by
  induction units with
  | nil => exact Int.le_refl 0
  | cons punit units ih =>
    have hdemand := c.demand_nonneg punit
    unfold demands at ih ⊢
    rw [List.map_cons, List.sum_cons]
    omega

theorem cityUnitUnhappiness_eq (punit : SupportedUnit) {freeUnhappy : Int}
    (hfree : 0 ≤ freeUnhappy) :
    c.cityUnitUnhappiness punit freeUnhappy
      = (max 0 (c.demand punit - freeUnhappy),
        max 0 (freeUnhappy - c.demand punit)) := by
  have hnothing : ((0 : Int), freeUnhappy)
      = (max 0 (0 - freeUnhappy), max 0 (freeUnhappy - 0)) := by
    congr 1 <;> omega
  unfold cityUnitUnhappiness demand
  generalize int32 (punit.happyCost * c.unhappyFactor) = cost
  by_cases hcost : cost ≤ 0
  · rw [if_pos hcost, if_pos (Or.inl hcost)]
    exact hnothing
  · rw [if_neg hcost, if_neg (by omega)]
    by_cases hcalm : (!punit.beingAggressive && !punit.fieldUnit) = true
    · rw [if_pos hcalm, if_pos (Or.inr hcalm)]
      exact hnothing
    · have hdemands : ¬ (cost ≤ 0
          ∨ (!punit.beingAggressive && !punit.fieldUnit) = true) :=
        fun h => h.elim hcost hcalm
      rw [if_neg hcalm, if_neg hdemands]
      generalize int32 (cost - c.makeContentMilPer) = cost
      by_cases hforgiven : cost ≤ 0
      · rw [if_pos hforgiven, Int.max_eq_left hforgiven]
        exact hnothing
      · rw [if_neg hforgiven]
        by_cases henough : freeUnhappy ≥ cost
        · rw [if_pos henough]
          congr 1 <;> omega
        · rw [if_neg henough]
          congr 1 <;> omega

theorem unitHappyLoop_eq (units : List SupportedUnit) :
    ∀ (upkeep : Nat) (freeUnhappy : Int), upkeep ≤ 255 →
      0 ≤ freeUnhappy →
        c.unitHappyLoop upkeep freeUnhappy units
          = citizens (upkeep + max 0 (c.demands units - freeUnhappy)) := by
  induction units with
  | nil =>
    intro upkeep freeUnhappy hupkeep hfree
    have hnone : max 0 (c.demands [] - freeUnhappy) = 0 := by
      unfold demands
      simp
      omega
    rw [hnone, Int.add_zero, citizens_of_le hupkeep]
    rfl
  | cons punit units ih =>
    intro upkeep freeUnhappy hupkeep hfree
    have hdemand := c.demand_nonneg punit
    have hdemands := c.demands_nonneg units
    have hsum : c.demands (punit :: units)
        = c.demand punit + c.demands units := by
      unfold demands
      rw [List.map_cons, List.sum_cons]
    unfold unitHappyLoop
    rw [cityUnitUnhappiness_eq punit hfree]
    dsimp only
    rw [ih _ _ (by unfold citizens; omega) (by omega), hsum]
    unfold citizens
    omega

theorem unitHappyLoop_of_neg (units : List SupportedUnit) {upkeep : Nat}
    (hupkeep : upkeep ≤ 255) {freeUnhappy : Int} (hfree : freeUnhappy < 0) :
    c.unitHappyLoop upkeep freeUnhappy units = upkeep := by
  induction units with
  | nil => rfl
  | cons punit units ih =>
    have hnone : c.cityUnitUnhappiness punit freeUnhappy
        = (0, freeUnhappy) := by
      unfold cityUnitUnhappiness
      by_cases hcost : int32 (punit.happyCost * c.unhappyFactor) ≤ 0
      · rw [if_pos hcost]
      · rw [if_neg hcost, if_pos hfree]
    unfold unitHappyLoop
    rw [hnone]
    dsimp only
    rw [Int.add_zero, citizens_of_le hupkeep]
    exact ih

/-- Fewer aggressive units: some are gone, or not aggressive any more. -/
inductive FewerAggressive :
    List SupportedUnit → List SupportedUnit → Prop where
  | nil : FewerAggressive [] []
  | keep {units units' : List SupportedUnit} (punit : SupportedUnit)
      (rest : FewerAggressive units units') :
      FewerAggressive (punit :: units) (punit :: units')
  | calm {units units' : List SupportedUnit} (punit : SupportedUnit)
      (rest : FewerAggressive units units') :
      FewerAggressive (punit :: units)
        ({ punit with beingAggressive := false } :: units')
  | gone {units units' : List SupportedUnit} (punit : SupportedUnit)
      (rest : FewerAggressive units units') :
      FewerAggressive (punit :: units) units'

theorem FewerAggressive.refl (units : List SupportedUnit) :
    FewerAggressive units units := by
  induction units with
  | nil => exact .nil
  | cons punit units ih => exact .keep punit ih

/-- Units cause no unhappiness, or the forgiveness is not below 0 and the
counter does not wrap; and no `int` overflows. -/
structure Countable (c : CityMoods) : Prop where
  units : c.demands c.unitsSupported = 0
    ∨ 0 ≤ c.makeContentMil
      ∧ c.demands c.unitsSupported - c.makeContentMil ≤ 255
  costs : ∀ punit ∈ c.unitsSupported,
    let happyCost := int32 (punit.happyCost * c.unhappyFactor)
    0 < happyCost → IsInt (happyCost - c.makeContentMilPer)
  force : IsInt c.forceContent
  wonders : IsInt (c.makeHappy + c.forceContent)

/-- The second city differs only in more content or happy effects, and fewer
aggressive units. -/
structure Improved (c c' : CityMoods) : Prop where
  rest : c' = { c with
    makeContent := c'.makeContent
    unitsSupported := c'.unitsSupported
    makeContentMil := c'.makeContentMil
    makeContentMilPer := c'.makeContentMilPer
    makeHappy := c'.makeHappy
    noUnhappy := c'.noUnhappy
    forceContent := c'.forceContent }
  makeContent : c.makeContent ≤ c'.makeContent
  units : FewerAggressive c.unitsSupported c'.unitsSupported
  makeContentMil : c.makeContentMil ≤ c'.makeContentMil
  makeContentMilPer : c.makeContentMilPer ≤ c'.makeContentMilPer
  makeHappy : c.makeHappy ≤ c'.makeHappy
  noUnhappy : c.noUnhappy ≤ c'.noUnhappy
  forceContent : c.forceContent ≤ c'.forceContent

theorem demand_eq {punit : SupportedUnit} {cost : Int}
    (hcost : int32 (punit.happyCost * c.unhappyFactor) = cost)
    (hfits : 0 < cost → IsInt (cost - c.makeContentMilPer)) :
    c.demand punit
      = if cost ≤ 0 ∨ (!punit.beingAggressive && !punit.fieldUnit) then 0
        else max 0 (cost - c.makeContentMilPer) := by
  subst hcost
  unfold demand
  by_cases hcalm : int32 (punit.happyCost * c.unhappyFactor) ≤ 0
      ∨ (!punit.beingAggressive && !punit.fieldUnit) = true
  · rw [if_pos hcalm, if_pos hcalm]
  · obtain ⟨hlow, hhigh⟩ := hfits (by
      have := not_or.mp hcalm
      omega)
    rw [if_neg hcalm, if_neg hcalm, int32_of_range hlow hhigh]

/-- The demand of a unit that may have become calm, with more forgiven for
each. -/
theorem demand_le (hfactor : c'.unhappyFactor = c.unhappyFactor)
    (hper : c.makeContentMilPer ≤ c'.makeContentMilPer)
    (punit punit' : SupportedUnit)
    (hsame : punit'.happyCost = punit.happyCost)
    (hfield : punit'.fieldUnit = punit.fieldUnit)
    (hcalmer : punit'.beingAggressive = true →
      punit.beingAggressive = true)
    (hfits : 0 < int32 (punit.happyCost * c.unhappyFactor) →
      IsInt (int32 (punit.happyCost * c.unhappyFactor)
        - c.makeContentMilPer))
    (hfits' : 0 < int32 (punit'.happyCost * c'.unhappyFactor) →
      IsInt (int32 (punit'.happyCost * c'.unhappyFactor)
        - c'.makeContentMilPer)) :
    c'.demand punit' ≤ c.demand punit := by
  rw [hsame, hfactor] at hfits'
  rw [demand_eq rfl hfits, demand_eq (by rw [hsame, hfactor]) hfits', hfield]
  generalize int32 (punit.happyCost * c.unhappyFactor) = cost
  by_cases hcalm : cost ≤ 0
      ∨ (!punit'.beingAggressive && !punit.fieldUnit) = true
  · rw [if_pos hcalm]
    split
    · exact Int.le_refl 0
    · exact Int.le_max_left _ _
  · have hcalm' : ¬ (cost ≤ 0
        ∨ (!punit.beingAggressive && !punit.fieldUnit) = true) := by
      rintro (hcost | hcalm')
      · exact hcalm (Or.inl hcost)
      · cases hagg : punit'.beingAggressive with
        | false =>
          rw [hagg] at hcalm
          simp at hcalm hcalm'
          rw [hcalm.2] at hcalm'
          cases hcalm'.2
        | true =>
          rw [hcalmer hagg] at hcalm'
          cases hcalm'
    rw [if_neg hcalm, if_neg hcalm']
    omega

theorem demands_le (hfactor : c'.unhappyFactor = c.unhappyFactor)
    (hper : c.makeContentMilPer ≤ c'.makeContentMilPer)
    {units units' : List SupportedUnit}
    (hunits : FewerAggressive units units')
    (hfits : ∀ punit ∈ units,
      0 < int32 (punit.happyCost * c.unhappyFactor) →
        IsInt (int32 (punit.happyCost * c.unhappyFactor)
          - c.makeContentMilPer))
    (hfits' : ∀ punit ∈ units',
      0 < int32 (punit.happyCost * c'.unhappyFactor) →
        IsInt (int32 (punit.happyCost * c'.unhappyFactor)
          - c'.makeContentMilPer)) :
    c'.demands units' ≤ c.demands units := by
  unfold demands
  induction hunits with
  | nil => exact Int.le_refl _
  | keep punit rest ih =>
    have hle := demand_le hfactor hper punit punit rfl rfl id
      (hfits punit List.mem_cons_self) (hfits' _ List.mem_cons_self)
    have hrest := ih
      (fun u hu => hfits u (List.mem_cons_of_mem _ hu))
      fun u hu => hfits' u (List.mem_cons_of_mem _ hu)
    simp only [List.map_cons, List.sum_cons]
    omega
  | calm punit rest ih =>
    have hle := demand_le hfactor hper punit
      { punit with beingAggressive := false } rfl rfl nofun
      (hfits punit List.mem_cons_self) (hfits' _ List.mem_cons_self)
    have hrest := ih
      (fun u hu => hfits u (List.mem_cons_of_mem _ hu))
      fun u hu => hfits' u (List.mem_cons_of_mem _ hu)
    simp only [List.map_cons, List.sum_cons]
    omega
  | gone punit rest ih =>
    have hdemand := c.demand_nonneg punit
    have hrest := ih
      (fun u hu => hfits u (List.mem_cons_of_mem _ hu)) hfits'
    simp only [List.map_cons, List.sum_cons]
    omega

theorem Improved.unitHappyUpkeep (h : Improved c c') (hc : Countable c)
    (hc' : Countable c') : c'.unitHappyUpkeep ≤ c.unitHappyUpkeep := by
  have hfactor : c'.unhappyFactor = c.unhappyFactor := by
    rw [h.rest]
  have hle := demands_le hfactor h.makeContentMilPer h.units hc.costs
    hc'.costs
  have hmil := h.makeContentMil
  have hdemands := c'.demands_nonneg c'.unitsSupported
  have hunits := hc.units
  unfold CityMoods.unitHappyUpkeep
  by_cases hfree' : c'.makeContentMil < 0
  · rw [unitHappyLoop_of_neg _ (Nat.zero_le _) hfree']
    exact Nat.zero_le _
  · rw [unitHappyLoop_eq (c := c') _ 0 _ (Nat.zero_le _) (by omega)]
    by_cases hfree : c.makeContentMil < 0
    · unfold citizens
      omega
    · rw [unitHappyLoop_eq _ 0 _ (Nat.zero_le _) (by omega)]
      unfold citizens
      omega

/-- An improved city with more luxury is not in disorder, unless the other
is. -/
theorem Improved.cityUnhappy (h : Improved c c') (hc : Countable c)
    (hc' : Countable c') (hfits : c.citizenBaseMood.total ≤ 255)
    {luxury luxury' : Int} (hluxury : luxury ≤ luxury')
    (hdisorder : c'.cityUnhappy luxury' = true) :
    c.cityUnhappy luxury = true := by
  have hbase : c'.citizenBaseMood = c.citizenBaseMood := by
    rw [h.rest]
    rfl
  have hcost : c'.happyCost = c.happyCost := by
    rw [h.rest]
  have hlaw : c'.martialLaw = c.martialLaw := by
    rw [h.rest]
    rfl
  have hunits := h.unitHappyUpkeep hc hc'
  have hfits₁ := total_feel hfits luxury .luxury
  have hfits₂ := total_feel hfits luxury .effect
  have hfits₃ := total_feel hfits luxury .nationality
  have hfits₄ := total_feel hfits luxury .martial
  have h₁ : Better (c.feel luxury .luxury) (c'.feel luxury' .luxury) := by
    show Better (c.citizenLuxuryHappy c.citizenBaseMood luxury)
      (c'.citizenLuxuryHappy c'.citizenBaseMood luxury')
    rw [hbase]
    exact better_citizenLuxuryHappy hfits hcost hluxury
  have h₂ : Better (c.feel luxury .effect) (c'.feel luxury' .effect) :=
    h₁.pacify (by omega) h.makeContent
  have h₃ : Better (c.feel luxury .nationality)
      (c'.feel luxury' .nationality) := by
    have hsame : c'.citizenHappinessNationality
        = c.citizenHappinessNationality := by
      rw [h.rest]
      rfl
    show Better (c.citizenHappinessNationality (c.feel luxury .effect))
      (c'.citizenHappinessNationality (c'.feel luxury' .effect))
    rw [hsame]
    unfold citizenHappinessNationality
    by_cases hunrest : c.citizenNationality ∧ c.enemyCitizenUnhappyPct > 0
    · rw [if_pos hunrest, if_pos hunrest]
      exact h₂.upset (by omega) (Int.le_refl _)
    · rw [if_neg hunrest, if_neg hunrest]
      exact h₂
  have h₄ : Better (c.feel luxury .martial) (c'.feel luxury' .martial) := by
    have hpacified := h₃.pacify (by omega)
      (Int.le_of_eq (congrArg Int.ofNat hlaw.symm))
    exact hpacified.upset
      (by rw [total_pacify (by omega)]; omega) (by omega)
  unfold CityMoods.cityUnhappy at hdisorder ⊢
  rw [decide_eq_true_eq] at hdisorder ⊢
  exact h₄.wonders (by omega) hc.force hc'.force hc.wonders hc'.wonders
    h.noUnhappy h.makeHappy h.forceContent hdisorder

-- ==== the results

/-- The citizens and the specialists are as many as the size says, unless
the specialists are too many to be counted. -/
theorem conserved_iff (hsize : c.size ≤ maxCitySize)
    (hspes : c.specialists.sum ≤ c.size) (luxury : Int) :
    (∀ i, (c.feel luxury i).total + c.specialists.sum = c.size)
      ↔ c.specialists.sum < maxCitySize := by
  have hcount := citySpecialists_eq c.specialists 0 (by decide)
  rw [Nat.zero_add] at hcount
  unfold maxCitySize at hsize ⊢
  by_cases hcounted : c.specialists.sum < 255
  · rw [if_pos hcounted] at hcount
    have hbase := total_citizenBaseMood hsize (hcount ▸ hspes)
    refine ⟨fun _ => hcounted, fun _ i => ?_⟩
    rw [total_feel (by omega), hbase, hcount]
    omega
  · rw [if_neg hcounted] at hcount
    have hbase := total_citizenBaseMood hsize (by omega)
    refine ⟨fun h => ?_, fun h => absurd h hcounted⟩
    have hlevel := h .base
    rw [total_feel (by omega), hbase, hcount] at hlevel
    omega

end CityMoods

/-- Citizens are conserved if and only if the specialists are fewer than
the greatest size, and an improved city with more luxury does not fall into
disorder if both can be counted. -/
theorem moods_are_conserved_and_monotone (c c' : CityMoods)
    (luxury luxury' : Int) (hsize : c.size ≤ maxCitySize)
    (hspes : c.specialists.sum ≤ c.size) :
    ((∀ i, (c.feel luxury i).total + c.specialists.sum = c.size)
        ↔ c.specialists.sum < maxCitySize)
      ∧ (c.Improved c' → luxury ≤ luxury' → c.Countable → c'.Countable →
        c.cityUnhappy luxury = false →
          c'.cityUnhappy luxury' = false) := by
  refine ⟨CityMoods.conserved_iff hsize hspes luxury,
    fun himproved hluxury hc hc' horder => ?_⟩
  have hfits : c.citizenBaseMood.total ≤ 255 := by
    have hcount := CityMoods.citySpecialists_eq c.specialists 0 (by decide)
    have hle : CityMoods.citySpecialists 0 c.specialists ≤ c.size := by
      rw [hcount]
      split <;> omega
    unfold maxCitySize at hsize
    rw [CityMoods.total_citizenBaseMood hsize hle]
    omega
  cases hdisorder : c'.cityUnhappy luxury' with
  | false => rfl
  | true =>
    rw [himproved.cityUnhappy hc hc' hfits hluxury hdisorder] at horder
    cases horder

/-- A city without effects, but for eight citizens born content. -/
def city (size : Nat) (specialists : List Nat)
    (units : List SupportedUnit) : CityMoods where
  size := size
  specialists := specialists
  cities := 1
  cityUnhappySize := 8
  empireSizeBase := 0
  empireSizeStep := 0
  angrycitizen := true
  happyCost := 2
  makeContent := 0
  citizenNationality := true
  enemyCitizenUnhappyPct := 0
  foreign := []
  martialLawEach := 0
  martialLawMax := 0
  garrison := []
  unitsSupported := units
  unhappyFactor := 1
  makeContentMil := 0
  makeContentMilPer := 0
  makeHappy := 0
  noUnhappy := 0
  forceContent := 0

def warrior : SupportedUnit where
  happyCost := 1
  beingAggressive := true
  fieldUnit := false

theorem city_is_conserved_and_monotone :
    let c := city 5 [1, 0] [warrior, warrior]
    let c' := { c with
      unitsSupported := [{ warrior with beingAggressive := false }]
      makeHappy := 1 }
    (∀ i, (c.feel 5 i).total + c.specialists.sum = c.size)
      ∧ c'.cityUnhappy 6 = false := by
  intro c c'
  have h := moods_are_conserved_and_monotone c c' 5 6 (by decide)
    (by decide)
  have hcosts : ∀ punit : SupportedUnit, punit.happyCost = 1 →
      CityMoods.IsInt (int32 (punit.happyCost * 1) - 0) := by
    intro punit hcost
    rw [hcost]
    exact ⟨by decide, by decide⟩
  have hc : c.Countable :=
    { units := Or.inr ⟨by decide, by decide⟩
      costs := fun punit hunit _ => hcosts punit (by
        have hall : ∀ punit ∈ c.unitsSupported, punit.happyCost = 1 := by
          decide
        exact hall punit hunit)
      force := ⟨by decide, by decide⟩
      wonders := ⟨by decide, by decide⟩ }
  have hc' : c'.Countable :=
    { units := Or.inr ⟨by decide, by decide⟩
      costs := fun punit hunit _ => hcosts punit (by
        have hall : ∀ punit ∈ c'.unitsSupported, punit.happyCost = 1 := by
          decide
        exact hall punit hunit)
      force := ⟨by decide, by decide⟩
      wonders := ⟨by decide, by decide⟩ }
  have himproved : c.Improved c' :=
    { rest := rfl
      makeContent := Int.le_refl _
      units := .calm _ (.gone _ .nil)
      makeContentMil := Int.le_refl _
      makeContentMilPer := Int.le_refl _
      makeHappy := by decide
      noUnhappy := Int.le_refl _
      forceContent := Int.le_refl _ }
  exact ⟨h.1.mpr (by decide),
    h.2 himproved (by decide) hc hc' (by decide +kernel)⟩

/-- Citizens that are all specialists, at the greatest size, are counted as
none; and of two cities the one with fewer units abroad is in disorder. -/
theorem moods_fail :
    let full := city 255 [255] []
    let crowd := city 4 [] (List.replicate 256 warrior)
    let fewer := city 4 [] (List.replicate 255 warrior)
    (full.feel 0 .final).total + full.specialists.sum ≠ full.size
      ∧ crowd.Improved fewer ∧ crowd.cityUnhappy 0 = false
      ∧ fewer.cityUnhappy 0 = true := by
  have hmore : List.replicate 256 warrior
      = warrior :: List.replicate 255 warrior := List.replicate_succ
  have hunits : CityMoods.FewerAggressive
      (warrior :: List.replicate 255 warrior)
      (List.replicate 255 warrior) := .gone _ (.refl _)
  refine ⟨by decide +kernel, ?_, by decide +kernel, by decide +kernel⟩
  rw [hmore]
  exact
    { rest := rfl
      makeContent := Int.le_refl 0
      units := hunits
      makeContentMil := Int.le_refl 0
      makeContentMilPer := Int.le_refl 0
      makeHappy := Int.le_refl 0
      noUnhappy := Int.le_refl 0
      forceContent := Int.le_refl 0 }

end Freeciv3d.Server
