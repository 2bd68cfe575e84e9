/-
The moods of a city's citizens, level after level.

# Counters

Citizens are counted in eight bits, also what units and martial law do to
them. The other numbers are `int`s. A loop that moves citizens from one
category to another runs as long as there are some and what is left to pay
for it suffices.

# Assertions

An assertion that fails is logged, and makes its function return early.
-/
import Mathlib.Logic.Function.Basic
import Freeciv3d.Server.DataioRaw

namespace Freeciv3d.Server

open Function

inductive CitizenCategory where
  | happy
  | content
  | unhappy
  | angry
  deriving DecidableEq

inductive CitizenFeeling where
  | base
  | luxury
  | effect
  | nationality
  | martial
  | final

abbrev Feel := CitizenCategory → Nat

def citizens (n : Int) : Nat := (n % 256).toNat

def maxCitySize : Nat := 255

def clip (lower this upper : Int) : Int :=
  if this < lower then lower else if this > upper then upper else this

namespace Feel

def move (f : Feel) (src dst : CitizenCategory) : Feel :=
  let f := update f src (citizens (f src - 1))
  update f dst (citizens (f dst + 1))

/-- Citizens change category, as long as the budget pays for them; with
those of the category left to do so. -/
def moveLoop (src dst : CitizenCategory) (cost : Int) :
    Nat → Feel → Int → Feel × Int
  | 0, f, budget => (f, budget)
  | left + 1, f, budget =>
    if budget ≥ cost then
      moveLoop src dst cost left (f.move src dst) (budget - cost)
    else (f, budget)

def moveWhile (f : Feel) (src dst : CitizenCategory) (cost budget : Int) :
    Feel × Int :=
  moveLoop src dst cost (f src) f budget

end Feel

/-- A unit on the city's tile, as martial law looks at it. -/
structure GarrisonUnit where
  isMartialLawUnit : Bool
  own : Bool

structure SupportedUnit where
  happyCost : Int
  beingAggressive : Bool
  /-- `is_field_unit`. -/
  fieldUnit : Bool

/-- What the moods of a city depend on, but for its luxury. -/
structure CityMoods where
  size : Nat
  specialists : List Nat
  cities : Nat
  cityUnhappySize : Int
  empireSizeBase : Int
  empireSizeStep : Int
  angrycitizen : Bool
  /-- `game.info.happy_cost`, from 0 to 10000. -/
  happyCost : Nat
  makeContent : Int
  citizenNationality : Bool
  enemyCitizenUnhappyPct : Int
  /-- Foreign citizens by nationality, and whether it is at war with the
  owner. -/
  foreign : List (Nat × Bool)
  martialLawEach : Int
  martialLawMax : Int
  garrison : List GarrisonUnit
  unitsSupported : List SupportedUnit
  unhappyFactor : Int
  makeContentMil : Int
  makeContentMilPer : Int
  makeHappy : Int
  noUnhappy : Int
  forceContent : Int

namespace CityMoods

variable (c : CityMoods)

-- ==== support

/-- `city_specialists`: the assertion fails at the greatest size. -/
def citySpecialists (count : Nat) : List Nat → Nat
  | [] => count
  | sp :: specialists =>
    if (maxCitySize : Int) - count > sp then
      citySpecialists (citizens (count + sp)) specialists
    else 0

def playerBaseCitizenHappiness : Int :=
  let content := c.cityUnhappySize
  let basis := c.empireSizeBase
  let step := c.empireSizeStep
  if int32 (basis + step) ≤ 0 then content
  else if c.cities > basis then
    let content := int32 (content - 1)
    if step ≠ 0 then
      int32 (content - (int32 (int32 (c.cities - basis) - 1)).tdiv step)
    else content
  else content

def playerContentCitizens : Nat :=
  citizens (clip 0 c.playerBaseCitizenHappiness maxCitySize)

def playerAngryCitizens : Nat :=
  if !c.angrycitizen then 0
  else citizens
    (clip 0 (int32 (-c.playerBaseCitizenHappiness)) maxCitySize)

def martialLawCount (martialLawMax : Int) :
    Int → List GarrisonUnit → Int
  | count, [] => count
  | count, punit :: units =>
    if (count < martialLawMax ∨ martialLawMax = 0)
        ∧ punit.isMartialLawUnit ∧ punit.own then
      martialLawCount martialLawMax (count + 1) units
    else martialLawCount martialLawMax count units

def martialLaw : Nat :=
  if c.martialLawEach > 0 then
    citizens (clip 0
      (int32 (martialLawCount c.martialLawMax 0 c.garrison
        * c.martialLawEach))
      maxCitySize)
  else 0

/-- `city_unit_unhappiness`, and `free_unhappy` afterwards. -/
def cityUnitUnhappiness (punit : SupportedUnit) (freeUnhappy : Int) :
    Int × Int :=
  let happyCost := int32 (punit.happyCost * c.unhappyFactor)
  if happyCost ≤ 0 then (0, freeUnhappy)
  else if freeUnhappy < 0 then (0, freeUnhappy)
  else if !punit.beingAggressive && !punit.fieldUnit then (0, freeUnhappy)
  else
    let happyCost := int32 (happyCost - c.makeContentMilPer)
    if happyCost ≤ 0 then (0, freeUnhappy)
    else if freeUnhappy ≥ happyCost then (0, freeUnhappy - happyCost)
    else (happyCost - freeUnhappy, 0)

/-- The sum over the supported units, in eight bits. -/
def unitHappyLoop : Nat → Int → List SupportedUnit → Nat
  | upkeep, _, [] => upkeep
  | upkeep, freeUnhappy, punit :: units =>
    let (unhappiness, freeUnhappy) :=
      c.cityUnitUnhappiness punit freeUnhappy
    unitHappyLoop (citizens (upkeep + unhappiness)) freeUnhappy units

def unitHappyUpkeep : Nat :=
  c.unitHappyLoop 0 c.makeContentMil c.unitsSupported

-- ==== levels

def citizenBaseMood : Feel :=
  let spes := citySpecialists 0 c.specialists
  let baseContent := c.playerContentCitizens
  let baseAngry := c.playerAngryCitizens
  let content :=
    citizens (max 0 (min (c.size : Int) baseContent - spes))
  let content := if baseContent = 0 ∨ baseAngry = 0 then content else 0
  let angry := citizens (min (baseAngry : Int) (c.size - spes))
  fun
    | .happy => 0
    | .content => content
    | .unhappy => citizens ((c.size : Int) - spes - content - angry)
    | .angry => angry

def citizenLuxuryHappy (f : Feel) (luxuries : Int) : Feel :=
  let (f, luxuries) := f.moveWhile .angry .unhappy c.happyCost luxuries
  let (f, luxuries) := f.moveWhile .content .happy c.happyCost luxuries
  let (f, luxuries) :=
    f.moveWhile .unhappy .happy (2 * c.happyCost) luxuries
  if luxuries ≥ c.happyCost ∧ f .unhappy > 0 then f.move .unhappy .content
  else f

/-- Angry citizens become unhappy, then unhappy ones content. -/
def pacify (f : Feel) (faces : Int) : Feel :=
  let (f, faces) := f.moveWhile .angry .unhappy 1 faces
  (f.moveWhile .unhappy .content 1 faces).1

/-- "First make content => unhappy, then happy => unhappy, then happy =>
content." -/
def upset (f : Feel) (amt : Int) : Feel :=
  let (f, amt) := f.moveWhile .content .unhappy 1 amt
  let (f, amt) := f.moveWhile .happy .unhappy 2 amt
  (f.moveWhile .happy .content 1 amt).1

def citizenContentBuildings (f : Feel) : Feel := pacify f c.makeContent

def citizenHappinessNationality (f : Feel) : Feel :=
  if c.citizenNationality ∧ c.enemyCitizenUnhappyPct > 0 then
    let enemies : Int := (c.foreign.map fun (nationality, atWar) =>
      if atWar then (nationality : Int) else 0).sum
    upset f ((int32 (enemies * c.enemyCitizenUnhappyPct)).tdiv 100)
  else f

def citizenHappyUnits (f : Feel) : Feel :=
  upset (pacify f c.martialLaw) c.unitHappyUpkeep

def citizenHappyWonders (f : Feel) : Feel :=
  let (f, bonus) := f.moveWhile .content .happy 1 c.makeHappy
  let (f, bonus) := f.moveWhile .unhappy .happy 2 bonus
  if c.noUnhappy > 0 then
    fun
      | .happy => f .happy
      | .content => citizens (f .content + (f .unhappy + f .angry))
      | .unhappy => 0
      | .angry => 0
  else pacify f (int32 (bonus + c.forceContent))

def feel (luxury : Int) : CitizenFeeling → Feel :=
  let base := c.citizenBaseMood
  let luxuries := c.citizenLuxuryHappy base luxury
  let effect := c.citizenContentBuildings luxuries
  let nationality := c.citizenHappinessNationality effect
  let martial := c.citizenHappyUnits nationality
  let final := c.citizenHappyWonders martial
  fun
    | .base => base
    | .luxury => luxuries
    | .effect => effect
    | .nationality => nationality
    | .martial => martial
    | .final => final

def cityUnhappy (luxury : Int) : Bool :=
  let final := c.feel luxury .final
  final .happy < final .unhappy + 2 * final .angry

end CityMoods

end Freeciv3d.Server
