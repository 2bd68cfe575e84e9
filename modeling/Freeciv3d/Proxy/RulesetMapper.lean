/-
`RulesetMapper`: names of units, buildings and technologies to the
numbers of the ruleset the civserver sent.

The mapper is built anew for every conversion; a ruleset entry without
a name is skipped, and of two entries with the same key the later one
stays. `_ensure_loaded` loads the same tables once more and changes
nothing.
-/
import Freeciv3d.Lib.PyVal
import Freeciv3d.Proxy.Mirror

namespace Freeciv3d.Proxy

open Lib

structure RulesetMapper where
  unitTypes : Dict String Int
  buildings : Dict String Int
  techs : Dict String Int

namespace RulesetMapper

variable (rt : PyRuntime)

def vutImprovement : Int := 3

def vutUtype : Int := 6

/-- `s.lower()`. -/
def lower (s : String) : String := String.ofList (rt.lower s.toList)

/-- `re.sub(r'\s+', ' ', s)`. -/
def collapseSpaces : (afterSpace : Bool) → List Char → List Char
  | _, [] => []
  | afterSpace, c :: cs =>
    if PyStr.isSpace c then
      if afterSpace then collapseSpaces true cs
      else ' ' :: collapseSpaces true cs
    else c :: collapseSpaces false cs

def normalizeTechName (name : String) : String :=
  let bare := if PyStr.startsWith name "?tech:" then PyStr.dropChars 6 name
    else name
  let trimmed := PyStr.stripChars (rt.lower bare.toList)
  String.ofList ((collapseSpaces false trimmed).map fun c =>
    if c = ' ' then '_' else c)

/-- One table: the named entries of a ruleset, by `key` of the name. -/
def loadTable {ρ : Type} (key : String → String) (name : ρ → String)
    (d : Dict Int ρ) : Dict String Int :=
  Dict.ofList (d.entries.filterMap fun e =>
    if name e.2 = "" then none else some (key (name e.2), e.1))

def load (m : Mirror) : RulesetMapper where
  unitTypes := loadTable (lower rt) UnitType.name m.unitTypes
  buildings := loadTable (lower rt) Improvement.name m.improvements
  techs := loadTable (normalizeTechName rt) id m.techs

def getTechId (mapper : RulesetMapper) (techName : String) : Option Int :=
  if techName = "" then none
  else mapper.techs.get? (normalizeTechName rt techName)

/-- `s.endswith(ending)`. -/
def endsWith (s ending : String) : Bool :=
  ending.toList.isSuffixOf s.toList

/-- `s[:-n]`. -/
def dropEnd (n : Nat) (s : String) : String :=
  PyStr.takeChars (s.length - n) s

/-- `_fuzzy_match_name`: the first of the variants that the table
knows. -/
def fuzzyMatchName (name : String) (table : Dict String Int) :
    Option String :=
  let variants : List (Bool × String) :=
    [(true, name ++ "s"),
      (["x", "z", "ch", "sh"].any (endsWith name), name ++ "es"),
      (endsWith name "s" && !endsWith name "ss" && 2 < name.length,
        dropEnd 1 name),
      (endsWith name "man", dropEnd 3 name ++ "men"),
      (endsWith name "men", dropEnd 3 name ++ "man")]
  (variants.find? fun v => v.1 && table.contains v.2).map Prod.snd

/-- `map_production_to_kind_value`: units before buildings, exact names
before variants. -/
def mapProductionToKindValue (mapper : RulesetMapper)
    (productionName : String) : Option (Int × Int) :=
  let name := String.ofList
    (PyStr.stripChars (rt.lower productionName.toList))
  let unitOf (n : String) :=
    (mapper.unitTypes.get? n).map fun i => (vutUtype, i)
  let buildingOf (n : String) :=
    (mapper.buildings.get? n).map fun i => (vutImprovement, i)
  ((unitOf name).or (buildingOf name)).or
    (((fuzzyMatchName name mapper.unitTypes).bind unitOf).or
      ((fuzzyMatchName name mapper.buildings).bind buildingOf))

end RulesetMapper

end Freeciv3d.Proxy
