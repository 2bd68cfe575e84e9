/-
The `RulesetMapper` a handler keeps: built once, over tables that are
still being filled by the ruleset packets, and loaded again when it is
asked while it has no units or no buildings.

# Loading

`_load_mappings` writes into the tables it has. Nothing takes an entry out
of them, and only `_ensure_loaded` calls it again.

# What is left out

Of a ruleset packet its number and name. A packet whose `name` is not a
string, and the state without a `CivCom`.
-/
import Freeciv3d.Proxy.Research
import Freeciv3d.Proxy.RulesetMapper

namespace Freeciv3d.Proxy

open Lib

/-- What is read of PACKET_RULESET_UNIT and its siblings. -/
structure RulesetItem where
  id : Option Int
  name : Option String

structure RulesetNames where
  unitTypes : Dict Int String
  improvements : Dict Int String
  techs : Dict Int String

namespace RulesetNames

/-- The names of `CivCom.__init__`. -/
def init : RulesetNames where
  unitTypes := ∅
  improvements := ∅
  techs := ∅

/-- `table[id] = packet`, if there is a number and a name. -/
def register (table : Dict Int String) (packet : RulesetItem) :
    Dict Int String :=
  match packet.id, packet.name with
  | some id, some name => if name = "" then table else table.set id name
  | _, _ => table

variable (s : RulesetNames)

def handleRulesetUnit (packet : RulesetItem) : RulesetNames :=
  { s with unitTypes := register s.unitTypes packet }

def handleRulesetBuilding (packet : RulesetItem) : RulesetNames :=
  { s with improvements := register s.improvements packet }

/-- `packet.get('name', '').replace('?tech:', '')`. -/
def techName (name : Option String) : String :=
  String.ofList (ResearchStores.withoutMark (name.getD "").toList)

/-- The PACKET_RULESET_TECH branch: the name is stored without its mark. -/
def handleRulesetTech (packet : RulesetItem) : RulesetNames :=
  { s with
    techs := register s.techs ⟨packet.id, some (techName packet.name)⟩ }

end RulesetNames

namespace RulesetMapper

variable (rt : PyRuntime)

/-- The tables of `__init__`. -/
def empty : RulesetMapper where
  unitTypes := ∅
  buildings := ∅
  techs := ∅

/-- One table: the named entries are written into it. -/
def loadInto (key : String → String) (table : Dict String Int)
    (d : Dict Int String) : Dict String Int :=
  (d.entries.filterMap fun e =>
    if e.2 = "" then none else some (key e.2, e.1)).foldl
      (fun acc e => acc.set e.1 e.2) table

def loadMappings (mapper : RulesetMapper) (s : RulesetNames) :
    RulesetMapper where
  unitTypes := loadInto (lower rt) mapper.unitTypes s.unitTypes
  buildings := loadInto (lower rt) mapper.buildings s.improvements
  techs := loadInto (normalizeTechName rt) mapper.techs s.techs

def ensureLoaded (mapper : RulesetMapper) (s : RulesetNames) :
    RulesetMapper :=
  let mapper :=
    if mapper.unitTypes.size = 0 ∧ s.unitTypes.size ≠ 0 then
      mapper.loadMappings rt s
    else mapper
  if mapper.buildings.size = 0 ∧ s.improvements.size ≠ 0 then
    mapper.loadMappings rt s
  else mapper

end RulesetMapper

/-- A ruleset: the number and the name of each unit, building and
technology, as in its packets. -/
structure Ruleset where
  units : List (Int × String)
  buildings : List (Int × String)
  techs : List (Int × String)

inductive MapperAct where
  /-- A packet of the ruleset comes, again or for the first time. -/
  | unit (item : Int × String)
  | building (item : Int × String)
  | tech (item : Int × String)
  /-- `RulesetMapper(civcom)`. -/
  | create
  /-- The mapper is asked; the answers are in the state it leaves. -/
  | mapProduction (name : String)
  | getTech (name : String)

/-- The names of a `CivCom` and the mapper of its handler. -/
structure MapperWorld where
  names : RulesetNames
  mapper : Option RulesetMapper

namespace MapperWorld

variable (rt : PyRuntime) (w : MapperWorld)

def init : MapperWorld where
  names := .init
  mapper := none

def ask : Option MapperWorld :=
  w.mapper.map fun mapper =>
    { w with mapper := some (mapper.ensureLoaded rt w.names) }

/-- `map_production_to_kind_value` of the mapper as it is now. -/
def production (mapper : RulesetMapper) (name : String) :
    Option (Int × Int) :=
  (mapper.ensureLoaded rt w.names).mapProductionToKindValue rt name

/-- `get_tech_id` of the mapper as it is now. -/
def techId (mapper : RulesetMapper) (name : String) : Option Int :=
  (mapper.ensureLoaded rt w.names).getTechId rt name

def packetOf (item : Int × String) : RulesetItem :=
  ⟨some item.1, some item.2⟩

def step (r : Ruleset) : MapperAct → Option MapperWorld
  | .unit item =>
    if item ∈ r.units then
      some { w with names := w.names.handleRulesetUnit (packetOf item) }
    else none
  | .building item =>
    if item ∈ r.buildings then
      some { w with
        names := w.names.handleRulesetBuilding (packetOf item) }
    else none
  | .tech item =>
    if item ∈ r.techs then
      some { w with names := w.names.handleRulesetTech (packetOf item) }
    else none
  | .create =>
    if w.mapper.isNone then
      some { w with
        mapper := some (RulesetMapper.empty.loadMappings rt w.names) }
    else none
  | .mapProduction _ => w.ask rt
  | .getTech _ => w.ask rt

end MapperWorld

/-- The runs of a ruleset's packets, a mapper and what it is asked. -/
def mapperRuns (rt : PyRuntime) (r : Ruleset) : Lts MapperWorld MapperAct where
  init w := w = MapperWorld.init
  step w act := w.step rt r act

end Freeciv3d.Proxy
